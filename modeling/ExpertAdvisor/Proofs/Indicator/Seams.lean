import ExpertAdvisor.Proofs.Indicator.Lines

namespace ExpertAdvisor.Indicator

open Text

/-!
# Seams

What a text declares with another text behind it has three parts: what it
declares by itself, the declaration that begins in it and reaches over the seam
if there is one, and what the text behind the seam declares.
-/

/-! The parts of a declaration around its equals sign. -/

/-- Neither a word nor a gap has a character that is in none of their classes. -/
theorem WellSpaced.not_mem_spacedText
    {words : List SpacedWord}
    {character : Char}
    (spaced : WellSpaced words)
    (noWord : isWord character = false)
    (noBlank : isBlank character = false) :
    character ∉ spacedText words := by
  induction spaced with
  | nil => exact List.not_mem_nil
  | cons within _ gapWithin _ _ inductionHypothesis =>
      rw [← List.append_nil (spacedText _), spacedText_cons, List.append_nil, List.mem_append,
        List.mem_append, not_or, not_or]
      exact ⟨within.not_mem noWord, gapWithin.not_mem noBlank, inductionHypothesis⟩

namespace DeclarationForm

/-- A declaration up to its equals sign. -/
def lead (form : DeclarationForm) : List Char :=
  form.indent ++ spacedText form.words ++ ['=']

/-- A form is its lead, its value and the mark at its end. -/
theorem text_eq_lead (form : DeclarationForm) :
    form.text = form.lead ++ (form.value ++ [';']) := by
  simp [text_eq, lead, ending]

/-- Up to its value a declaration has words, blanks and its equals sign only. -/
theorem not_mem_lead
    (form : DeclarationForm)
    {character : Char}
    (noWord : isWord character = false)
    (noBlank : isBlank character = false)
    (noEquals : character ≠ '=') :
    character ∉ form.lead := by
  have spaced := form.wellSpaced.not_mem_spacedText noWord noBlank
  have indentBlank : Within isBlank form.indent := form.indent_within.mono isBlank_of_isSpaceOrTab
  simp only [lead, List.mem_append, List.mem_singleton, not_or]
  exact ⟨⟨indentBlank.not_mem noBlank, spaced⟩, noEquals⟩

/-- The same declaration with another value. -/
def withValue
    (form : DeclarationForm)
    (value : List Char)
    (within : Within isValueCharacter value) : DeclarationForm :=
  { form with value := value, value_within := within }

/-- A form with another value has the same lead. -/
theorem text_withValue
    (form : DeclarationForm)
    {value : List Char}
    (within : Within isValueCharacter value) :
    (form.withValue value within).text = form.lead ++ (value ++ [';']) := by
  rw [text_eq_lead]
  rfl

/-- A declaration has no semicolon but the one in which it ends. -/
theorem eq_nil_of_semicolon
    {form : DeclarationForm}
    {before behind : List Char}
    (shape : form.text = before ++ ';' :: behind) :
    behind = [] := by
  have inLead : ';' ∉ form.lead := form.not_mem_lead (by decide) (by decide) (by decide)
  have inValue : ';' ∉ form.value := form.value_within.not_mem (by decide)
  rw [text_eq_lead] at shape
  obtain ⟨pastLead, _, behindLead⟩ := occurs_behind shape inLead
  obtain ⟨pastValue, _, atEnd⟩ := occurs_behind behindLead inValue
  cases pastValue with
  | nil => exact (List.cons.inj atEnd).2.symm
  | cons _ _ => simp at atEnd

end DeclarationForm

/-! The beginning of a text that goes on. -/

/-- What leads a text is the parameter of a form that it begins with. -/
theorem exists_form_of_leadingParameter?
    {text : List Char}
    {parameter : Parameter}
    (leads : leadingParameter? text = some parameter) :
    ∃ form : DeclarationForm, form.text <+: text ∧ form.parameter = parameter := by
  obtain ⟨found, matched, rfl⟩ := Option.map_eq_some_iff.mp leads
  obtain ⟨_, form, isPrefix, _, _, parameterOf⟩ := form_of_match? matched
  exact ⟨form, isPrefix, parameterOf.symm⟩

/-- A declaration begins with a space, a tab or a character of a word. -/
theorem leadingParameter?_cons_eq_none
    {character : Char}
    (noWord : isWord character = false)
    (noIndent : isSpaceOrTab character = false)
    (rest : List Char) :
    leadingParameter? (character :: rest) = none := by
  apply leadingParameter?_eq_none
  rintro form ⟨more, shape⟩
  obtain ⟨qualifierWithin, qualifierNonempty⟩ := form.qualifier_within
  obtain ⟨first, others, qualifierShape⟩ := List.exists_cons_of_ne_nil qualifierNonempty
  cases indentShape : form.indent with
  | nil =>
      have isFirst : first = character := by
        simp [DeclarationForm.text, indentShape, qualifierShape] at shape
        exact shape.1
      rw [qualifierShape, Within.cons_iff, isFirst, noWord] at qualifierWithin
      exact absurd qualifierWithin.1 Bool.false_ne_true
  | cons indentFirst indentMore =>
      have isFirst : indentFirst = character := by
        simp [DeclarationForm.text, indentShape] at shape
        exact shape.1
      have indentWithin := form.indent_within
      rw [indentShape, Within.cons_iff, isFirst, noIndent] at indentWithin
      exact absurd indentWithin.1 Bool.false_ne_true

/-- A line break declares nothing, and a line begins behind it. -/
theorem declarationsFrom_break
    (startsLine : Bool)
    (rest : List Char) :
    declarationsFrom startsLine ('\n' :: rest) = declarationsFrom true rest := by
  rw [declarationsFrom, leadingParameter?_cons_eq_none (by decide) (by decide), ite_self]
  rfl

/-- The rest of a text does not matter for its lead where every declaration in it ends before. -/
theorem leadingParameter?_append
    {first second : List Char}
    (within : ∀ form : DeclarationForm, form.text <+: first ++ second → form.text <+: first) :
    leadingParameter? (first ++ second) = leadingParameter? first := by
  cases leads : leadingParameter? first with
  | some parameter =>
      obtain ⟨form, isPrefix, rfl⟩ := exists_form_of_leadingParameter? leads
      exact leadingParameter?_of_form (isPrefix.trans (List.prefix_append _ _))
  | none =>
      refine leadingParameter?_eq_none fun form isPrefix => ?_
      exact absurd ((leadingParameter?_of_form (within form isPrefix)).symm.trans leads) nofun

/-- Where a declaration goes on behind a text, the text alone begins with none. -/
theorem leadingParameter?_of_goes_on
    {form : DeclarationForm}
    {text behind : List Char}
    (shape : form.text = text ++ behind)
    (goesOn : behind ≠ []) :
    leadingParameter? text = none := by
  apply leadingParameter?_eq_none
  rintro other ⟨rest, otherShape⟩
  rw [← otherShape, List.append_assoc] at shape
  obtain ⟨_, nothing⟩ := DeclarationForm.unique ((List.append_nil _).trans shape)
  exact goesOn (List.append_eq_nil_iff.mp nothing.symm).2

/-! Starts of lines. -/

/-- Behind a text a line starts; behind no text it does where the place is known to start one. -/
def StartsLineBehind
    (startsLine : Bool)
    (text : List Char) : Prop :=
  (text = [] ∧ startsLine = true) ∨ ∃ earlier, text = earlier ++ ['\n']

namespace StartsLineBehind

variable {startsLine : Bool} {character : Char} {text : List Char}

theorem cons_iff :
    StartsLineBehind startsLine (character :: text) ↔
      StartsLineBehind (character == '\n') text := by
  constructor
  · rintro (⟨nothing, _⟩ | ⟨earlier, shape⟩)
    · exact absurd nothing (List.cons_ne_nil _ _)
    · cases earlier with
      | nil =>
          rw [List.nil_append, List.cons.injEq] at shape
          exact .inl ⟨shape.2, beq_iff_eq.mpr shape.1⟩
      | cons first others =>
          rw [List.cons_append, List.cons.injEq] at shape
          exact .inr ⟨others, shape.2⟩
  · rintro (⟨rfl, isBreak⟩ | ⟨earlier, rfl⟩)
    · exact .inr ⟨[], by rw [beq_iff_eq.mp isBreak, List.nil_append]⟩
    · exact .inr ⟨character :: earlier, rfl⟩

theorem nil_iff : StartsLineBehind startsLine [] ↔ startsLine = true := by
  simp [StartsLineBehind]

/-- Behind another character than a line break no line starts. -/
theorem not_concat (notBreak : character ≠ '\n') :
    ¬ StartsLineBehind startsLine (text ++ [character]) := by
  rintro (⟨nothing, _⟩ | ⟨earlier, shape⟩)
  · exact absurd nothing (by simp)
  · exact notBreak (by simpa using (List.append_inj' shape rfl).2)

end StartsLineBehind

/-- Whether a line starts behind a text can be decided, character by character. -/
instance decidableStartsLineBehind (startsLine : Bool) :
    (text : List Char) → Decidable (StartsLineBehind startsLine text)
  | [] => decidable_of_iff (startsLine = true) StartsLineBehind.nil_iff.symm
  | character :: rest =>
      have := decidableStartsLineBehind (character == '\n') rest
      decidable_of_iff _ StartsLineBehind.cons_iff.symm

/-- Where no line begins with a declaration, nothing is declared. -/
theorem declarationsFrom_eq_nil
    {character : Char}
    {text : List Char}
    (nothing : ∀ before later, character :: text = before ++ '\n' :: later →
      leadingParameter? later = none) :
    declarationsFrom (character == '\n') text = [] := by
  induction text generalizing character with
  | nil => rfl
  | cons next more inductionHypothesis =>
      have nothingLater := inductionHypothesis fun before later shape =>
        nothing (character :: before) later (by rw [shape, List.cons_append])
      rw [declarationsFrom, nothingLater, List.append_nil]
      split
      case isTrue isBreak =>
        rw [nothing [] (next :: more) (by rw [beq_iff_eq.mp isBreak, List.nil_append])]
        rfl
      case isFalse => rfl

/-- What begins at the start of a line is declared. -/
theorem mem_declarationsFrom_of_form
    {form : DeclarationForm}
    {startsLine : Bool}
    {before text : List Char}
    (starts : StartsLineBehind startsLine before)
    (isPrefix : form.text <+: text) :
    form.parameter ∈ declarationsFrom startsLine (before ++ text) := by
  induction before generalizing startsLine with
  | nil =>
      rcases starts with ⟨_, rfl⟩ | ⟨earlier, nothing⟩
      · have leads := leadingParameter?_of_form isPrefix
        cases text with
        | nil => exact absurd (leads.symm.trans leadingParameter?_nil) nofun
        | cons character rest =>
            rw [List.nil_append, declarationsFrom, if_pos rfl, leads]
            exact List.mem_cons_self
      · exact absurd nothing.symm (by simp)
  | cons character more inductionHypothesis =>
      rw [List.cons_append, declarationsFrom]
      exact List.mem_append_right _ (inductionHypothesis (StartsLineBehind.cons_iff.mp starts))

/-! Declarations that reach over a seam. -/

/--
A declaration begins on a line of a text and ends in the text behind it: its one
part is the end of the first text, and its other part begins the second one.
-/
structure ReachesOver
    (startsLine : Bool)
    (text rest : List Char)
    (form : DeclarationForm)
    (line behind : List Char) : Prop where
  begins : ∃ before, text = before ++ line ∧ StartsLineBehind startsLine before
  line_ne_nil : line ≠ []
  text_eq : form.text = line ++ behind
  behind_ne_nil : behind ≠ []
  isPrefix : behind <+: rest

namespace ReachesOver

variable {startsLine : Bool} {character : Char} {text rest line behind : List Char}
  {form other : DeclarationForm}

/-- The line of a form that reaches over a seam ends the text before it. -/
theorem line_isSuffix (reaches : ReachesOver startsLine text rest form line behind) :
    line <:+ text := by
  obtain ⟨before, rfl, _⟩ := reaches.begins
  exact List.suffix_append before line

/-- What reaches over a seam begins with the text in front of it or behind its first character. -/
theorem cons_iff :
    ReachesOver startsLine (character :: text) rest form line behind ↔
      (startsLine = true ∧ line = character :: text ∧ form.text = line ++ behind ∧
        behind ≠ [] ∧ behind <+: rest) ∨
      ReachesOver (character == '\n') text rest form line behind := by
  constructor
  · rintro ⟨⟨before, shape, starts⟩, notNil, textShape, goesOn, isPrefix⟩
    cases before with
    | nil =>
        exact .inl ⟨StartsLineBehind.nil_iff.mp starts, shape.symm, textShape, goesOn, isPrefix⟩
    | cons first earlier =>
        obtain ⟨rfl, rfl⟩ := List.cons.inj shape
        exact .inr ⟨⟨earlier, rfl, StartsLineBehind.cons_iff.mp starts⟩, notNil, textShape, goesOn,
          isPrefix⟩
  · rintro (⟨isStart, rfl, textShape, goesOn, isPrefix⟩ |
      ⟨⟨before, rfl, starts⟩, notNil, textShape, goesOn, isPrefix⟩)
    · exact ⟨⟨[], rfl, StartsLineBehind.nil_iff.mpr isStart⟩, List.cons_ne_nil _ _, textShape,
        goesOn, isPrefix⟩
    · exact ⟨⟨character :: before, rfl, StartsLineBehind.cons_iff.mpr starts⟩, notNil, textShape,
        goesOn, isPrefix⟩

/-- A declaration that reaches over a seam from its beginning on leaves no room for another one. -/
theorem not_declared_later
    {earlier later : List Char}
    (textShape : form.text = line ++ behind)
    (isPrefix : behind <+: rest)
    (lineShape : line = earlier ++ '\n' :: later) :
    ¬ other.text <+: later ++ rest := by
  obtain ⟨more, rfl⟩ := isPrefix
  have goesOn : form.text <+: earlier ++ '\n' :: (later ++ (behind ++ more)) :=
    ⟨more, by simp [textShape, lineShape]⟩
  apply not_declared_within goesOn
  simp [textShape, lineShape]

/-- What reaches over a seam begins on a later line than the text does, if not with it. -/
theorem exists_line_of_later
    (reaches : ReachesOver (character == '\n') text rest form line behind) :
    ∃ earlier, character :: text = earlier ++ '\n' :: line := by
  obtain ⟨before, rfl, starts⟩ := reaches.begins
  have startsLater : StartsLineBehind false (character :: before) :=
    StartsLineBehind.cons_iff.mpr starts
  rcases startsLater with ⟨nothing, _⟩ | ⟨earlier, shape⟩
  · exact absurd nothing (List.cons_ne_nil _ _)
  · exact ⟨earlier, by rw [← List.cons_append, shape, List.append_assoc, List.singleton_append]⟩

/-- While a declaration reaches over a seam from the beginning of a text on, none begins later. -/
theorem nothing_later
    (textShape : form.text = (character :: text) ++ behind)
    (isPrefix : behind <+: rest) :
    declarationsFrom (character == '\n') text = [] ∧
      ∀ other line otherBehind,
        ¬ ReachesOver (character == '\n') text rest other line otherBehind := by
  constructor
  · apply declarationsFrom_eq_nil
    intro earlier later shape
    apply leadingParameter?_eq_none
    intro other otherPrefix
    exact not_declared_later textShape isPrefix shape
      (otherPrefix.trans (List.prefix_append _ _))
  · intro other line otherBehind reaches
    obtain ⟨earlier, shape⟩ := reaches.exists_line_of_later
    have otherPrefix : other.text <+: line ++ rest := by
      rw [reaches.text_eq]
      exact (List.prefix_append_right_inj _).mpr reaches.isPrefix
    exact not_declared_later textShape isPrefix shape otherPrefix

end ReachesOver

/-- A text begins alike with and without what follows it, unless a declaration goes on behind it. -/
theorem leadingParameter?_of_not_going_on
    {text rest : List Char}
    (ends : ∀ (form : DeclarationForm) (behind : List Char),
      form.text = text ++ behind → behind <+: rest → behind = []) :
    leadingParameter? (text ++ rest) = leadingParameter? text := by
  apply leadingParameter?_append
  rintro form ⟨more, shape⟩
  rcases List.append_eq_append_iff.mp shape with
    ⟨past, textShape, _⟩ | ⟨behind, textShape, restShape⟩
  · exact ⟨past, textShape.symm⟩
  · rw [textShape, ends form behind textShape ⟨more, restShape.symm⟩, List.append_nil]

/-- A declaration over a seam, if there is one. -/
def DeclaredOver
    (startsLine : Bool)
    (text rest : List Char)
    (across : Option Parameter) : Prop :=
  ∀ parameter, across = some parameter ↔ ∃ form line behind,
    ReachesOver startsLine text rest form line behind ∧ form.parameter = parameter

namespace DeclaredOver

variable {startsLine : Bool} {character : Char} {text rest : List Char} {across : Option Parameter}

theorem none_iff :
    DeclaredOver startsLine text rest none ↔
      ∀ form line behind, ¬ ReachesOver startsLine text rest form line behind := by
  constructor
  · intro declared form line behind reaches
    exact absurd ((declared form.parameter).mpr ⟨form, line, behind, reaches, rfl⟩) nofun
  · intro apart parameter
    constructor
    · exact nofun
    · rintro ⟨form, line, behind, reaches, _⟩
      exact absurd reaches (apart form line behind)

/-- Where no form reaches over a seam, nothing is declared over it. -/
theorem eq_none
    (declared : DeclaredOver startsLine text rest across)
    (apart : ∀ form line behind, ¬ ReachesOver startsLine text rest form line behind) :
    across = none := by
  apply Option.eq_none_iff_forall_ne_some.mpr
  intro parameter isSome
  obtain ⟨form, line, behind, reaches, _⟩ := (declared parameter).mp isSome
  exact apart form line behind reaches

/-- Forms that reach over one seam declare the same parameter. -/
theorem parameter_eq
    {form other : DeclarationForm}
    {line otherLine behind otherBehind : List Char}
    (declared : DeclaredOver startsLine text rest across)
    (reaches : ReachesOver startsLine text rest form line behind)
    (otherReaches : ReachesOver startsLine text rest other otherLine otherBehind) :
    form.parameter = other.parameter := by
  have isForm := (declared form.parameter).mpr ⟨form, line, behind, reaches, rfl⟩
  have isOther := (declared other.parameter).mpr ⟨other, otherLine, otherBehind, otherReaches, rfl⟩
  exact Option.some.inj (isForm.symm.trans isOther)

/-- A declaration that begins with the text is the one over its seam. -/
theorem of_start
    {form : DeclarationForm}
    {behind : List Char}
    (textShape : form.text = (character :: text) ++ behind)
    (goesOn : behind ≠ [])
    (isPrefix : behind <+: rest) :
    DeclaredOver true (character :: text) rest (some form.parameter) := by
  intro parameter
  constructor
  · intro isForm
    exact ⟨form, character :: text, behind, ReachesOver.cons_iff.mpr
      (.inl ⟨rfl, rfl, textShape, goesOn, isPrefix⟩), Option.some.inj isForm⟩
  · rintro ⟨other, line, otherBehind, reaches, rfl⟩
    rcases ReachesOver.cons_iff.mp reaches with ⟨_, rfl, otherShape, _, otherPrefix⟩ | later
    · obtain ⟨more, restShape⟩ := isPrefix
      obtain ⟨otherMore, otherRestShape⟩ := otherPrefix
      have same : form.text ++ more = other.text ++ otherMore := by
        rw [textShape, otherShape, List.append_assoc, List.append_assoc, restShape, otherRestShape]
      rw [(DeclarationForm.unique same).1]
    · exact absurd later ((ReachesOver.nothing_later textShape isPrefix).2 _ _ _)

/-- Where no declaration begins with the text, the one over its seam begins later. -/
theorem of_later
    (declared : DeclaredOver (character == '\n') text rest across)
    (notHere : startsLine = true → ∀ (form : DeclarationForm) (behind : List Char),
      form.text = (character :: text) ++ behind → behind <+: rest → behind = []) :
    DeclaredOver startsLine (character :: text) rest across := by
  intro parameter
  rw [declared parameter]
  constructor
  · rintro ⟨form, line, behind, reaches, isParameter⟩
    exact ⟨form, line, behind, ReachesOver.cons_iff.mpr (.inr reaches), isParameter⟩
  · rintro ⟨form, line, behind, reaches, isParameter⟩
    rcases ReachesOver.cons_iff.mp reaches with
      ⟨isStart, rfl, textShape, goesOn, isPrefix⟩ | later
    · exact absurd (notHere isStart form behind textShape isPrefix) goesOn
    · exact ⟨form, line, behind, later, isParameter⟩

end DeclaredOver

/-- What a text declares comes first, then what reaches over the seam, and then what follows. -/
theorem exists_declaredOver
    (startsLine : Bool)
    (text rest : List Char) :
    ∃ across, DeclaredOver startsLine text rest across ∧
      declarationsFrom startsLine (text ++ rest) =
        declarationsFrom startsLine text ++
          (across.toList ++
            declarationsFrom (decide (StartsLineBehind startsLine text)) rest) := by
  induction text generalizing startsLine with
  | nil =>
      refine ⟨none, DeclaredOver.none_iff.mpr ?_, ?_⟩
      · rintro form line behind ⟨⟨before, shape, _⟩, lineNotNil, _⟩
        exact lineNotNil (List.append_eq_nil_iff.mp shape.symm).2
      · simp [StartsLineBehind.nil_iff, declarationsFrom]
  | cons character more inductionHypothesis =>
      obtain ⟨across, declared, goesOn⟩ := inductionHypothesis (character == '\n')
      have sameStart : decide (StartsLineBehind startsLine (character :: more)) =
          decide (StartsLineBehind (character == '\n') more) :=
        decide_eq_decide.mpr StartsLineBehind.cons_iff
      by_cases beginsHere : startsLine = true ∧ ∃ form : DeclarationForm, ∃ behind,
          form.text = (character :: more) ++ behind ∧ behind ≠ [] ∧ behind <+: rest
      · obtain ⟨rfl, form, behind, textShape, isBehind, isPrefix⟩ := beginsHere
        obtain ⟨nothingMore, noneLater⟩ := ReachesOver.nothing_later textShape isPrefix
        have leads : leadingParameter? (character :: (more ++ rest)) = some form.parameter := by
          apply leadingParameter?_of_form
          rw [textShape, ← List.cons_append]
          exact (List.prefix_append_right_inj _).mpr isPrefix
        refine ⟨some form.parameter, .of_start textShape isBehind isPrefix, ?_⟩
        rw [List.cons_append, declarationsFrom, declarationsFrom, goesOn, sameStart, nothingMore,
          declared.eq_none noneLater, if_pos rfl, if_pos rfl, leads,
          leadingParameter?_of_goes_on textShape isBehind]
        rfl
      · have notHere (isStart : startsLine = true)
            (form : DeclarationForm)
            (behind : List Char)
            (textShape : form.text = (character :: more) ++ behind)
            (isPrefix : behind <+: rest) :
            behind = [] := by
          by_contra isBehind
          exact beginsHere ⟨isStart, form, behind, textShape, isBehind, isPrefix⟩
        have sameLead :
            (if startsLine then leadingParameter? (character :: (more ++ rest)) else none) =
              if startsLine then leadingParameter? (character :: more) else none := by
          split
          case isTrue isStart => exact leadingParameter?_of_not_going_on (notHere isStart)
          case isFalse => rfl
        refine ⟨across, declared.of_later notHere, ?_⟩
        rw [List.cons_append, declarationsFrom, declarationsFrom, goesOn, sameStart, sameLead,
          List.append_assoc]

/-- Where no declaration reaches over a seam, the texts on both sides are read apart. -/
theorem declarationsFrom_append_apart
    {startsLine : Bool}
    {text rest : List Char}
    (apart : ∀ form line behind, ¬ ReachesOver startsLine text rest form line behind) :
    declarationsFrom startsLine (text ++ rest) =
      declarationsFrom startsLine text ++
        declarationsFrom (decide (StartsLineBehind startsLine text)) rest := by
  obtain ⟨across, declared, shape⟩ := exists_declaredOver startsLine text rest
  rw [shape, declared.eq_none apart]
  rfl

end ExpertAdvisor.Indicator
