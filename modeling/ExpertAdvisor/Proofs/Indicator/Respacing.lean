import ExpertAdvisor.Proofs.Indicator.Seams

namespace ExpertAdvisor.Indicator

open Text

/-!
# Respaced declarations

Of the blanks between the words of a declaration it matters only that there are
some: the words and the value tell the parameter.  A blank can be put into a
declaration or taken out of it without effect, unless words meet there without
it or it stands in the value.
-/

/-- Words meet where two texts are put together: the first ends and the second begins in one. -/
def WordsMeet (first second : List Char) : Prop :=
  (∃ character ∈ first.getLast?, isWord character = true) ∧
    ∃ character ∈ second.head?, isWord character = true

/-- Words meet where one ends and another begins. -/
theorem WordsMeet.of_ends
    {first second : List Char}
    (firstWithin : Within isWord first)
    (firstNonempty : first ≠ [])
    (secondWithin : Within isWord second)
    (secondNonempty : second ≠ [])
    (before behind : List Char) :
    WordsMeet (before ++ first) (second ++ behind) := by
  constructor
  · refine ⟨first.getLast firstNonempty, ?_, firstWithin _ (List.getLast_mem firstNonempty)⟩
    rw [List.getLast?_append_of_ne_nil _ firstNonempty, List.getLast?_eq_some_getLast firstNonempty]
    rfl
  · obtain ⟨character, more, rfl⟩ := List.exists_cons_of_ne_nil secondNonempty
    exact ⟨character, rfl, (Within.cons_iff.mp secondWithin).1⟩

/-- Behind blanks no words meet. -/
theorem not_wordsMeet_behind_blanks
    {gap : List Char}
    (blank : Within isBlank gap)
    (nonempty : gap ≠ [])
    (before behind : List Char) :
    ¬ WordsMeet (before ++ gap) behind := by
  rintro ⟨⟨character, isLast, word⟩, _⟩
  rw [List.getLast?_append_of_ne_nil _ nonempty] at isLast
  exact not_isWord_of_isBlank (blank character (List.mem_of_mem_getLast? isLast)) word

/-- In front of blanks no words meet. -/
theorem not_wordsMeet_before_blanks
    {gap : List Char}
    (blank : Within isBlank gap)
    (nonempty : gap ≠ [])
    (before behind : List Char) :
    ¬ WordsMeet before (gap ++ behind) := by
  rintro ⟨_, character, isNext, word⟩
  rw [List.head?_append_of_ne_nil _ nonempty] at isNext
  exact not_isWord_of_isBlank (blank character (List.mem_of_mem_head? isNext)) word

/-! Other blanks behind a word. -/

theorem spacedText_append (first second : List SpacedWord) :
    spacedText (first ++ second) = spacedText first ++ spacedText second :=
  List.flatMap_append

theorem spacedText_behind
    (earlier later : List SpacedWord)
    (word gap : List Char) :
    spacedText (earlier ++ (word, gap) :: later) =
      spacedText earlier ++ (word ++ (gap ++ spacedText later)) := by
  rw [spacedText_append, ← List.append_nil (spacedText (_ :: _)), spacedText_cons, List.append_nil]

namespace WellSpaced

variable {words earlier later : List SpacedWord} {word gap newGap before behind : List Char}

/-- The gap behind a word may be another, if it is blank and keeps the words apart. -/
theorem with_gap
    (spaced : WellSpaced (earlier ++ (word, gap) :: later))
    (newWithin : Within isBlank newGap)
    (newApart : later ≠ [] → newGap ≠ []) :
    WellSpaced (earlier ++ (word, newGap) :: later) := by
  induction earlier with
  | nil =>
      cases spaced with
      | cons within nonempty _ _ laterSpaced =>
          exact .cons within nonempty newWithin newApart laterSpaced
  | cons first more inductionHypothesis =>
      cases spaced with
      | cons within nonempty gapWithin apart moreSpaced =>
          exact .cons within nonempty gapWithin (fun _ => apart (by simp))
            (inductionHypothesis moreSpaced)

/-- A word meets the words behind it where there are no blanks between them. -/
theorem wordsMeet
    (spaced : WellSpaced later)
    (someWords : later ≠ [])
    (within : Within isWord word)
    (nonempty : word ≠ [])
    (before behind : List Char) :
    WordsMeet (before ++ word) (spacedText later ++ behind) := by
  cases spaced with
  | nil => exact absurd rfl someWords
  | cons nextWithin nextNonempty _ _ _ =>
      rw [spacedText_cons]
      exact .of_ends within nonempty nextWithin nextNonempty _ _

/-- What begins with a word goes on with its blanks and with the other words. -/
theorem exists_front
    {others : List (List Char)}
    (spaced : WellSpaced words)
    (bare : words.map Prod.fst = word :: others) :
    ∃ gap rest, words = (word, gap) :: rest ∧ rest.map Prod.fst = others ∧
      Within isBlank gap ∧ (others ≠ [] → IsGap gap) ∧ WellSpaced rest := by
  cases spaced with
  | nil => exact absurd bare (by simp)
  | @cons first gap rest _ _ gapWithin apart restSpaced =>
      obtain ⟨rfl, rfl⟩ := List.cons.inj bare
      refine ⟨gap, rest, rfl, rfl, gapWithin, ?_, restSpaced⟩
      intro someOthers
      exact ⟨gapWithin, apart fun nothing => someOthers (by rw [nothing, List.map_nil])⟩

/-- Where the modifier may come first, the words behind it go on after its blanks. -/
theorem exists_modifier
    {modifier : Option (List Char)}
    {others : List (List Char)}
    (spaced : WellSpaced words)
    (bare : words.map Prod.fst = (modifier.toList.map fun _ => constModifier) ++ others)
    (someOthers : others ≠ []) :
    ∃ constGap rest,
      words = ((constGap : Option (List Char)).toList.map fun blanks => (constModifier, blanks)) ++
        rest ∧
      rest.map Prod.fst = others ∧ (∀ blanks ∈ constGap, IsGap blanks) ∧ WellSpaced rest := by
  cases modifier with
  | none => exact ⟨none, words, rfl, bare, by simp, spaced⟩
  | some _ =>
      obtain ⟨gap, rest, rfl, sameOthers, _, isGap, restSpaced⟩ := spaced.exists_front bare
      refine ⟨some gap, rest, rfl, sameOthers, ?_, restSpaced⟩
      rintro _ ⟨⟩
      exact isGap someOthers

/-- A place among words and blanks is behind a word or within one. -/
theorem seam_cases
    (spaced : WellSpaced words)
    (shape : spacedText words = before ++ behind)
    (nonempty : before ≠ []) :
    (∃ earlier word gap gapEnd later,
      words = earlier ++ (word, gap ++ gapEnd) :: later ∧
        before = spacedText earlier ++ (word ++ gap) ∧ behind = gapEnd ++ spacedText later) ∨
    (∃ earlier start finish gap later,
      words = earlier ++ (start ++ finish, gap) :: later ∧ start ≠ [] ∧ finish ≠ [] ∧
        before = spacedText earlier ++ start ∧ behind = finish ++ (gap ++ spacedText later)) := by
  induction spaced generalizing before with
  | nil => exact absurd (List.append_eq_nil_iff.mp shape.symm).1 nonempty
  | @cons word gap later _ _ _ _ _ inductionHypothesis =>
      rw [← List.append_nil (spacedText _), spacedText_cons, List.append_nil] at shape
      rcases List.append_eq_append_iff.mp shape with
        ⟨pastWord, beforeShape, behindWord⟩ | ⟨finish, wordShape, behindShape⟩
      · rcases List.append_eq_append_iff.mp behindWord with
          ⟨pastGap, pastShape, inLater⟩ | ⟨gapEnd, gapShape, behindShape⟩
        · by_cases atEnd : pastGap = []
          · refine .inl ⟨[], word, gap, [], later, by simp, ?_, ?_⟩
            · rw [beforeShape, pastShape, atEnd, List.append_nil]
              rfl
            · rw [atEnd, List.nil_append] at inLater
              exact inLater.symm
          · have front (texts : List Char) :
                word ++ (gap ++ texts) = spacedText [(word, gap)] ++ texts := by
              simp [spacedText]
            rw [beforeShape, pastShape, front]
            rcases inductionHypothesis inLater atEnd with
              ⟨earlier, lastWord, lastGap, gapEnd, last, rfl, rfl, rfl⟩ |
              ⟨earlier, start, finish, lastGap, last, rfl, startNonempty, finishNonempty, rfl, rfl⟩
            · refine .inl ⟨(word, gap) :: earlier, lastWord, lastGap, gapEnd, last, rfl, ?_, rfl⟩
              rw [← List.append_assoc, ← spacedText_append]
              rfl
            · refine .inr ⟨(word, gap) :: earlier, start, finish, lastGap, last, rfl,
                startNonempty, finishNonempty, ?_, rfl⟩
              rw [← List.append_assoc, ← spacedText_append]
              rfl
        · exact .inl ⟨[], word, pastWord, gapEnd, later, by rw [gapShape]; rfl, beforeShape,
            behindShape⟩
      · by_cases atEnd : finish = []
        · refine .inl ⟨[], word, [], gap, later, rfl, ?_, ?_⟩
          · rw [wordShape, atEnd]
            simp [spacedText]
          · rw [behindShape, atEnd, List.nil_append]
        · exact .inr ⟨[], before, finish, gap, later, by rw [wordShape]; rfl, nonempty, atEnd, rfl,
            behindShape⟩

end WellSpaced

namespace DeclarationForm

variable {form : DeclarationForm} {line behind : List Char} {separator : Char}

/-- The words of a declaration: a qualifier, the modifier where it stands, a type and a name. -/
theorem map_fst_words (form : DeclarationForm) :
    form.words.map Prod.fst = [form.qualifier, form.type, form.name] ∨
      form.words.map Prod.fst = [form.qualifier, constModifier, form.type, form.name] := by
  cases modified : form.constGap with
  | none => exact .inl (by simp [words, modified])
  | some gap => exact .inr (by simp [words, modified])

/-- The words of a declaration with other blanks between them declare the same. -/
theorem exists_respaced
    (form : DeclarationForm)
    {indent : List Char}
    {words : List SpacedWord}
    (indentWithin : Within isSpaceOrTab indent)
    (spaced : WellSpaced words)
    (sameWords : words.map Prod.fst = form.words.map Prod.fst) :
    ∃ other : DeclarationForm,
      other.text = indent ++ (spacedText words ++ '=' :: form.ending) ∧
        other.parameter = form.parameter := by
  have bare : words.map Prod.fst =
      form.qualifier ::
        ((form.constGap.toList.map fun _ => constModifier) ++ [form.type, form.name]) := by
    rw [sameWords]
    cases modified : form.constGap <;> simp [DeclarationForm.words, modified]
  obtain ⟨gap, _, rfl, sameFromModifier, _, isGap, fromModifier⟩ := spaced.exists_front bare
  obtain ⟨constGap, _, rfl, sameFromType, isConstGap, fromType⟩ :=
    fromModifier.exists_modifier sameFromModifier (List.cons_ne_nil _ _)
  obtain ⟨typeGap, _, rfl, sameName, _, isTypeGap, fromName⟩ := fromType.exists_front sameFromType
  obtain ⟨nameGap, _, rfl, noMore, nameGapWithin, _⟩ := fromName.exists_front sameName
  obtain rfl := List.map_eq_nil_iff.mp noMore
  let other : DeclarationForm :=
    { form with
      indent := indent
      gap := gap
      constGap := constGap
      typeGap := typeGap
      nameGap := nameGap
      indent_within := indentWithin
      gap_blank := isGap (by simp)
      constGap_blank := isConstGap
      typeGap_blank := isTypeGap (List.cons_ne_nil _ _)
      nameGap_blank := nameGapWithin }
  exact ⟨other, other.text_eq, rfl⟩

/-- A declaration with another indent declares the same. -/
theorem exists_reindented
    (form : DeclarationForm)
    {indent : List Char}
    (within : Within isSpaceOrTab indent) :
    ∃ other : DeclarationForm,
      other.text = indent ++ (spacedText form.words ++ '=' :: form.ending) ∧
        other.parameter = form.parameter :=
  form.exists_respaced within form.wellSpaced rfl

section Word

variable {earlier later : List SpacedWord} {word gap newGap : List Char}

/-- A word of a declaration is one, and only blanks stand behind it. -/
theorem word_and_gap
    (isWords : form.words = earlier ++ (word, gap) :: later) :
    Within isWord word ∧ word ≠ [] ∧ Within isBlank gap ∧ WellSpaced later := by
  have spaced := form.wellSpaced
  rw [isWords] at spaced
  cases spaced.of_append with
  | cons within nonempty gapWithin _ laterSpaced =>
      exact ⟨within, nonempty, gapWithin, laterSpaced⟩

/-- A declaration with other blanks behind one of its words declares the same. -/
theorem exists_regapped
    (isWords : form.words = earlier ++ (word, gap) :: later)
    (within : Within isBlank newGap)
    (apart : later ≠ [] → newGap ≠ []) :
    ∃ other : DeclarationForm,
      other.text =
        form.indent ++
          (spacedText earlier ++ (word ++ (newGap ++ spacedText later)) ++ '=' :: form.ending) ∧
        other.parameter = form.parameter := by
  have spaced := form.wellSpaced
  rw [isWords] at spaced
  obtain ⟨other, otherText, sameParameter⟩ :=
    form.exists_respaced form.indent_within (spaced.with_gap within apart) (by simp [isWords])
  exact ⟨other, by rw [otherText, spacedText_behind], sameParameter⟩

end Word

/-- A place in a declaration is in its indent, among its words, or behind its equals sign. -/
theorem seam_cases (shape : form.text = line ++ behind) :
    (∃ indentEnd, form.indent = line ++ indentEnd ∧
      behind = indentEnd ++ (spacedText form.words ++ '=' :: form.ending)) ∨
    (∃ first second, spacedText form.words = first ++ second ∧ first ≠ [] ∧
      line = form.indent ++ first ∧ behind = second ++ '=' :: form.ending) ∨
    (∃ cut, line = form.lead ++ cut ∧ form.ending = cut ++ behind) := by
  rw [text_eq] at shape
  rcases List.append_eq_append_iff.mp shape with
    ⟨pastIndent, lineShape, fromWords⟩ | ⟨indentEnd, indentShape, behindShape⟩
  · rcases List.append_eq_append_iff.mp fromWords with
      ⟨pastWords, pastShape, fromEquals⟩ | ⟨second, wordsShape, behindShape⟩
    · cases pastWords with
      | nil =>
          rw [List.append_nil] at pastShape
          by_cases noWords : pastIndent = []
          · refine .inl ⟨[], by rw [lineShape, noWords]; simp, ?_⟩
            rw [← pastShape, noWords]
            exact fromEquals.symm
          · exact .inr (.inl ⟨pastIndent, [], by rw [pastShape, List.append_nil], noWords,
              lineShape, fromEquals.symm⟩)
      | cons equals cut =>
          obtain ⟨rfl, endingShape⟩ := List.cons.inj fromEquals
          exact .inr (.inr ⟨cut, by rw [lineShape, pastShape]; simp [lead], endingShape⟩)
    · by_cases noWords : pastIndent = []
      · refine .inl ⟨[], by rw [lineShape, noWords]; simp, ?_⟩
        rw [behindShape, wordsShape, noWords]
        rfl
      · exact .inr (.inl ⟨pastIndent, second, wordsShape, noWords, lineShape, behindShape⟩)
  · exact .inl ⟨indentEnd, indentShape, behindShape⟩

/-- A blank can be put between the words of a declaration where no words meet. -/
theorem exists_form_of_inserted
    (shape : form.text = line ++ behind)
    (blank : isBlank separator = true)
    (keepsIndent : Within isSpaceOrTab line → isSpaceOrTab separator = true)
    (apart : ¬ WordsMeet line behind)
    (noValue : ¬ form.lead <+: line) :
    ∃ other : DeclarationForm,
      other.text = line ++ separator :: behind ∧ other.parameter = form.parameter := by
  rcases seam_cases shape with
    ⟨indentEnd, indentShape, rfl⟩ | ⟨first, second, wordsShape, firstNonempty, rfl, rfl⟩ |
    ⟨cut, rfl, _⟩
  · have indentWithin := form.indent_within
    rw [indentShape, Within.append_iff] at indentWithin
    have newWithin : Within isSpaceOrTab (line ++ separator :: indentEnd) :=
      Within.append_iff.mpr
        ⟨indentWithin.1, Within.cons_iff.mpr ⟨keepsIndent indentWithin.1, indentWithin.2⟩⟩
    obtain ⟨other, otherText, sameParameter⟩ := form.exists_reindented newWithin
    exact ⟨other, by rw [otherText, List.append_assoc, List.cons_append], sameParameter⟩
  · rcases form.wellSpaced.seam_cases wordsShape firstNonempty with
      ⟨earlier, word, gap, gapEnd, later, isWords, rfl, rfl⟩ |
      ⟨earlier, start, finish, gap, later, isWords, startNonempty, finishNonempty, rfl, rfl⟩
    · obtain ⟨_, _, gapWithin, _⟩ := word_and_gap isWords
      obtain ⟨gapStart, gapFinish⟩ := Within.append_iff.mp gapWithin
      have newWithin : Within isBlank (gap ++ separator :: gapEnd) :=
        Within.append_iff.mpr ⟨gapStart, Within.cons_iff.mpr ⟨blank, gapFinish⟩⟩
      obtain ⟨other, otherText, sameParameter⟩ :=
        exists_regapped isWords newWithin fun _ => by simp
      exact ⟨other, by simp [otherText], sameParameter⟩
    · obtain ⟨within, _⟩ := word_and_gap isWords
      obtain ⟨startWithin, finishWithin⟩ := Within.append_iff.mp within
      refine absurd ?_ apart
      rw [← List.append_assoc, List.append_assoc finish]
      exact .of_ends startWithin startNonempty finishWithin finishNonempty _ _
  · exact absurd (List.prefix_append _ _) noValue

/-- A blank can be taken out from between the words of a declaration where no words meet then. -/
theorem exists_form_of_removed
    (shape : form.text = line ++ separator :: behind)
    (blank : isBlank separator = true)
    (apart : ¬ WordsMeet line behind)
    (noValue : ¬ form.lead <+: line) :
    ∃ other : DeclarationForm,
      other.text = line ++ behind ∧ other.parameter = form.parameter := by
  rcases seam_cases shape with
    ⟨indentEnd, indentShape, behindShape⟩ |
    ⟨first, second, wordsShape, firstNonempty, rfl, behindShape⟩ | ⟨cut, rfl, _⟩
  · cases indentEnd with
    | nil =>
        have noBlank : Leaves isBlank (spacedText form.words ++ '=' :: form.ending) :=
          form.wellSpaced.leaves_isBlank
        rw [List.nil_append] at behindShape
        rw [← behindShape, Leaves.cons_iff, blank] at noBlank
        exact absurd noBlank.symm Bool.false_ne_true
    | cons first rest =>
        obtain ⟨rfl, rfl⟩ := List.cons.inj behindShape
        have indentWithin := form.indent_within
        rw [indentShape, Within.append_iff, Within.cons_iff] at indentWithin
        have newWithin : Within isSpaceOrTab (line ++ rest) :=
          Within.append_iff.mpr ⟨indentWithin.1, indentWithin.2.2⟩
        obtain ⟨other, otherText, sameParameter⟩ := form.exists_reindented newWithin
        exact ⟨other, by rw [otherText, List.append_assoc]; rfl, sameParameter⟩
  · cases second with
    | nil =>
        have isEquals : separator = '=' := (List.cons.inj behindShape).1
        rw [isEquals] at blank
        exact absurd blank (by decide)
    | cons _ rest =>
        obtain ⟨rfl, rfl⟩ := List.cons.inj behindShape
        obtain ⟨earlier, word, gap, gapEnd, later, isWords, rfl, rfl⟩ :=
          form.wellSpaced.exists_gap (isWord_eq_false_of_isBlank blank) wordsShape
        obtain ⟨within, nonempty, gapWithin, laterSpaced⟩ := word_and_gap isWords
        obtain ⟨gapStart, gapFinish⟩ := Within.append_iff.mp gapWithin
        have newWithin : Within isBlank (gap ++ gapEnd) :=
          Within.append_iff.mpr ⟨gapStart, (Within.cons_iff.mp gapFinish).2⟩
        have newApart : later ≠ [] → gap ++ gapEnd ≠ [] := by
          intro someWords nothing
          obtain ⟨rfl, rfl⟩ := List.append_eq_nil_iff.mp nothing
          apply apart
          have meet := laterSpaced.wordsMeet someWords within nonempty
            (form.indent ++ spacedText earlier) ('=' :: form.ending)
          simpa using meet
        obtain ⟨other, otherText, sameParameter⟩ := exists_regapped isWords newWithin newApart
        exact ⟨other, by simp [otherText], sameParameter⟩
  · exact absurd (List.prefix_append _ _) noValue

end DeclarationForm

/-! Texts with a blank put in. -/

variable {separator : Char} {text rest : List Char}

/-- A separator in front of a text declares nothing, where it leaves the text's lead as it is. -/
theorem declarationsFrom_cons_separator
    (notBreak : separator ≠ '\n')
    (sameLead : leadingParameter? (separator :: rest) = leadingParameter? rest)
    (startsLine : Bool) :
    declarationsFrom startsLine (separator :: rest) = declarationsFrom startsLine rest := by
  rw [declarationsFrom, sameLead, beq_false_of_ne notBreak]
  cases rest with
  | nil => simp [declarationsFrom]
  | cons character more =>
      rw [declarationsFrom, declarationsFrom]
      rfl

/-- No more than one parameter is declared over a seam. -/
theorem DeclaredOver.unique
    {startsLine : Bool}
    {across other : Option Parameter}
    (declared : DeclaredOver startsLine text rest across)
    (otherDeclared : DeclaredOver startsLine text rest other) :
    across = other := by
  apply Option.ext
  intro parameter
  rw [declared parameter, otherDeclared parameter]

/-- Two texts with a separator between them are read as without it where the seam is. -/
theorem declarations_separated_iff
    (notBreak : separator ≠ '\n')
    (sameLead : leadingParameter? (separator :: rest) = leadingParameter? rest) :
    declarations (text ++ separator :: rest) = declarations (text ++ rest) ↔
      ∃ across, DeclaredOver true text (separator :: rest) across ∧
        DeclaredOver true text rest across := by
  obtain ⟨across, declared, shape⟩ := exists_declaredOver true text rest
  obtain ⟨separated, separatedDeclared, separatedShape⟩ :=
    exists_declaredOver true text (separator :: rest)
  rw [declarations_eq_declarationsFrom, declarations_eq_declarationsFrom, shape, separatedShape,
    declarationsFrom_cons_separator notBreak sameLead, List.append_cancel_left_eq,
    List.append_cancel_right_eq]
  constructor
  · intro same
    have isSame : separated = across := by
      cases separated <;> cases across <;> simp_all
    exact ⟨across, isSame ▸ separatedDeclared, declared⟩
  · rintro ⟨both, bothSeparated, both_declared⟩
    rw [separatedDeclared.unique bothSeparated, declared.unique both_declared]

namespace ReachesOver

variable {startsLine : Bool} {form other : DeclarationForm} {line behind : List Char}

/-- A separator may be inserted where a form reaches over a seam. -/
theorem insert_separator
    (reaches : ReachesOver startsLine text rest form line behind)
    (otherText : other.text = line ++ separator :: behind) :
    ReachesOver startsLine text (separator :: rest) other line (separator :: behind) :=
  ⟨reaches.begins, reaches.line_ne_nil, otherText, List.cons_ne_nil _ _,
    List.cons_prefix_cons.mpr ⟨rfl, reaches.isPrefix⟩⟩

/-- A declaration that reaches over a separator goes on with it. -/
theorem exists_behind_separator
    (reaches : ReachesOver startsLine text (separator :: rest) form line behind) :
    ∃ more, behind = separator :: more := by
  rcases List.prefix_cons_iff.mp reaches.isPrefix with nothing | ⟨more, isMore, _⟩
  · exact absurd nothing reaches.behind_ne_nil
  · exact ⟨more, isMore⟩

/-- A declaration that reaches over a separator goes on behind it. -/
theorem behind_separator
    (reaches : ReachesOver startsLine text (separator :: rest) form line (separator :: behind))
    (noEnd : separator ≠ ';') :
    behind ≠ [] ∧ behind <+: rest := by
  refine ⟨?_, (List.cons_prefix_cons.mp reaches.isPrefix).2⟩
  rintro rfl
  have atEnd := reaches.text_eq
  rw [DeclarationForm.text_eq_lead, ← List.append_assoc] at atEnd
  have isEnd := (List.append_inj' atEnd rfl).2
  exact noEnd (List.cons.inj isEnd).1.symm

/-- A separator that ends no form may be removed where a form reaches over a seam. -/
theorem remove_separator
    (reaches : ReachesOver startsLine text (separator :: rest) form line (separator :: behind))
    (noEnd : separator ≠ ';')
    (otherText : other.text = line ++ behind) :
    ReachesOver startsLine text rest other line behind :=
  have goesOn := reaches.behind_separator noEnd
  ⟨reaches.begins, reaches.line_ne_nil, otherText, goesOn.1, goesOn.2⟩

end ReachesOver

/-- Two texts are read alike with and without a separator where each declaration over it is. -/
theorem declarations_separated
    (notBreak : separator ≠ '\n')
    (noEnd : separator ≠ ';')
    (sameLead : leadingParameter? (separator :: rest) = leadingParameter? rest)
    (inserts : ∀ (form : DeclarationForm) (line behind : List Char),
      ReachesOver true text rest form line behind →
      ∃ other : DeclarationForm, other.text = line ++ separator :: behind ∧
        other.parameter = form.parameter)
    (removes : ∀ (form : DeclarationForm) (line behind : List Char),
      ReachesOver true text (separator :: rest) form line (separator :: behind) →
      ∃ other : DeclarationForm, other.text = line ++ behind ∧
        other.parameter = form.parameter) :
    declarations (text ++ separator :: rest) = declarations (text ++ rest) := by
  apply (declarations_separated_iff notBreak sameLead).mpr
  obtain ⟨across, declared, _⟩ := exists_declaredOver true text rest
  refine ⟨across, ?_, declared⟩
  intro parameter
  rw [declared parameter]
  constructor
  · rintro ⟨form, line, behind, reaches, rfl⟩
    obtain ⟨other, otherText, sameParameter⟩ := inserts form line behind reaches
    exact ⟨other, line, _, reaches.insert_separator otherText, sameParameter⟩
  · rintro ⟨form, line, behind, reaches, rfl⟩
    obtain ⟨more, rfl⟩ := reaches.exists_behind_separator
    obtain ⟨other, otherText, sameParameter⟩ := removes form line more reaches
    exact ⟨other, line, more, reaches.remove_separator noEnd otherText, sameParameter⟩

end ExpertAdvisor.Indicator
