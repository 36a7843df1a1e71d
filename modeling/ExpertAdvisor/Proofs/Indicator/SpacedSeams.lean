import ExpertAdvisor.Proofs.Indicator.Respacing

namespace ExpertAdvisor.Indicator

open Text

/-!
# Spaces at seams

A space between two texts matters in two ways only.  Where words of a
declaration meet at the seam it keeps them apart, and where the seam is in a
value it belongs to the value, unless there are only blanks on one side of it.
-/

/-! Spaces in values. -/

/-- A space in a value is trimmed with the blanks in front of it or behind it, or stays. -/
theorem trimBlanks_spaced_iff (cut onward : List Char) :
    trimBlanks (cut ++ ' ' :: onward) = trimBlanks (cut ++ onward) ↔
      Within isBlank cut ∨ Within isBlank onward := by
  constructor
  · intro same
    by_contra keeps
    obtain ⟨cutKeeps, onwardKeeps⟩ := not_or.mp keeps
    have spaced := trimWhere_around cutKeeps onwardKeeps [' ']
    have joined := trimWhere_around cutKeeps onwardKeeps []
    have sameLength := congrArg List.length (spaced.symm.trans (same.trans joined))
    simp at sameLength
  · rintro (cutBlank | onwardBlank)
    · have spacedBlank : Within isBlank (cut ++ [' ']) :=
        Within.append_iff.mpr ⟨cutBlank, by decide⟩
      have spaced := @trimWhere_append_left _ _ onward spacedBlank
      rw [List.append_assoc] at spaced
      exact spaced.trans (trimWhere_append_left cutBlank).symm
    · have spacedBlank : Within isBlank (' ' :: onward) :=
        Within.cons_iff.mpr ⟨by decide, onwardBlank⟩
      exact (trimWhere_append_right spacedBlank).trans (trimWhere_append_right onwardBlank).symm

/-- A declaration is cut in its value, with more than blanks of the value on both sides. -/
def SplitsValue
    (form : DeclarationForm)
    (line behind : List Char) : Prop :=
  ∃ cut onward, line = form.lead ++ cut ∧ behind = onward ++ [';'] ∧
    ¬ Within isBlank cut ∧ ¬ Within isBlank onward

/-- A seam splits a value exactly when something stands on both of its sides. -/
theorem splitsValue_iff
    {form : DeclarationForm}
    {cut onward : List Char} :
    SplitsValue form (form.lead ++ cut) (onward ++ [';']) ↔
      ¬ (Within isBlank cut ∨ Within isBlank onward) := by
  rw [not_or]
  constructor
  · rintro ⟨_, _, sameCut, sameOnward, keeps⟩
    rw [List.append_cancel_left_eq] at sameCut
    rw [List.append_cancel_right_eq] at sameOnward
    rwa [sameCut, sameOnward]
  · intro keeps
    exact ⟨cut, onward, rfl, rfl, keeps⟩

/-- Before a seam that splits a value stands the sign of the declaration. -/
theorem SplitsValue.mem_equals
    {form : DeclarationForm}
    {line behind : List Char}
    (splits : SplitsValue form line behind) :
    '=' ∈ line := by
  obtain ⟨_, _, rfl, _⟩ := splits
  simp [DeclarationForm.lead]

namespace DeclarationForm

variable {form other : DeclarationForm} {line otherLine behind : List Char}

/-- Behind its equals sign a declaration goes on with the rest of its value and a semicolon. -/
theorem exists_value_behind
    {cut : List Char}
    (shape : form.text = form.lead ++ cut ++ behind)
    (goesOn : behind ≠ []) :
    ∃ onward, behind = onward ++ [';'] ∧ form.value = cut ++ onward := by
  rw [text_eq_lead, List.append_assoc, List.append_cancel_left_eq] at shape
  rcases List.append_eq_append_iff.mp shape with
    ⟨past, cutShape, atEnd⟩ | ⟨onward, valueShape, behindShape⟩
  · cases past with
    | nil => exact ⟨[], atEnd.symm, by rw [cutShape, List.append_nil, List.append_nil]⟩
    | cons _ _ =>
        have nothing := (List.cons.inj atEnd).2
        exact absurd (List.append_eq_nil_iff.mp nothing.symm).2 goesOn
  · exact ⟨onward, behindShape, valueShape⟩

/-- Where words meet behind an equals sign, the value is split. -/
theorem splitsValue_of_wordsMeet
    (shape : form.text = line ++ behind)
    (goesOn : behind ≠ [])
    (inValue : form.lead <+: line)
    (meet : WordsMeet line behind) :
    SplitsValue form line behind := by
  obtain ⟨cut, rfl⟩ := inValue
  obtain ⟨onward, rfl, _⟩ := exists_value_behind shape goesOn
  rw [splitsValue_iff]
  rintro (cutBlank | onwardBlank)
  · by_cases atEquals : cut = []
    · obtain ⟨⟨character, isLast, word⟩, _⟩ := meet
      have isEquals : '=' = character := by simpa [lead, atEquals] using isLast
      exact absurd (isEquals ▸ word) (by decide)
    · exact not_wordsMeet_behind_blanks cutBlank atEquals _ _ meet
  · by_cases atEnd : onward = []
    · obtain ⟨_, character, isNext, word⟩ := meet
      have isSemicolon : ';' = character := by simpa [atEnd] using isNext
      exact absurd (isSemicolon ▸ word) (by decide)
    · exact not_wordsMeet_before_blanks onwardBlank atEnd _ _ meet

/-- Values declare the same default exactly when they are the same without the blanks around. -/
theorem parameter_withValue_iff
    (form : DeclarationForm)
    {value : List Char}
    (within : Within isValueCharacter value) :
    (form.withValue value within).parameter = form.parameter ↔
      trimBlanks value = trimBlanks form.value := by
  simp [withValue, parameter, String.ofList_inj]

/-- A space put into a value changes the parameter where it splits the value. -/
theorem exists_form_of_inserted_in_value
    (shape : form.text = line ++ behind)
    (goesOn : behind ≠ [])
    (inValue : form.lead <+: line) :
    ∃ other : DeclarationForm, other.text = line ++ ' ' :: behind ∧
      (other.parameter = form.parameter ↔ ¬ SplitsValue form line behind) := by
  obtain ⟨cut, rfl⟩ := inValue
  obtain ⟨onward, rfl, valueShape⟩ := exists_value_behind shape goesOn
  obtain ⟨cutWithin, onwardWithin⟩ := Within.append_iff.mp (valueShape ▸ form.value_within)
  have within : Within isValueCharacter (cut ++ ' ' :: onward) :=
    Within.append_iff.mpr ⟨cutWithin, Within.cons_iff.mpr ⟨by decide, onwardWithin⟩⟩
  refine ⟨form.withValue _ within, by rw [text_withValue]; simp, ?_⟩
  rw [parameter_withValue_iff, valueShape, trimBlanks_spaced_iff, splitsValue_iff, not_not]

/-- A space taken out of a value changes the parameter where it split the value. -/
theorem exists_form_of_removed_from_value
    (shape : form.text = line ++ ' ' :: behind)
    (inValue : form.lead <+: line) :
    ∃ other : DeclarationForm, other.text = line ++ behind ∧
      (other.parameter = form.parameter ↔ ¬ SplitsValue form line behind) := by
  obtain ⟨cut, rfl⟩ := inValue
  obtain ⟨spaced, spacedShape, valueShape⟩ :=
    exists_value_behind shape (List.cons_ne_nil _ _)
  cases spaced with
  | nil => exact absurd (List.cons.inj spacedShape).1 (by decide)
  | cons _ onward =>
      rw [List.cons_append] at spacedShape
      obtain ⟨rfl, rfl⟩ := List.cons.inj spacedShape
      obtain ⟨cutWithin, onwardWithin⟩ := Within.append_iff.mp (valueShape ▸ form.value_within)
      have within : Within isValueCharacter (cut ++ onward) :=
        Within.append_iff.mpr ⟨cutWithin, (Within.cons_iff.mp onwardWithin).2⟩
      refine ⟨form.withValue _ within, by rw [text_withValue]; simp, ?_⟩
      rw [parameter_withValue_iff, valueShape, eq_comm, trimBlanks_spaced_iff, splitsValue_iff,
        not_not]

/-! Spaces between words. -/

/-- The first equals sign of a declaration is the one in front of its value. -/
theorem lead_isPrefix_iff (shape : form.text = line ++ behind) :
    form.lead <+: line ↔ '=' ∈ line := by
  constructor
  · intro isPrefix
    exact isPrefix.subset (by simp [lead])
  · intro member
    rcases seam_cases shape with
      ⟨indentEnd, indentShape, _⟩ | ⟨first, second, wordsShape, _, rfl, _⟩ | ⟨cut, rfl, _⟩
    · exact absurd (indentShape ▸ List.mem_append_left _ member)
        (form.indent_within.not_mem (by decide))
    · rcases List.mem_append.mp member with inIndent | inWords
      · exact absurd inIndent (form.indent_within.not_mem (by decide))
      · exact absurd (wordsShape ▸ List.mem_append_left _ inWords)
          (form.wellSpaced.not_mem_spacedText (by decide) (by decide))
    · exact List.prefix_append _ _

/-- A place behind a word, with no equals sign in front of it, is among the words. -/
theorem seam_among_words
    (shape : form.text = line ++ behind)
    (endsInWord : ∃ character ∈ line.getLast?, isWord character = true)
    (noEquals : '=' ∉ line) :
    ∃ first second, spacedText form.words = first ++ second ∧ first ≠ [] ∧
      line = form.indent ++ first ∧ behind = second ++ '=' :: form.ending := by
  rcases seam_cases shape with ⟨indentEnd, indentShape, _⟩ | amongWords | ⟨cut, lineShape, _⟩
  · obtain ⟨character, isLast, word⟩ := endsInWord
    have member : character ∈ form.indent :=
      indentShape ▸ List.mem_append_left _ (List.mem_of_mem_getLast? isLast)
    have blank := isBlank_of_isSpaceOrTab (form.indent_within character member)
    exact absurd word (not_isWord_of_isBlank blank)
  · exact amongWords
  · exact absurd ((lead_isPrefix_iff shape).mp ⟨cut, lineShape.symm⟩) noEquals

/-- Where words meet in a declaration, the seam is in one of its words. -/
theorem exists_word_over
    (shape : form.text = line ++ behind)
    (meet : WordsMeet line behind)
    (noEquals : '=' ∉ line) :
    ∃ earlier start finish gap later,
      form.words = earlier ++ (start ++ finish, gap) :: later ∧ start ≠ [] ∧
        WellSpaced ((finish, gap) :: later) ∧
        behind = spacedText ((finish, gap) :: later) ++ '=' :: form.ending := by
  obtain ⟨first, second, wordsShape, firstNonempty, rfl, rfl⟩ :=
    seam_among_words shape meet.1 noEquals
  have spaced := form.wellSpaced
  rcases spaced.seam_cases wordsShape firstNonempty with
    ⟨earlier, word, gap, gapEnd, later, isWords, rfl, rfl⟩ |
    ⟨earlier, start, finish, gap, later, isWords, startNonempty, finishNonempty, rfl, rfl⟩
  · rw [isWords] at spaced
    cases spaced.of_append with
    | cons _ _ gapWithin apart _ =>
        by_cases behindWord : gap = []
        · subst behindWord
          obtain ⟨_, character, isNext, word⟩ := meet
          rw [List.append_assoc] at isNext
          have leaves := WellSpaced.leaves_isWord gapWithin apart character isNext
          exact absurd (leaves.symm.trans word) Bool.false_ne_true
        · have gapBlank := (Within.append_iff.mp gapWithin).1
          rw [← List.append_assoc, ← List.append_assoc] at meet
          exact absurd meet (not_wordsMeet_behind_blanks gapBlank behindWord _ _)
  · rw [isWords] at spaced
    cases spaced.of_append with
    | cons within _ gapWithin apart laterSpaced =>
        refine ⟨earlier, start, finish, gap, later, isWords, startNonempty, ?_, ?_⟩
        · exact .cons (Within.append_iff.mp within).2 finishNonempty gapWithin apart laterSpaced
        · rw [spacedText_cons, List.append_assoc, List.append_assoc]

/-- Where a space keeps words of a declaration apart, it is the gap between them. -/
theorem exists_words_behind
    (shape : form.text = line ++ ' ' :: behind)
    (meet : WordsMeet line behind)
    (noEquals : '=' ∉ line) :
    ∃ earlier word later, form.words = earlier ++ word :: later ∧ WellSpaced later ∧
      behind = spacedText later ++ '=' :: form.ending := by
  obtain ⟨first, second, wordsShape, _, rfl, behindShape⟩ :=
    seam_among_words shape meet.1 noEquals
  cases second with
  | nil => exact absurd (List.cons.inj behindShape).1 (by decide)
  | cons _ rest =>
      obtain ⟨rfl, rfl⟩ := List.cons.inj behindShape
      have spaced := form.wellSpaced
      obtain ⟨earlier, word, gap, gapEnd, later, isWords, _, rfl⟩ :=
        spaced.exists_gap (by decide) wordsShape
      rw [isWords] at spaced
      cases spaced.of_append with
      | cons _ _ gapWithin _ laterSpaced =>
          have gapEndBlank := (Within.cons_iff.mp (Within.append_iff.mp gapWithin).2).2
          by_cases behindGap : gapEnd = []
          · subst behindGap
            exact ⟨earlier, _, later, isWords, laterSpaced, rfl⟩
          · have apart := not_wordsMeet_before_blanks gapEndBlank behindGap
              (form.indent ++ first) (spacedText later ++ '=' :: form.ending)
            rw [← List.append_assoc] at apart
            exact absurd meet apart

/-- No qualifier ends with the modifier. -/
theorem not_const_isSuffix_qualifier (form : DeclarationForm) :
    ¬ constModifier <:+ form.qualifier := by
  rcases form.qualifier_known with known | known <;> rw [known] <;> decide

/-- The words of a declaration, read from the last one on. -/
theorem map_fst_words_reverse (form : DeclarationForm) :
    ∃ front, (form.words.map Prod.fst).reverse = form.name :: form.type :: front ∧
      (front = [form.qualifier] ∨ front = [constModifier, form.qualifier]) := by
  rcases form.map_fst_words with plain | modified
  · exact ⟨_, by rw [plain]; rfl, .inl rfl⟩
  · exact ⟨_, by rw [modified]; rfl, .inr rfl⟩

/-- Declarations with the same words from a place on differ where one of them is a longer word. -/
theorem name_or_type_ne
    {earlier otherEarlier later : List SpacedWord}
    {start finish gap : List Char}
    {word : SpacedWord}
    (wordsShape : form.words = earlier ++ (start ++ finish, gap) :: later)
    (otherShape : other.words = otherEarlier ++ word :: (finish, gap) :: later)
    (startNonempty : start ≠ []) :
    form.name ≠ other.name ∨ form.type ≠ other.type := by
  have longer : start ++ finish ≠ finish := by
    intro same
    exact startNonempty (List.append_left_eq_self.mp same)
  obtain ⟨front, shape, frontShape⟩ := form.map_fst_words_reverse
  obtain ⟨otherFront, otherWords, otherFrontShape⟩ := other.map_fst_words_reverse
  rw [wordsShape] at shape
  rw [otherShape] at otherWords
  simp only [List.map_append, List.map_cons, List.reverse_append, List.reverse_cons,
    List.append_assoc, List.singleton_append] at shape otherWords
  generalize (later.map Prod.fst).reverse = behindWords at shape otherWords
  rcases behindWords with _ | ⟨name, _ | ⟨type, more⟩⟩
  · left
    rw [← (List.cons.inj shape).1, ← (List.cons.inj otherWords).1]
    exact longer
  · right
    have fromType := (List.cons.inj shape).2
    have otherFromType := (List.cons.inj otherWords).2
    rw [← (List.cons.inj fromType).1, ← (List.cons.inj otherFromType).1]
    exact longer
  · -- Only the modifier stands behind a word and in front of a type, and no such word ends in it.
    have inFront := (List.cons.inj (List.cons.inj shape).2).2
    have otherInFront := (List.cons.inj (List.cons.inj otherWords).2).2
    rcases otherFrontShape with rfl | rfl
    · have sameLength := congrArg List.length otherInFront
      simp at sameLength
      omega
    · cases more with
      | cons _ others =>
          have sameLength := congrArg List.length otherInFront
          simp at sameLength
          omega
      | nil =>
          obtain rfl := (List.cons.inj otherInFront).1
          rcases frontShape with rfl | rfl
          · have isQualifier := (List.cons.inj inFront).1
            exact absurd ⟨start, isQualifier⟩ form.not_const_isSuffix_qualifier
          · exact absurd (List.cons.inj inFront).1 longer

/-- Declarations that go on alike behind a seam differ if words meet there in one of them only. -/
theorem parameter_ne_of_wordsMeet
    (shape : form.text = line ++ behind)
    (meet : WordsMeet line behind)
    (noEquals : '=' ∉ line)
    (otherShape : other.text = otherLine ++ ' ' :: behind)
    (otherMeet : WordsMeet otherLine behind)
    (otherNoEquals : '=' ∉ otherLine) :
    form.parameter ≠ other.parameter := by
  obtain ⟨_, _, finish, gap, later, isWords, startNonempty, spaced, behindShape⟩ :=
    exists_word_over shape meet noEquals
  obtain ⟨_, _, _, otherWords, otherSpaced, otherBehindShape⟩ :=
    exists_words_behind otherShape otherMeet otherNoEquals
  obtain ⟨rfl, _⟩ := spaced.unique otherSpaced (behindShape.symm.trans otherBehindShape)
  intro same
  simp only [parameter, Parameter.mk.injEq, String.ofList_inj, Option.some.injEq] at same
  rcases name_or_type_ne isWords otherWords startNonempty with nameDiffers | typeDiffers
  · exact nameDiffers same.1
  · exact typeDiffers same.2.2

/-- Behind a place in a declaration no other declaration ends earlier than this one. -/
theorem behind_eq_of_isPrefix
    {otherBehind : List Char}
    (shape : form.text = line ++ behind)
    (goesOn : behind ≠ [])
    (otherShape : other.text = otherLine ++ otherBehind)
    (isPrefix : behind <+: otherBehind) :
    behind = otherBehind := by
  obtain ⟨more, rfl⟩ := isPrefix
  have atEnd : behind.getLast? = some ';' := by
    have whole := congrArg List.getLast? shape
    rw [text_eq_lead, List.getLast?_append_of_ne_nil _ goesOn] at whole
    rw [← whole]
    simp
  obtain ⟨others, rfl⟩ := List.getLast?_eq_some_iff.mp atEnd
  rw [List.append_assoc, ← List.append_assoc, List.singleton_append] at otherShape
  rw [eq_nil_of_semicolon otherShape, List.append_nil]

/-- Where two declarations go on with the same text, they go on alike. -/
theorem behind_unique
    {rest otherBehind : List Char}
    (shape : form.text = line ++ behind)
    (goesOn : behind ≠ [])
    (isPrefix : behind <+: rest)
    (otherShape : other.text = otherLine ++ otherBehind)
    (otherGoesOn : otherBehind ≠ [])
    (otherPrefix : otherBehind <+: rest) :
    behind = otherBehind := by
  rcases List.prefix_or_prefix_of_prefix isPrefix otherPrefix with isShorter | isLonger
  · exact behind_eq_of_isPrefix shape goesOn otherShape isShorter
  · exact (behind_eq_of_isPrefix otherShape otherGoesOn shape isLonger).symm

/-- Behind a line break in it a declaration still has its equals sign. -/
theorem mem_equals_behind_break
    {before : List Char}
    (shape : form.text = before ++ '\n' :: line ++ behind)
    (member : '=' ∈ before ++ '\n' :: line) :
    '=' ∈ line := by
  obtain ⟨cut, lineShape⟩ := (lead_isPrefix_iff shape).mpr member
  rw [← lineShape, text_eq_lead, List.append_assoc, List.append_cancel_left_eq] at shape
  have cutUnbroken : '\n' ∉ cut := by
    intro inCut
    have inEnding : '\n' ∈ form.value ++ [';'] := shape ▸ List.mem_append_left _ inCut
    rcases List.mem_append.mp inEnding with inValue | atEnd
    · exact form.value_within.not_mem (by decide) inValue
    · exact absurd (List.mem_singleton.mp atEnd) (by decide)
  rcases occurs_in_part lineShape with ⟨past, leadShape, rfl⟩ | ⟨_, _, inCut⟩
  · -- The lead ends in the equals sign, so it goes on behind its line break.
    have lastOfLead : form.lead.getLast? = some '=' := by simp [lead]
    rw [leadShape] at lastOfLead
    apply List.mem_append_left
    apply List.mem_of_mem_getLast?
    cases past with
    | nil => simp at lastOfLead
    | cons _ _ => simpa using lastOfLead
  · exact absurd (by simp [inCut]) cutUnbroken

end DeclarationForm

/-- Declarations over a seam with and without a separator go on alike behind it. -/
theorem ReachesOver.behind_eq_of_separated
    {startsLine : Bool}
    {text rest line spacedLine behind spacedBehind : List Char}
    {separator : Char}
    {form spaced : DeclarationForm}
    (reaches : ReachesOver startsLine text rest form line behind)
    (spacedReaches :
      ReachesOver startsLine text (separator :: rest) spaced spacedLine
        (separator :: spacedBehind))
    (noEnd : separator ≠ ';') :
    behind = spacedBehind := by
  obtain ⟨goesOn, isPrefix⟩ := spacedReaches.behind_separator noEnd
  have spacedShape := spacedReaches.text_eq
  rw [← List.singleton_append, ← List.append_assoc] at spacedShape
  exact DeclarationForm.behind_unique reaches.text_eq reaches.behind_ne_nil reaches.isPrefix
    spacedShape goesOn isPrefix

/-- Of two declarations over one seam both are past their equals signs there, or none is. -/
theorem ReachesOver.mem_equals
    {startsLine : Bool}
    {text rest otherRest line otherLine behind otherBehind : List Char}
    {form other : DeclarationForm}
    (reaches : ReachesOver startsLine text rest form line behind)
    (otherReaches : ReachesOver startsLine text otherRest other otherLine otherBehind)
    (member : '=' ∈ otherLine) :
    '=' ∈ line := by
  obtain ⟨before, shape, starts⟩ := reaches.begins
  obtain ⟨otherBefore, otherShape, _⟩ := otherReaches.begins
  rcases List.append_eq_append_iff.mp (shape.symm.trans otherShape) with
    ⟨past, _, lineShape⟩ | ⟨past, beforeShape, otherLineShape⟩
  · exact lineShape ▸ List.mem_append_right _ member
  · -- The other declaration has begun on an earlier line.
    rcases List.eq_nil_or_concat past with rfl | ⟨earlier, final, rfl⟩
    · rwa [otherLineShape, List.nil_append] at member
    · have isBreak : final = '\n' := by
        by_contra notBreak
        rw [beforeShape, List.concat_eq_append, ← List.append_assoc] at starts
        exact StartsLineBehind.not_concat notBreak starts
      rw [List.concat_eq_append, List.append_assoc, isBreak] at otherLineShape
      rw [otherLineShape] at member
      have textShape := otherReaches.text_eq
      rw [otherLineShape] at textShape
      exact DeclarationForm.mem_equals_behind_break textShape member

/-! Where a space matters. -/

/--
A declaration reaches over the seam of two texts, with or without a space between
them, and the space matters to it: words meet at the seam, or the seam splits the
value of the declaration.
-/
def SpaceMatters (text rest : List Char) : Prop :=
  ∃ form line behind,
    (ReachesOver true text rest form line behind ∨
      ReachesOver true text (' ' :: rest) form line (' ' :: behind)) ∧
    (WordsMeet text rest ∨ SplitsValue form line behind)

/-- Words meet at a seam where they meet in what reaches over it. -/
theorem wordsMeet_iff
    {text line behind rest : List Char}
    (isSuffix : line <:+ text)
    (nonempty : line ≠ [])
    (isPrefix : behind <+: rest)
    (goesOn : behind ≠ []) :
    WordsMeet line behind ↔ WordsMeet text rest := by
  obtain ⟨before, rfl⟩ := isSuffix
  obtain ⟨more, rfl⟩ := isPrefix
  rw [WordsMeet, WordsMeet, List.getLast?_append_of_ne_nil _ nonempty,
    List.head?_append_of_ne_nil _ goesOn]

theorem not_wordsMeet_nil (rest : List Char) : ¬ WordsMeet [] rest := by
  rintro ⟨⟨_, isLast, _⟩, _⟩
  simp at isLast

/-- An indentation does not matter for what a text begins with. -/
theorem leadingParameter?_space (rest : List Char) :
    leadingParameter? (' ' :: rest) = leadingParameter? rest := by
  have noLead (form : DeclarationForm) : ¬ form.lead <+: [] := by
    intro isPrefix
    exact absurd (List.prefix_nil.mp isPrefix) (by simp [DeclarationForm.lead])
  apply Option.ext
  intro parameter
  constructor
  · intro leads
    obtain ⟨form, isPrefix, rfl⟩ := exists_form_of_leadingParameter? leads
    rcases List.prefix_cons_iff.mp isPrefix with nothing | ⟨behind, shape, behindPrefix⟩
    · exact absurd nothing (by simp [DeclarationForm.text])
    · obtain ⟨other, otherText, sameParameter⟩ :=
        @DeclarationForm.exists_form_of_removed form [] behind ' ' shape (by decide)
          (not_wordsMeet_nil behind) (noLead form)
      rw [← sameParameter]
      exact leadingParameter?_of_form (otherText ▸ behindPrefix)
  · intro leads
    obtain ⟨form, isPrefix, rfl⟩ := exists_form_of_leadingParameter? leads
    obtain ⟨other, otherText, sameParameter⟩ :=
      @DeclarationForm.exists_form_of_inserted form [] form.text ' ' rfl (by decide)
        (fun _ => by decide) (not_wordsMeet_nil _) (noLead form)
    rw [← sameParameter]
    apply leadingParameter?_of_form
    rw [otherText]
    exact List.cons_prefix_cons.mpr ⟨rfl, isPrefix⟩

section SpaceMatters

variable {text rest : List Char} {across : Option Parameter}

/-- What a space matters to is declared over the seam with it and without it, if it is at all. -/
theorem SpaceMatters.exists_both
    (matters : SpaceMatters text rest)
    (declared : DeclaredOver true text rest across)
    (spacedDeclared : DeclaredOver true text (' ' :: rest) across) :
    ∃ form line spaced spacedLine behind,
      ReachesOver true text rest form line behind ∧
      ReachesOver true text (' ' :: rest) spaced spacedLine (' ' :: behind) ∧
      form.parameter = spaced.parameter ∧
      (WordsMeet text rest ∨ SplitsValue form line behind ∨
        SplitsValue spaced spacedLine behind) := by
  obtain ⟨form, line, behind, reaches | reaches, how⟩ := matters
  · have isOver := (declared form.parameter).mpr ⟨form, line, behind, reaches, rfl⟩
    obtain ⟨spaced, spacedLine, spacedBehind, spacedReaches, alike⟩ :=
      (spacedDeclared form.parameter).mp isOver
    obtain ⟨more, rfl⟩ := spacedReaches.exists_behind_separator
    obtain rfl := reaches.behind_eq_of_separated spacedReaches (by decide)
    exact ⟨form, line, spaced, spacedLine, behind, reaches, spacedReaches, alike.symm,
      how.imp_right .inl⟩
  · have isOver := (spacedDeclared form.parameter).mpr ⟨form, line, _, reaches, rfl⟩
    obtain ⟨joined, joinedLine, joinedBehind, joinedReaches, alike⟩ :=
      (declared form.parameter).mp isOver
    obtain rfl := joinedReaches.behind_eq_of_separated reaches (by decide)
    exact ⟨joined, joinedLine, form, line, joinedBehind, joinedReaches, reaches, alike,
      how.imp_right .inr⟩

/-- Where declarations over a seam are the same with and without a space, it does not matter. -/
theorem not_spaceMatters_of_declaredOver
    (declared : DeclaredOver true text rest across)
    (spacedDeclared : DeclaredOver true text (' ' :: rest) across) :
    ¬ SpaceMatters text rest := by
  intro matters
  obtain ⟨form, line, spaced, spacedLine, behind, reaches, spacedReaches, alike, how⟩ :=
    matters.exists_both declared spacedDeclared
  obtain ⟨goesOn, isPrefix⟩ := spacedReaches.behind_separator (by decide)
  have joinedMeet := wordsMeet_iff reaches.line_isSuffix reaches.line_ne_nil isPrefix goesOn
  by_cases equals : '=' ∈ line
  · have inValue := (DeclarationForm.lead_isPrefix_iff reaches.text_eq).mpr equals
    have spacedInValue := (DeclarationForm.lead_isPrefix_iff spacedReaches.text_eq).mpr
      (spacedReaches.mem_equals reaches equals)
    have whole : ¬ SplitsValue form line behind := by
      obtain ⟨other, otherText, sameParameter⟩ :=
        DeclarationForm.exists_form_of_inserted_in_value reaches.text_eq goesOn inValue
      apply sameParameter.mp
      have insertedReaches := reaches.insert_separator otherText
      exact (spacedDeclared.parameter_eq insertedReaches spacedReaches).trans alike.symm
    have spacedWhole : ¬ SplitsValue spaced spacedLine behind := by
      obtain ⟨other, otherText, sameParameter⟩ :=
        DeclarationForm.exists_form_of_removed_from_value spacedReaches.text_eq spacedInValue
      apply sameParameter.mp
      have removedReaches := spacedReaches.remove_separator (by decide) otherText
      exact (declared.parameter_eq removedReaches reaches).trans alike
    rcases how with meet | splits | splits
    · exact whole (DeclarationForm.splitsValue_of_wordsMeet reaches.text_eq goesOn inValue
        (joinedMeet.mpr meet))
    · exact whole splits
    · exact spacedWhole splits
  · have spacedEquals : '=' ∉ spacedLine := fun member =>
      equals (reaches.mem_equals spacedReaches member)
    rcases how with meet | splits | splits
    · have spacedMeet :=
        wordsMeet_iff spacedReaches.line_isSuffix spacedReaches.line_ne_nil isPrefix goesOn
      exact DeclarationForm.parameter_ne_of_wordsMeet reaches.text_eq (joinedMeet.mpr meet) equals
        spacedReaches.text_eq (spacedMeet.mpr meet) spacedEquals alike
    · exact equals splits.mem_equals
    · exact spacedEquals splits.mem_equals

/-- Where a space does not matter, the same is declared with it and without it. -/
theorem declarations_space (indifferent : ¬ SpaceMatters text rest) :
    declarations (text ++ ' ' :: rest) = declarations (text ++ rest) := by
  apply declarations_separated (by decide) (by decide) (leadingParameter?_space rest)
  · intro form line behind reaches
    by_cases inValue : form.lead <+: line
    · obtain ⟨other, otherText, sameParameter⟩ :=
        DeclarationForm.exists_form_of_inserted_in_value reaches.text_eq reaches.behind_ne_nil
          inValue
      refine ⟨other, otherText, sameParameter.mpr ?_⟩
      intro splits
      exact indifferent ⟨form, line, behind, .inl reaches, .inr splits⟩
    · apply DeclarationForm.exists_form_of_inserted reaches.text_eq (by decide)
        (fun _ => by decide) _ inValue
      intro meet
      have textsMeet := (wordsMeet_iff reaches.line_isSuffix reaches.line_ne_nil reaches.isPrefix
        reaches.behind_ne_nil).mp meet
      exact indifferent ⟨form, line, behind, .inl reaches, .inl textsMeet⟩
  · intro form line behind reaches
    by_cases inValue : form.lead <+: line
    · obtain ⟨other, otherText, sameParameter⟩ :=
        DeclarationForm.exists_form_of_removed_from_value reaches.text_eq inValue
      refine ⟨other, otherText, sameParameter.mpr ?_⟩
      intro splits
      exact indifferent ⟨form, line, behind, .inr reaches, .inr splits⟩
    · apply DeclarationForm.exists_form_of_removed reaches.text_eq (by decide) _ inValue
      intro meet
      obtain ⟨goesOn, isPrefix⟩ := reaches.behind_separator (by decide)
      have textsMeet :=
        (wordsMeet_iff reaches.line_isSuffix reaches.line_ne_nil isPrefix goesOn).mp meet
      exact indifferent ⟨form, line, behind, .inr reaches, .inl textsMeet⟩

/-- The same is declared with a space between two texts and without it where it does not matter. -/
theorem declarations_space_iff :
    declarations (text ++ ' ' :: rest) = declarations (text ++ rest) ↔
      ¬ SpaceMatters text rest := by
  constructor
  · intro same
    obtain ⟨across, spacedDeclared, declared⟩ :=
      (declarations_separated_iff (by decide) (leadingParameter?_space rest)).mp same
    exact not_spaceMatters_of_declaredOver declared spacedDeclared
  · exact declarations_space

end SpaceMatters

end ExpertAdvisor.Indicator
