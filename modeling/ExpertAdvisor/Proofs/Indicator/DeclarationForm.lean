import ExpertAdvisor.Indicator.Declaration
import ExpertAdvisor.Proofs.Text.Classes

namespace ExpertAdvisor.Indicator

open Text

/-!
# The form of a declaration

A declaration consists of words with blanks between them, an equals sign, and a
value up to a semicolon.  Blanks and word characters are apart, so a text begins
with one declaration at most: the number of words before the equals sign tells
whether `const` is among them.  No line within a declaration begins with another
one, since too few words are left before the equals sign.
-/

/-- One or more blanks. -/
structure IsGap (gap : List Char) : Prop where
  within : Within isBlank gap
  nonempty : gap ≠ []

/-- A word that begins with an ASCII letter or an underscore. -/
structure IsIdentifier (word : List Char) : Prop where
  within : Within isWord word
  starts : ∃ first ∈ word.head?, isIdentifierStart first = true

theorem IsIdentifier.nonempty
    {word : List Char}
    (isIdentifier : IsIdentifier word) :
    word ≠ [] := by
  rintro rfl
  obtain ⟨_, atHead, _⟩ := isIdentifier.starts
  simp at atHead

/-- The pieces of a declaration, each of its own class. -/
@[ext]
structure DeclarationForm where
  indent : List Char
  qualifier : List Char
  gap : List Char
  constGap : Option (List Char)
  type : List Char
  typeGap : List Char
  name : List Char
  nameGap : List Char
  value : List Char
  indent_within : Within isSpaceOrTab indent
  qualifier_known : qualifier = inputQualifier ∨ qualifier = externQualifier
  gap_blank : IsGap gap
  constGap_blank : ∀ blanks ∈ constGap, IsGap blanks
  type_identifier : IsIdentifier type
  typeGap_blank : IsGap typeGap
  name_identifier : IsIdentifier name
  nameGap_blank : Within isBlank nameGap
  value_within : Within isValueCharacter value

/-- The modifier with the blanks behind it, where there is one. -/
def modifierText : Option (List Char) → List Char
  | none => []
  | some gap => constModifier ++ gap

namespace DeclarationForm

/-- The text of a form, its parts in their order. -/
def text (form : DeclarationForm) : List Char :=
  form.indent ++ form.qualifier ++ form.gap ++ modifierText form.constGap ++
    form.type ++ form.typeGap ++ form.name ++ form.nameGap ++ ['='] ++ form.value ++ [';']

/-- The parameter that a declaration declares. -/
def parameter (form : DeclarationForm) : Parameter where
  name := String.ofList form.name
  default := String.ofList (trimBlanks form.value)
  declaredType := some (String.ofList form.type)

end DeclarationForm

/-! Words, each with the blanks behind it. -/

/-- A word with the blanks behind it. -/
abbrev SpacedWord := List Char × List Char

/-- The text of words and the blanks behind them. -/
def spacedText (words : List SpacedWord) : List Char :=
  words.flatMap fun word => word.1 ++ word.2

/-- Words are not empty, and there are blanks between them. -/
inductive WellSpaced : List SpacedWord → Prop where
  | nil : WellSpaced []
  | cons
      {word gap : List Char}
      {rest : List SpacedWord} :
      Within isWord word → word ≠ [] →
      Within isBlank gap → (rest ≠ [] → gap ≠ []) →
      WellSpaced rest →
      WellSpaced ((word, gap) :: rest)

/-- What lies outside a class is not reached by its run. -/
theorem leaves_append
    {belongs : Char → Bool}
    {first second : List Char}
    (nonempty : first ≠ [])
    (outside : ∀ character ∈ first, belongs character = false) :
    Leaves belongs (first ++ second) := by
  cases first with
  | nil => exact absurd rfl nonempty
  | cons character more =>
      rw [List.cons_append, Leaves.cons_iff]
      exact outside character List.mem_cons_self

theorem spacedText_cons
    (word gap rest : List Char)
    (more : List SpacedWord) :
    spacedText ((word, gap) :: more) ++ rest = word ++ (gap ++ (spacedText more ++ rest)) := by
  simp [spacedText]

namespace WellSpaced

variable {words otherWords : List SpacedWord} {rest otherRest word gap : List Char}

/-- What follows blanks begins with a word or with the equals sign. -/
theorem leaves_isBlank (spaced : WellSpaced words) :
    Leaves isBlank (spacedText words ++ '=' :: rest) := by
  cases spaced with
  | nil => exact Leaves.cons_iff.mpr (by decide)
  | cons within nonempty _ _ _ =>
      rw [spacedText_cons]
      exact leaves_append nonempty fun character member =>
        isBlank_eq_false_of_isWord (within character member)

/-- What follows a word begins with a blank or with the equals sign. -/
theorem leaves_isWord
    (gapWithin : Within isBlank gap)
    (apart : words ≠ [] → gap ≠ []) :
    Leaves isWord (gap ++ (spacedText words ++ '=' :: rest)) := by
  by_cases gapEmpty : gap = []
  · have noWords : words = [] := by
      by_contra someWords
      exact apart someWords gapEmpty
    subst gap words
    exact Leaves.cons_iff.mpr (by decide)
  · exact leaves_append gapEmpty fun character member =>
      isWord_eq_false_of_isBlank (gapWithin character member)

/-- An equals sign is not the start of a word. -/
theorem not_starts_with_equals
    (within : Within isWord word)
    (nonempty : word ≠ []) :
    '=' :: rest ≠ word ++ otherRest := by
  intro same
  cases word with
  | nil => exact nonempty rfl
  | cons character more =>
      rw [List.cons_append, List.cons.injEq] at same
      have equalsIsWord := (Within.cons_iff.mp within).1
      rw [← same.1] at equalsIsWord
      exact absurd equalsIsWord (by decide)

/-- Words and blanks before an equals sign can be told apart in one way only. -/
theorem unique
    (spaced : WellSpaced words)
    (otherSpaced : WellSpaced otherWords)
    (same : spacedText words ++ '=' :: rest = spacedText otherWords ++ '=' :: otherRest) :
    words = otherWords ∧ rest = otherRest := by
  induction spaced generalizing otherWords with
  | nil =>
      cases otherSpaced with
      | nil => exact ⟨rfl, (List.cons.inj same).2⟩
      | cons within nonempty _ _ _ =>
          rw [spacedText_cons] at same
          exact absurd same (not_starts_with_equals within nonempty)
  | cons within nonempty gapWithin apart following inductionHypothesis =>
      cases otherSpaced with
      | nil =>
          rw [spacedText_cons] at same
          exact absurd same.symm (not_starts_with_equals within nonempty)
      | cons otherWithin _ otherGapWithin otherApart otherFollowing =>
          rw [spacedText_cons, spacedText_cons] at same
          obtain ⟨rfl, sameOnward⟩ :=
            run_unique same within otherWithin
              (leaves_isWord gapWithin apart) (leaves_isWord otherGapWithin otherApart)
          obtain ⟨rfl, sameWords⟩ :=
            run_unique sameOnward gapWithin otherGapWithin
              following.leaves_isBlank otherFollowing.leaves_isBlank
          obtain ⟨rfl, sameRest⟩ := inductionHypothesis otherFollowing sameWords
          exact ⟨rfl, sameRest⟩

/-- What is no character of a word is among words in the blanks behind some word. -/
theorem exists_gap
    {character : Char}
    (spaced : WellSpaced words)
    (noWord : isWord character = false)
    {before behind : List Char}
    (occurs : spacedText words = before ++ character :: behind) :
    ∃ earlier word gap gapEnd later,
      words = earlier ++ (word, gap ++ character :: gapEnd) :: later ∧
        before = spacedText earlier ++ (word ++ gap) ∧ behind = gapEnd ++ spacedText later := by
  induction spaced generalizing before with
  | nil => exact absurd occurs (by simp [spacedText])
  | @cons word gap later within _ _ _ _ inductionHypothesis =>
      rw [← List.append_nil (spacedText _), spacedText_cons, List.append_nil] at occurs
      obtain ⟨pastWord, beforeShape, behindWord⟩ := occurs_behind occurs (within.not_mem noWord)
      rcases occurs_in_part behindWord with
          ⟨gapEnd, gapShape, behindShape⟩ | ⟨pastGap, pastShape, inLater⟩
      · exact ⟨[], word, pastWord, gapEnd, later, by rw [gapShape]; rfl, beforeShape, behindShape⟩
      · obtain ⟨earlier, lastWord, lastGap, gapEnd, last, laterShape, pastGapShape, behindShape⟩ :=
          inductionHypothesis inLater
        refine ⟨(word, gap) :: earlier, lastWord, lastGap, gapEnd, last,
          by rw [laterShape, List.cons_append], ?_, behindShape⟩
        rw [spacedText_cons, beforeShape, pastShape, pastGapShape]

/-- A line break among words and blanks is in the blanks behind some word. -/
theorem break_in_gap
    (spaced : WellSpaced words)
    {before behind : List Char}
    (broken : spacedText words ++ rest = before ++ '\n' :: behind)
    (restUnbroken : '\n' ∉ rest) :
    ∃ earlier word gap gapEnd later,
      words = earlier ++ (word, gap ++ '\n' :: gapEnd) :: later ∧
        behind = gapEnd ++ (spacedText later ++ rest) := by
  rcases occurs_in_part broken with ⟨more, inWords, behindShape⟩ | ⟨_, _, inRest⟩
  · obtain ⟨earlier, word, gap, gapEnd, later, wordsShape, _, moreShape⟩ :=
      spaced.exists_gap (by decide) inWords
    exact ⟨earlier, word, gap, gapEnd, later, wordsShape,
      by rw [behindShape, moreShape, List.append_assoc]⟩
  · exact absurd (by simp [inRest]) restUnbroken

/-- Words behind well-spaced words are well spaced. -/
theorem of_append
    {earlier later : List SpacedWord}
    (spaced : WellSpaced (earlier ++ later)) :
    WellSpaced later := by
  induction earlier with
  | nil => exact spaced
  | cons first more inductionHypothesis =>
      cases spaced with
      | cons _ _ _ _ moreSpaced => exact inductionHypothesis moreSpaced

/-- The blanks behind a break are blanks, and the words behind it are well spaced. -/
theorem behind
    {earlier later : List SpacedWord}
    {gapEnd : List Char}
    (spaced : WellSpaced (earlier ++ (word, gap ++ '\n' :: gapEnd) :: later)) :
    Within isBlank gapEnd ∧ WellSpaced later := by
  cases spaced.of_append with
  | cons _ _ gapWithin _ laterSpaced =>
      have gapEndWithin := (Within.append_iff.mp gapWithin).2
      exact ⟨(Within.cons_iff.mp gapEndWithin).2, laterSpaced⟩

end WellSpaced

namespace DeclarationForm

/-- The words of a declaration before its equals sign. -/
def words (form : DeclarationForm) : List SpacedWord :=
  (form.qualifier, form.gap) :: (form.constGap.toList.map fun gap => (constModifier, gap)) ++
    [(form.type, form.typeGap), (form.name, form.nameGap)]

/-- What a declaration ends in, from the character behind its equals sign on. -/
def ending (form : DeclarationForm) : List Char :=
  form.value ++ [';']

/-- A form is its indent, its spaced words and its ending. -/
theorem text_eq (form : DeclarationForm) :
    form.text = form.indent ++ (spacedText form.words ++ '=' :: form.ending) := by
  cases modified : form.constGap <;>
    simp [text, modifierText, words, ending, spacedText, modified]

theorem qualifier_within (form : DeclarationForm) :
    Within isWord form.qualifier ∧ form.qualifier ≠ [] := by
  rcases form.qualifier_known with known | known <;> rw [known]
  · exact ⟨by decide, by decide⟩
  · exact ⟨by decide, by decide⟩

theorem wellSpaced (form : DeclarationForm) : WellSpaced form.words := by
  have nameSpaced : WellSpaced [(form.name, form.nameGap)] :=
    .cons form.name_identifier.within form.name_identifier.nonempty form.nameGap_blank
      (absurd rfl) .nil
  have typeSpaced : WellSpaced [(form.type, form.typeGap), (form.name, form.nameGap)] :=
    .cons form.type_identifier.within form.type_identifier.nonempty form.typeGap_blank.within
      (fun _ => form.typeGap_blank.nonempty) nameSpaced
  refine .cons form.qualifier_within.1 form.qualifier_within.2 form.gap_blank.within
    (fun _ => form.gap_blank.nonempty) ?_
  cases constGap : form.constGap with
  | none => exact typeSpaced
  | some gap =>
      have gapBlank := form.constGap_blank gap constGap
      exact .cons (by decide) (by decide) gapBlank.within (fun _ => gapBlank.nonempty) typeSpaced

/-- Behind its indent a declaration goes on with a word. -/
theorem leaves_indent
    (form : DeclarationForm)
    {rest : List Char} :
    Leaves isSpaceOrTab (spacedText form.words ++ '=' :: rest) := by
  intro character atHead
  have noBlank := form.wellSpaced.leaves_isBlank character atHead
  by_contra spaceOrTab
  rw [Bool.not_eq_false] at spaceOrTab
  rw [isBlank_of_isSpaceOrTab spaceOrTab] at noBlank
  exact Bool.noConfusion noBlank

/-- The semicolon is the first one behind the equals sign. -/
theorem ending_unique
    {form other : DeclarationForm}
    {rest otherRest : List Char}
    (same : form.ending ++ rest = other.ending ++ otherRest) :
    form.value = other.value ∧ rest = otherRest := by
  rw [ending, ending, List.append_assoc, List.append_assoc] at same
  obtain ⟨sameValue, sameRest⟩ :=
    run_unique same form.value_within other.value_within
      (Leaves.cons_iff.mpr (by decide)) (Leaves.cons_iff.mpr (by decide))
  exact ⟨sameValue, (List.cons.inj sameRest).2⟩

/-- The number of words tells whether the modifier is among them, so the words tell all. -/
theorem words_injective
    {form other : DeclarationForm}
    (same : form.words = other.words) :
    form.qualifier = other.qualifier ∧ form.gap = other.gap ∧
      form.constGap = other.constGap ∧
      form.type = other.type ∧ form.typeGap = other.typeGap ∧
      form.name = other.name ∧ form.nameGap = other.nameGap := by
  cases modified : form.constGap <;> cases otherModified : other.constGap <;>
    simp [words, modified, otherModified] at same ⊢
  all_goals grind

/-- A text begins with one declaration at most. -/
theorem unique
    {form other : DeclarationForm}
    {rest otherRest : List Char}
    (same : form.text ++ rest = other.text ++ otherRest) :
    form = other ∧ rest = otherRest := by
  rw [text_eq, text_eq] at same
  simp only [List.append_assoc, List.cons_append] at same
  obtain ⟨sameIndent, sameOnward⟩ :=
    run_unique same form.indent_within other.indent_within
      form.leaves_indent other.leaves_indent
  obtain ⟨sameWords, sameEnding⟩ := form.wellSpaced.unique other.wellSpaced sameOnward
  obtain ⟨sameValue, sameRest⟩ := ending_unique sameEnding
  obtain ⟨sameQualifier, sameGap, sameConstGap, sameType, sameTypeGap, sameName, sameNameGap⟩ :=
    words_injective sameWords
  exact ⟨DeclarationForm.ext sameIndent sameQualifier sameGap sameConstGap sameType sameTypeGap
    sameName sameNameGap sameValue, sameRest⟩

/-- The words behind a word of a declaration are not the words of another declaration. -/
theorem words_ne_later
    {form other : DeclarationForm}
    {earlier : List SpacedWord}
    {word : SpacedWord} :
    form.words ≠ earlier ++ word :: other.words := by
  intro same
  have sameLength := congrArg List.length same
  -- Only `const`, the type and the name are words enough, and `const` marks no parameter.
  cases modified : form.constGap with
  | none =>
      simp [words, modified] at sameLength
      omega
  | some gap =>
      cases earlier with
      | cons first more =>
          simp [words, modified] at sameLength
          omega
      | nil =>
          have qualifierIsConst : constModifier = other.qualifier := by
            simp [words, modified] at same
            exact same.2.1.1
          rcases other.qualifier_known with known | known <;>
            rw [known] at qualifierIsConst <;>
            exact absurd qualifierIsConst (by decide)

/-- Behind a line break in a declaration no other declaration begins. -/
theorem not_behind_break
    {form other : DeclarationForm}
    {before behind rest otherRest : List Char}
    (broken : form.text = before ++ '\n' :: behind)
    (onward : behind ++ rest = other.text ++ otherRest) :
    False := by
  have endingUnbroken : '\n' ∉ '=' :: form.ending := by
    have valueUnbroken : '\n' ∉ form.value := form.value_within.not_mem (by decide)
    simp [ending, valueUnbroken]
  rw [text_eq] at broken
  obtain ⟨pastIndent, _, wordsBroken⟩ :=
    occurs_behind broken (form.indent_within.not_mem (by decide))
  obtain ⟨earlier, word, gap, gapEnd, later, wordsShape, behindShape⟩ :=
    form.wellSpaced.break_in_gap wordsBroken endingUnbroken
  have formSpaced := form.wellSpaced
  rw [wordsShape] at formSpaced
  obtain ⟨gapEndBlank, laterSpaced⟩ := formSpaced.behind
  -- The blanks behind the break are the other declaration's indentation.
  rw [behindShape, text_eq] at onward
  simp only [List.append_assoc, List.cons_append] at onward
  have indentBlank : Within isBlank other.indent :=
    other.indent_within.mono isBlank_of_isSpaceOrTab
  obtain ⟨_, wordsOnward⟩ :=
    run_unique onward gapEndBlank indentBlank
      laterSpaced.leaves_isBlank other.wellSpaced.leaves_isBlank
  obtain ⟨laterShape, _⟩ := laterSpaced.unique other.wellSpaced wordsOnward
  rw [laterShape] at wordsShape
  exact words_ne_later wordsShape

end DeclarationForm

end ExpertAdvisor.Indicator
