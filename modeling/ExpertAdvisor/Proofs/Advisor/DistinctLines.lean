import ExpertAdvisor.Proofs.Advisor.CarriedInput

namespace ExpertAdvisor

open Text Indicator Advisor Number

/-!
# Distinct lines

What is written on a line can be told from the line.  Numbers differ in their
digits, the line of an input ends its type, its name and its value each in its
own way, and an empty line ends a section.
-/

/-! Numbers. -/

namespace Number

/-- Different natural numbers are written differently. -/
theorem naturalText_injective : Function.Injective naturalText := by
  intro first second same
  have sameDigits : Nat.toDigits 10 first = Nat.toDigits 10 second :=
    String.ofList_injective same
  rw [← @Nat.ofDigitChars_ten_toDigits first, sameDigits, Nat.ofDigitChars_ten_toDigits]

/-- No natural number is written with a minus sign. -/
theorem minus_not_mem_naturalText (number : Nat) : '-' ∉ (naturalText number).toList := by
  intro member
  rw [naturalText, String.toList_ofList] at member
  exact absurd (Nat.isDigit_of_mem_toDigits (by decide) (by decide) member) (by decide)

/-- Different integers are written differently. -/
theorem integerText_injective : Function.Injective integerText := by
  have minus : "-".toList = ['-'] := by decide
  -- Only the text of a negative number has a minus sign.
  have sign (number : Int) : '-' ∈ (integerText number).toList ↔ number < 0 := by
    rw [integerText]
    split
    case isTrue negative => simp [minus, negative]
    case isFalse notNegative => simp [minus_not_mem_naturalText, notNegative]
  intro first second same
  have sameSign : first < 0 ↔ second < 0 := by rw [← sign, ← sign, same]
  have sameSize : first.natAbs = second.natAbs := by
    rw [integerText, integerText] at same
    by_cases negative : first < 0
    · rw [if_pos negative, if_pos (sameSign.mp negative), String.append_right_inj] at same
      exact naturalText_injective same
    · rw [if_neg negative, if_neg (mt sameSign.mpr negative)] at same
      exact naturalText_injective same
  omega

end Number

namespace Advisor

/-! Inputs. -/

namespace Input

theorem toList_line (input : Input) :
    input.line.toList =
      "input ".toList ++ (input.type.toList ++ ' ' :: (input.name.toList ++ ' ' :: '=' :: ' ' ::
        (input.value.toList ++ ';' :: input.note.toList))) := by
  have space : " ".toList = [' '] := by decide
  have equals : " = ".toList = [' ', '=', ' '] := by decide
  have semicolon : ";".toList = [';'] := by decide
  simp only [line, String.toList_append, space, equals, semicolon, List.append_assoc,
    List.cons_append, List.nil_append]

namespace Delimited

/-- The line of an input tells the input. -/
theorem line_unique
    {first second : Input}
    (firstDelimited : first.Delimited)
    (secondDelimited : second.Delimited)
    (same : first.line = second.line) :
    first = second := by
  have sameText := congrArg String.toList same
  rw [toList_line, toList_line, List.append_cancel_left_eq] at sameText
  obtain ⟨sameType, behindType⟩ := run_unique sameText
    firstDelimited.type_identifier.within secondDelimited.type_identifier.within
    (Leaves.cons_iff.mpr (by decide)) (Leaves.cons_iff.mpr (by decide))
  obtain ⟨sameName, behindName⟩ := run_unique (List.cons.inj behindType).2
    firstDelimited.name_identifier.within secondDelimited.name_identifier.within
    (Leaves.cons_iff.mpr (by decide)) (Leaves.cons_iff.mpr (by decide))
  simp only [List.cons.injEq, true_and] at behindName
  obtain ⟨sameValue, behindValue⟩ := run_unique behindName
    firstDelimited.value_within secondDelimited.value_within
    (Leaves.cons_iff.mpr (by decide)) (Leaves.cons_iff.mpr (by decide))
  have sameNote := (List.cons.inj behindValue).2
  cases first
  cases second
  simp_all [String.toList_inj]

/-- Delimited inputs can be told from their lines. -/
theorem map_line_unique
    {first second : List Input}
    (firstDelimited : ∀ input ∈ first, input.Delimited)
    (secondDelimited : ∀ input ∈ second, input.Delimited)
    (same : first.map line = second.map line) :
    first = second := by
  induction first generalizing second with
  | nil => exact (List.map_eq_nil_iff.mp same.symm).symm
  | cons input rest inductionHypothesis =>
      cases second with
      | nil => exact absurd same (List.cons_ne_nil _ _)
      | cons other more =>
          obtain ⟨inputDelimited, restDelimited⟩ := List.forall_mem_cons.mp firstDelimited
          obtain ⟨otherDelimited, moreDelimited⟩ := List.forall_mem_cons.mp secondDelimited
          obtain ⟨sameLine, sameRest⟩ := List.cons.inj same
          rw [inputDelimited.line_unique otherDelimited sameLine,
            inductionHypothesis restDelimited moreDelimited sameRest]

end Delimited

end Input

end Advisor

/-! Sections. -/

namespace Indicator

/-- Lines that are neither empty nor broken, as those of a section are. -/
def AreSolid (lines : List String) : Prop :=
  ∀ line ∈ lines, line ≠ "" ∧ '\n' ∉ line.toList

/-- Whether lines are solid can be decided line by line. -/
instance (lines : List String) : Decidable (AreSolid lines) :=
  inferInstanceAs (Decidable (∀ line ∈ lines, _))

/-- Whether a line goes on with a character. -/
def isLineCharacter (character : Char) : Bool :=
  character != '\n'

theorem within_isLineCharacter_iff {text : List Char} :
    Within isLineCharacter text ↔ '\n' ∉ text :=
  ⟨fun within => within.not_mem (by decide), fun oneLine character member =>
    bne_iff_ne.mpr fun isBreak => oneLine (isBreak ▸ member)⟩

/-- Where a line ends is the same for equal texts. -/
theorem line_unique
    {first second firstRest secondRest : List Char}
    (firstOneLine : '\n' ∉ first)
    (secondOneLine : '\n' ∉ second)
    (same : first ++ '\n' :: firstRest = second ++ '\n' :: secondRest) :
    first = second ∧ firstRest = secondRest := by
  obtain ⟨sameLine, behindLine⟩ := run_unique same
    (within_isLineCharacter_iff.mpr firstOneLine) (within_isLineCharacter_iff.mpr secondOneLine)
    (Leaves.cons_iff.mpr (by decide)) (Leaves.cons_iff.mpr (by decide))
  exact ⟨sameLine, (List.cons.inj behindLine).2⟩

/-- The first empty line ends a section. -/
theorem section_unique
    {first second : List String}
    {firstRest secondRest : List Char}
    (firstSolid : AreSolid first)
    (secondSolid : AreSolid second)
    (same : linesText first ++ '\n' :: firstRest = linesText second ++ '\n' :: secondRest) :
    first = second ∧ firstRest = secondRest := by
  have line_cons (line : String) (lines : List String) (rest : List Char) :
      linesText (line :: lines) ++ rest = line.toList ++ '\n' :: (linesText lines ++ rest) := by
    simp [linesText]
  induction first generalizing second with
  | nil =>
      cases second with
      | nil => exact ⟨rfl, (List.cons.inj same).2⟩
      | cons line more =>
          rw [line_cons] at same
          obtain ⟨someLine, oneLine⟩ := secondSolid line List.mem_cons_self
          have empty := (line_unique List.not_mem_nil oneLine same).1
          exact absurd (String.toList_eq_nil_iff.mp empty.symm) someLine
  | cons line more inductionHypothesis =>
      obtain ⟨⟨someLine, oneLine⟩, moreSolid⟩ := List.forall_mem_cons.mp firstSolid
      rw [line_cons] at same
      cases second with
      | nil =>
          have empty := (line_unique oneLine List.not_mem_nil same).1
          exact absurd (String.toList_eq_nil_iff.mp empty) someLine
      | cons other rest =>
          obtain ⟨⟨_, otherOneLine⟩, restSolid⟩ := List.forall_mem_cons.mp secondSolid
          rw [line_cons] at same
          obtain ⟨sameLine, goesOn⟩ := line_unique oneLine otherOneLine same
          obtain ⟨sameMore, sameRest⟩ := inductionHypothesis moreSolid restSolid goesOn
          exact ⟨by rw [String.toList_injective sameLine, sameMore], sameRest⟩

/-- A section is followed by an empty line and the sections behind it. -/
theorem linesText_sections
    (lines : List String)
    {later : List (List String)}
    (someLater : later ≠ []) :
    linesText ([""].intercalate (lines :: later)) =
      linesText lines ++ '\n' :: linesText ([""].intercalate later) := by
  obtain ⟨next, more, rfl⟩ := List.exists_cons_of_ne_nil someLater
  rw [List.intercalate_cons_cons, linesText_append, linesText_append]
  simp [linesText]

/-- The text of sections tells the first of them, and the text of the others. -/
theorem firstSection_unique
    {first second : List String}
    {firstLater secondLater : List (List String)}
    (firstSolid : AreSolid first)
    (secondSolid : AreSolid second)
    (someFirst : firstLater ≠ [])
    (someSecond : secondLater ≠ [])
    (same :
      linesText ([""].intercalate (first :: firstLater)) =
        linesText ([""].intercalate (second :: secondLater))) :
    first = second ∧
      linesText ([""].intercalate firstLater) = linesText ([""].intercalate secondLater) := by
  rw [linesText_sections first someFirst, linesText_sections second someSecond] at same
  exact section_unique firstSolid secondSolid same

/-- What stands behind the same sections is the same. -/
theorem lastSection_unique
    (common : List (List String))
    {first second : List String}
    (same :
      linesText ([""].intercalate (common ++ [first])) =
        linesText ([""].intercalate (common ++ [second]))) :
    linesText first = linesText second := by
  induction common with
  | nil => simpa using same
  | cons lines more inductionHypothesis =>
      rw [List.cons_append, List.cons_append, linesText_sections lines (by simp),
        linesText_sections lines (by simp), List.append_cancel_left_eq] at same
      exact inductionHypothesis (List.cons.inj same).2

end Indicator

end ExpertAdvisor
