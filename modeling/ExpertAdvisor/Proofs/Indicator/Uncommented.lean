import ExpertAdvisor.Indicator.Comment
import Mathlib.Data.List.Infix

namespace ExpertAdvisor.Indicator

/-!
# Text without comments

A text in which no comment is opened is left as it is when comments are blanked.
Pieces of such a text can be put together wherever no opening marker arises
between them.
-/

/-- Two characters stand one behind the other in a text when they do at its head or behind it. -/
theorem pair_isInfix_cons_iff
    {first second character : Char}
    {text : List Char} :
    [first, second] <:+: character :: text ↔
      (character = first ∧ text.head? = some second) ∨ [first, second] <:+: text := by
  rw [List.infix_cons_iff]
  refine or_congr_left ?_
  cases text with
  | nil => simp
  | cons following rest => simp [List.cons_prefix_cons, eq_comm]

/-- The marker that opens a comment. -/
def commentMarker : List Char := ['/', '*']

/-- No comment is opened in a text. -/
def Uncommented (text : List Char) : Prop :=
  ¬ commentMarker <:+: text

/-- Whether a text opens no comment can be decided. -/
instance (text : List Char) : Decidable (Uncommented text) :=
  inferInstanceAs (Decidable (¬ commentMarker <:+: text))

namespace Uncommented

variable {first second text : List Char} {character : Char}

theorem of_cons (uncommented : Uncommented (character :: text)) : Uncommented text :=
  fun marked => uncommented (marked.trans (List.suffix_cons character text).isInfix)

theorem of_not_mem (noAsterisk : '*' ∉ text) : Uncommented text :=
  fun marked => noAsterisk (marked.subset (by decide))

/-- A character opens a comment only together with the one behind it. -/
theorem cons_iff :
    Uncommented (character :: text) ↔
      ¬ (character = '/' ∧ text.head? = some '*') ∧ Uncommented text := by
  rw [Uncommented, commentMarker, pair_isInfix_cons_iff, not_or]
  rfl

/-- Texts open no comment together unless they meet in an opening marker. -/
theorem append
    (firstUncommented : Uncommented first)
    (secondUncommented : Uncommented second)
    (apart : ¬ (first.getLast? = some '/' ∧ second.head? = some '*')) :
    Uncommented (first ++ second) := by
  induction first with
  | nil => exact secondUncommented
  | cons character rest inductionHypothesis =>
      obtain ⟨notOpened, restUncommented⟩ := cons_iff.mp firstUncommented
      rw [List.cons_append, cons_iff]
      cases rest with
      | nil => exact ⟨by simpa using apart, secondUncommented⟩
      | cons following more =>
          refine ⟨notOpened, inductionHypothesis restUncommented ?_⟩
          rwa [List.getLast?_cons_cons] at apart

end Uncommented

/-- A text in which no comment is opened is left as it is. -/
theorem blankComments_of_uncommented
    {text : List Char}
    (uncommented : Uncommented text) :
    blankComments text = text := by
  have kept (earlier : List Char) : blankCommentsFrom earlier text = earlier.reverse ++ text := by
    fun_induction blankCommentsFrom earlier text with
    | case1 earlier rest newKept following passed inductionHypothesis =>
        exact absurd (List.prefix_append ['/', '*'] rest).isInfix uncommented
    | case2 earlier rest passed => rfl
    | case3 earlier character rest notOpened inductionHypothesis =>
        rw [inductionHypothesis uncommented.of_cons, List.reverse_cons, List.append_assoc]
        rfl
    | case4 earlier => rw [List.append_nil]
  exact kept []

end ExpertAdvisor.Indicator
