import ExpertAdvisor.Advisor.Scaffold
import ExpertAdvisor.Proofs.Indicator.WrittenLines
import ExpertAdvisor.Proofs.Number.Characters

namespace ExpertAdvisor.Advisor

open Text Indicator Number

/-!
# Pieces of code

Code is put together from fixed words, names, numbers and texts of the user's.
Plain pieces have no line break and no asterisk; the others are contained in
their line and open no comment on their own.  A line of such pieces is quiet
when its beginning rules out a declaration.
-/

/-- Texts of one class, set apart by a text of that class, are together of that class. -/
theorem within_intercalate
    {belongs : Char → Bool}
    {separator : String}
    {pieces : List String}
    (separatorWithin : Within belongs separator.toList)
    (piecesWithin : ∀ piece ∈ pieces, Within belongs piece.toList) :
    Within belongs (separator.intercalate pieces).toList := by
  induction pieces with
  | nil => exact Within.nil
  | cons piece rest inductionHypothesis =>
      obtain ⟨pieceWithin, restWithin⟩ := List.forall_mem_cons.mp piecesWithin
      cases rest with
      | nil => rwa [String.intercalate_singleton]
      | cons next more =>
          rw [String.intercalate_cons_cons, String.toList_append, String.toList_append,
            Within.append_iff, Within.append_iff]
          exact ⟨⟨pieceWithin, separatorWithin⟩, inductionHypothesis restWithin⟩

/-- Whether a character neither breaks a line nor is needed to open a comment. -/
def isCodeCharacter (character : Char) : Bool :=
  !(character == '\n' || character == '*')

/-- A piece of code without line breaks and asterisks. -/
abbrev PlainCode (code : String) : Prop :=
  Within isCodeCharacter code.toList

theorem isCodeCharacter_of_isNumeralCharacter
    {character : Char}
    (isNumeral : isNumeralCharacter character = true) :
    isCodeCharacter character = true := by
  rw [isCodeCharacter, Bool.not_eq_true', ← Bool.not_eq_true]
  intro excluded
  simp only [Bool.or_eq_true, beq_iff_eq] at excluded
  rcases excluded with rfl | rfl <;> exact absurd isNumeral (by decide)

namespace PlainCode

variable {first second : String}

theorem append
    (firstPlain : PlainCode first)
    (secondPlain : PlainCode second) :
    PlainCode (first ++ second) := by
  rw [PlainCode, String.toList_append, Within.append_iff]
  exact ⟨firstPlain, secondPlain⟩

theorem intercalate
    {separator : String}
    {pieces : List String}
    (separatorPlain : PlainCode separator)
    (piecesPlain : ∀ piece ∈ pieces, PlainCode piece) :
    PlainCode (separator.intercalate pieces) :=
  within_intercalate separatorPlain piecesPlain

end PlainCode

theorem plainCode_spaces (count : Nat) :
    PlainCode (String.ofList (List.replicate count ' ')) := by
  intro character member
  rw [String.toList_ofList] at member
  rw [List.eq_of_mem_replicate member]
  decide

/-- A text that stays on its line and opens no comment. -/
structure Contained (text : String) : Prop where
  oneLine : '\n' ∉ text.toList
  uncommented : Uncommented text.toList

namespace Contained

variable {first second : String}

/-- Code without quotes and comments is contained. -/
theorem of_plain (plain : PlainCode first) : Contained first :=
  ⟨plain.not_mem (by decide), .of_not_mem (plain.not_mem (by decide))⟩

/-- Contained texts put together are contained, unless they open a comment where they meet. -/
theorem append
    (firstContained : Contained first)
    (secondContained : Contained second)
    (apart : ¬ (first.toList.getLast? = some '/' ∧ second.toList.head? = some '*')) :
    Contained (first ++ second) where
  oneLine := by
    rw [String.toList_append, List.mem_append, not_or]
    exact ⟨firstContained.oneLine, secondContained.oneLine⟩
  uncommented := by
    rw [String.toList_append]
    exact firstContained.uncommented.append secondContained.uncommented apart

/-- Plain code behind contained code leaves it contained. -/
theorem append_plain
    (firstContained : Contained first)
    (plain : PlainCode second) :
    Contained (first ++ second) :=
  firstContained.append (of_plain plain) fun meets =>
    plain.not_mem (by decide) (List.mem_of_mem_head? meets.2)

theorem intercalate
    {pieces : List String}
    (piecesContained : ∀ piece ∈ pieces, Contained piece) :
    Contained (", ".intercalate pieces) := by
  induction pieces with
  | nil => exact of_plain (by rw [String.intercalate_nil]; decide)
  | cons piece rest inductionHypothesis =>
      obtain ⟨pieceContained, restContained⟩ := List.forall_mem_cons.mp piecesContained
      cases rest with
      | nil => rwa [String.intercalate_singleton]
      | cons next more =>
          rw [String.intercalate_cons_cons]
          have withComma : Contained (piece ++ ", ") := pieceContained.append_plain (by decide)
          refine withComma.append (inductionHypothesis restContained) fun meets => ?_
          rw [String.toList_append] at meets
          exact absurd meets.1 (by simp)

/-- A contained line whose beginning rules a declaration out is quiet. -/
theorem quiet
    {lead : String}
    (contained : Contained (lead ++ first))
    (ruledOut : RulesOut lead.toList) :
    Quiet (lead ++ first).toList := by
  refine ⟨contained.oneLine, contained.uncommented, ?_⟩
  rw [String.toList_append, List.append_assoc]
  exact ruledOut.append _

end Contained

/-- A line of plain code is quiet when its beginning rules out a declaration. -/
theorem PlainCode.quiet
    {lead rest : String}
    (leadPlain : PlainCode lead)
    (restPlain : PlainCode rest)
    (ruledOut : RulesOut lead.toList) :
    Quiet (lead ++ rest).toList :=
  (Contained.of_plain (leadPlain.append restPlain)).quiet ruledOut

end ExpertAdvisor.Advisor
