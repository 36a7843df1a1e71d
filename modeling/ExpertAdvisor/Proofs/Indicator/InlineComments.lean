import ExpertAdvisor.Proofs.Indicator.BlankedComments
import ExpertAdvisor.Proofs.Indicator.SpacedSeams

namespace ExpertAdvisor.Indicator

open Text

/-!
# Comments within a line

A comment without line breaks is removed and leaves nothing behind, so the texts
on both sides of it are put together.  Extraction finds what it would find with
a space in place of the comment, unless words of a declaration meet there or the
comment stands within a value.
-/

/-! Texts around a comment. -/

variable {before comment : List Char}

/-- An inline comment is blanked to nothing. -/
theorem blankComments_inlineComment
    (uncommented : Uncommented before)
    (noSlash : before.getLast? ≠ some '/')
    (unclosed : Unclosed comment)
    (oneLine : '\n' ∉ comment)
    (after : List Char) :
    blankComments (before ++ '/' :: '*' :: (comment ++ '*' :: '/' :: after)) =
      before ++ blankComments after := by
  rw [(BlanksTo.of_uncommented uncommented).blankComments_joined noSlash,
    blankComments_comment unclosed.append_asterisk, breaksOf_eq_nil oneLine, List.nil_append]

theorem blankComments_space
    (uncommented : Uncommented before)
    (noSlash : before.getLast? ≠ some '/')
    (after : List Char) :
    blankComments (before ++ ' ' :: after) = before ++ ' ' :: blankComments after := by
  rw [(BlanksTo.of_uncommented uncommented).blankComments_joined noSlash,
    blankComments_plain (by simp)]

theorem toList_inlineComment (before comment after : String) :
    (before ++ "/*" ++ comment ++ "*/" ++ after).toList =
      before.toList ++ '/' :: '*' :: (comment.toList ++ '*' :: '/' :: after.toList) := by
  have opening : "/*".toList = ['/', '*'] := by decide
  have closing : "*/".toList = ['*', '/'] := by decide
  simp only [String.toList_append, opening, closing, List.append_assoc, List.cons_append,
    List.nil_append]

theorem toList_space (before after : String) :
    (before ++ " " ++ after).toList = before.toList ++ ' ' :: after.toList := by
  have space : " ".toList = [' '] := by decide
  simp only [String.toList_append, space, List.append_assoc, List.singleton_append]

/-- No name is declared twice in a source. -/
def DeclaresOnce (source : String) : Prop :=
  (Parameter.names (declarations (blankComments source.toList))).Nodup

/-- Where no name is declared twice, the parameters are all that is declared. -/
theorem DeclaresOnce.parameters_eq_declarations
    {source : String}
    (once : DeclaresOnce source) :
    parameters source = declarations (blankComments source.toList) := by
  rw [parameters_eq, firstOfEachName_eq_self once fun _ _ => List.not_mem_nil]

/--
A comment within a line has no effect at all, not even that of a space.  Where
a space would not matter, the parameters are those of the text with a space in
place of the comment; where it would matter and no name is declared twice, they
are others.
-/
theorem inlineComment_as_space_iff
    {before comment : String}
    (uncommented : Uncommented before.toList)
    (noSlash : before.toList.getLast? ≠ some '/')
    (unclosed : Unclosed comment.toList)
    (oneLine : '\n' ∉ comment.toList)
    (after : String) :
    parameters (before ++ "/*" ++ comment ++ "*/" ++ after) = parameters (before ++ after) ∧
    (¬ SpaceMatters before.toList (blankComments after.toList) →
      parameters (before ++ "/*" ++ comment ++ "*/" ++ after) =
        parameters (before ++ " " ++ after)) ∧
    (DeclaresOnce (before ++ after) → DeclaresOnce (before ++ " " ++ after) →
      (parameters (before ++ "/*" ++ comment ++ "*/" ++ after) =
          parameters (before ++ " " ++ after) ↔
        ¬ SpaceMatters before.toList (blankComments after.toList))) := by
  have commented :
      blankComments (before ++ "/*" ++ comment ++ "*/" ++ after).toList =
        before.toList ++ blankComments after.toList := by
    rw [toList_inlineComment, blankComments_inlineComment uncommented noSlash unclosed oneLine]
  have joined :
      blankComments (before ++ after).toList = before.toList ++ blankComments after.toList := by
    rw [String.toList_append, (BlanksTo.of_uncommented uncommented).blankComments_joined noSlash]
  have spaced :
      blankComments (before ++ " " ++ after).toList =
        before.toList ++ ' ' :: blankComments after.toList := by
    rw [toList_space, blankComments_space uncommented noSlash]
  have same :
      parameters (before ++ "/*" ++ comment ++ "*/" ++ after) = parameters (before ++ after) := by
    rw [parameters_eq, parameters_eq, commented, joined]
  refine ⟨same, ?_, ?_⟩
  · intro indifferent
    rw [parameters_eq, parameters_eq, commented, spaced, declarations_space indifferent]
  · intro joinedOnce spacedOnce
    rw [same, joinedOnce.parameters_eq_declarations, spacedOnce.parameters_eq_declarations, joined,
      spaced, eq_comm, declarations_space_iff]

/-- A comment between a type and a name, with a space in front of it, is like a space. -/
theorem inlineComment_as_space_bars :
    Uncommented "input int ".toList ∧ "input int ".toList.getLast? ≠ some '/' ∧
      Unclosed "bars".toList ∧ '\n' ∉ "bars".toList ∧
      DeclaresOnce ("input int " ++ "Period = 14;") ∧
      DeclaresOnce ("input int " ++ " " ++ "Period = 14;") ∧
      parameters ("input int " ++ "/*" ++ "bars" ++ "*/" ++ "Period = 14;") =
        [⟨"Period", "14", some "int"⟩] ∧
      parameters ("input int " ++ " " ++ "Period = 14;") = [⟨"Period", "14", some "int"⟩] := by
  have uncommented : Uncommented "input int ".toList := by decide
  have unclosed : Unclosed "bars".toList := by decide
  have behind : blankComments "Period = 14;".toList = "Period = 14;".toList :=
    blankComments_of_uncommented (by decide)
  have joinedOnce : DeclaresOnce ("input int " ++ "Period = 14;") := by
    rw [DeclaresOnce, blankComments_of_uncommented (by decide)]
    decide
  have spacedOnce : DeclaresOnce ("input int " ++ " " ++ "Period = 14;") := by
    rw [DeclaresOnce, blankComments_of_uncommented (by decide)]
    decide
  have indifferent :
      ¬ SpaceMatters "input int ".toList (blankComments "Period = 14;".toList) := by
    rw [behind]
    exact declarations_space_iff.mp (by decide)
  obtain ⟨joined, _, iff⟩ :=
    inlineComment_as_space_iff uncommented (by decide) unclosed (by decide) "Period = 14;"
  have spaced := (iff joinedOnce spacedOnce).mpr indifferent
  have evaluated :
      parameters ("input int " ++ "Period = 14;") = [⟨"Period", "14", some "int"⟩] := by
    rw [joinedOnce.parameters_eq_declarations, blankComments_of_uncommented (by decide)]
    decide
  exact ⟨uncommented, by decide, unclosed, by decide, joinedOnce, spacedOnce,
    joined.trans evaluated, spaced.symm.trans (joined.trans evaluated)⟩

/--
A comment that stands alone between the qualifier and the type hides a
declaration, which a line break in the comment shows again.
-/
theorem inlineComment_not_as_space_qualifier :
    Uncommented "input".toList ∧ "input".toList.getLast? ≠ some '/' ∧
      Unclosed " bars ".toList ∧ '\n' ∉ " bars ".toList ∧
      parameters ("input" ++ "/*" ++ " bars " ++ "*/" ++ "int Period = 14;\n") = [] ∧
      parameters ("input" ++ "/*" ++ " bars\n" ++ "*/" ++ "int Period = 14;\n") =
        [⟨"Period", "14", some "int"⟩] ∧
      parameters ("input" ++ " " ++ "int Period = 14;\n") = [⟨"Period", "14", some "int"⟩] := by
  have uncommented : Uncommented "input".toList := by decide
  have noSlash : "input".toList.getLast? ≠ some '/' := by decide
  have unclosed : Unclosed " bars ".toList := by decide
  have brokenUnclosed : Unclosed (" bars\n".toList ++ ['*']) := by decide
  have behind : blankComments "int Period = 14;\n".toList = "int Period = 14;\n".toList :=
    blankComments_of_uncommented (by decide)
  refine ⟨uncommented, noSlash, unclosed, by decide, ?_, ?_, ?_⟩
  · rw [parameters_eq, toList_inlineComment,
      blankComments_inlineComment uncommented noSlash unclosed (by decide), behind]
    decide
  · rw [parameters_eq, toList_inlineComment,
      (BlanksTo.of_uncommented uncommented).blankComments_joined noSlash,
      blankComments_comment brokenUnclosed, behind]
    decide
  · rw [parameters_eq, toList_space, blankComments_space uncommented noSlash, behind]
    decide

end ExpertAdvisor.Indicator
