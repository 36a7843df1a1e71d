import ExpertAdvisor.Advisor.Literal
import ExpertAdvisor.Proofs.Text.Classes

namespace ExpertAdvisor.Code

open Text Advisor

/-!
# Reading string literals

A string literal begins with a quote and ends at the first quote that no
backslash escapes.  Its line must not end before it does.  The literal of a text
is read as exactly that text, whatever stands behind the literal.
-/

/-- The character that stands for itself or for another one behind a backslash. -/
def escapedCharacter? : Char → Option Char
  | '\\' => some '\\'
  | '"' => some '"'
  | 'n' => some '\n'
  | 'r' => some '\r'
  | 't' => some '\t'
  | _ => none

/-- The text up to the closing quote, and what is behind the quote. -/
def readQuoted? : List Char → Option (List Char × List Char)
  | [] => none
  | '"' :: rest => some ([], rest)
  | '\n' :: _ => none
  | '\r' :: _ => none
  | ['\\'] => none
  | '\\' :: mark :: rest =>
      match escapedCharacter? mark with
      | some character => (readQuoted? rest).map fun read => (character :: read.1, read.2)
      | none => none
  | character :: rest => (readQuoted? rest).map fun read => (character :: read.1, read.2)

/-- The text of the literal that a code begins with, and the code behind the literal. -/
def readLiteral? : List Char → Option (List Char × List Char)
  | '"' :: rest => readQuoted? rest
  | _ => none

/-- The escape of a character is read as the character. -/
theorem readQuoted?_escapeLiteral
    (character : Char)
    (rest : List Char) :
    readQuoted? (escapeLiteral character ++ rest) =
      (readQuoted? rest).map fun read => (character :: read.1, read.2) := by
  unfold escapeLiteral
  repeat' split
  all_goals simp_all [readQuoted?, escapedCharacter?]

/-- The escapes of a text are read as the text, up to the quote behind them. -/
theorem readQuoted?_escaped
    (text rest : List Char) :
    readQuoted? (text.flatMap escapeLiteral ++ '"' :: rest) = some (text, rest) := by
  induction text with
  | nil => rfl
  | cons character more inductionHypothesis =>
      rw [List.flatMap_cons, List.append_assoc, readQuoted?_escapeLiteral, inductionHypothesis]
      rfl

/-- The literal of a text is read as the text and ends where it was written to end. -/
theorem readLiteral?_stringLiteral
    (text : String)
    (rest : List Char) :
    readLiteral? ((stringLiteral text).toList ++ rest) = some (text.toList, rest) := by
  have shape : (stringLiteral text).toList ++ rest =
      '"' :: (text.toList.flatMap escapeLiteral ++ '"' :: rest) := by
    simp [stringLiteral]
  rw [shape, readLiteral?, readQuoted?_escaped]

example : readLiteral? "\"a\\\"; //\"; rest".toList = some ("a\"; //".toList, "; rest".toList) := by
  decide

/-- The literal of a text tells the text. -/
theorem stringLiteral_injective : Function.Injective stringLiteral := by
  intro first second same
  have read := readLiteral?_stringLiteral first []
  rw [same, readLiteral?_stringLiteral] at read
  exact (String.toList_injective (Prod.mk.inj (Option.some.inj read)).1).symm

/-- The literal of a text has no characters of its own but quotes, backslashes and letters. -/
theorem within_stringLiteral
    {belongs : Char → Bool}
    {text : String}
    (marks : Within belongs ['"', '\\', 'n', 'r', 't'])
    (within : Within belongs text.toList) :
    Within belongs (stringLiteral text).toList := by
  simp only [Within.cons_iff] at marks
  obtain ⟨quote, slash, n, r, t, _⟩ := marks
  have escaped (character : Char) (belonging : belongs character = true) :
      Within belongs (escapeLiteral character) := by
    unfold escapeLiteral
    repeat' split
    all_goals simp_all
  rw [stringLiteral, String.toList_ofList, Within.cons_iff, Within.append_iff]
  refine ⟨quote, ?_, by simpa using quote⟩
  intro character member
  obtain ⟨source, inText, inEscape⟩ := List.mem_flatMap.mp member
  exact escaped source (within source inText) character inEscape

end ExpertAdvisor.Code
