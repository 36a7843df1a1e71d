import ExpertAdvisor.Proofs.Code.StringLiteral
import Mathlib.Data.List.Basic

namespace ExpertAdvisor.Code

open Text Advisor

/-!
# String literals as an encoding

A text becomes a literal by replacing one character after another in the whole
of it.  Backslashes are replaced first, so that later replacements add
backslashes and never see any of those as characters to be replaced.  All
replacements together escape every character once.  The literal ends at its
first unescaped quote, has no line breaks or tabs of its own, and decodes to the
text.
-/

/-- The text with a replacement for every occurrence of a character. -/
def replaceEach
    (old : Char)
    (replacement text : List Char) : List Char :=
  text.flatMap fun character => if character = old then replacement else [character]

/-- Replaces characters by a backslash and a mark, one after another in the whole text. -/
def replaceInTurn
    (marks : List (Char × Char))
    (text : List Char) : List Char :=
  marks.foldl (fun changed mark => replaceEach mark.1 ['\\', mark.2] changed) text

/-- The characters that a literal cannot hold, with the marks that stand for them, in turn. -/
def literalMarks : List (Char × Char) :=
  [('\\', '\\'), ('"', '"'), ('\n', 'n'), ('\r', 'r'), ('\t', 't')]

/-- Decodes escapes from left to right; one that stands for nothing is refused. -/
def unescaped? : List Char → Option (List Char)
  | [] => some []
  | ['\\'] => none
  | '\\' :: mark :: rest =>
      match escapedCharacter? mark with
      | some character => (unescaped? rest).map (character :: ·)
      | none => none
  | character :: rest => (unescaped? rest).map (character :: ·)

/-- How many characters stand before the first quote that no backslash escapes. -/
def closingQuote? : List Char → Option Nat
  | [] => none
  | '"' :: _ => some 0
  | ['\\'] => none
  | '\\' :: _ :: rest => (closingQuote? rest).map (· + 2)
  | _ :: rest => (closingQuote? rest).map (· + 1)

/-! Replacements in turn. -/

/-- What replacements in turn make of a text, they make of each of its characters alone. -/
theorem replaceInTurn_eq_flatMap
    (marks : List (Char × Char))
    (text : List Char) :
    replaceInTurn marks text = text.flatMap fun character => replaceInTurn marks [character] := by
  induction marks generalizing text with
  | nil => exact (List.flatMap_singleton' text).symm
  | cons mark more inductionHypothesis =>
      have first (changed : List Char) :
          replaceInTurn (mark :: more) changed =
            replaceInTurn more (replaceEach mark.1 ['\\', mark.2] changed) := rfl
      rw [first, inductionHypothesis, replaceEach, List.flatMap_assoc]
      refine List.flatMap_congr fun character _ => ?_
      rw [first, replaceEach, List.flatMap_singleton, ← inductionHypothesis]

/-- A character that no replacement is for stays as it is. -/
theorem replaceInTurn_of_unmarked
    {marks : List (Char × Char)}
    {character : Char}
    (unmarked : character ∉ marks.map Prod.fst) :
    replaceInTurn marks [character] = [character] := by
  induction marks with
  | nil => rfl
  | cons mark more inductionHypothesis =>
      rw [List.map_cons, List.mem_cons, not_or] at unmarked
      have kept : replaceEach mark.1 ['\\', mark.2] [character] = [character] := by
        rw [replaceEach, List.flatMap_singleton, if_neg unmarked.1]
      exact (congrArg (replaceInTurn more) kept).trans (inductionHypothesis unmarked.2)

/-- A character of a literal stands for itself, or a mark behind a backslash stands for it. -/
theorem escapeLiteral_cases (character : Char) :
    (character ∉ literalMarks.map Prod.fst ∧ escapeLiteral character = [character]) ∨
      ∃ mark, (character, mark) ∈ literalMarks ∧ escapeLiteral character = ['\\', mark] := by
  by_cases marked : character ∈ literalMarks.map Prod.fst
  · refine .inr ?_
    simp only [literalMarks, List.map_cons, List.map_nil, List.mem_cons, List.not_mem_nil,
      or_false] at marked
    rcases marked with rfl | rfl | rfl | rfl | rfl <;> exact ⟨_, by decide, rfl⟩
  · refine .inl ⟨marked, ?_⟩
    simp only [literalMarks, List.map_cons, List.map_nil, List.mem_cons, List.not_mem_nil,
      or_false, not_or] at marked
    simp [escapeLiteral, marked]

/-- The replacements of a literal escape each character once. -/
theorem replaceInTurn_literalMarks (text : List Char) :
    replaceInTurn literalMarks text = text.flatMap escapeLiteral := by
  rw [replaceInTurn_eq_flatMap]
  refine List.flatMap_congr fun character _ => ?_
  rcases escapeLiteral_cases character with ⟨unmarked, itself⟩ | ⟨mark, isMark, escaped⟩
  · rw [itself, replaceInTurn_of_unmarked unmarked]
  · have inTurn : ∀ known ∈ literalMarks,
        replaceInTurn literalMarks [known.1] = ['\\', known.2] := by decide
    rw [escaped, inTurn _ isMark]

/-! Escaped texts. -/

/-- The encoding of a character is read back as the character. -/
theorem unescaped?_escapeLiteral
    (character : Char)
    (rest : List Char) :
    unescaped? (escapeLiteral character ++ rest) =
      (unescaped? rest).map (character :: ·) := by
  rcases escapeLiteral_cases character with ⟨unmarked, itself⟩ | ⟨mark, isMark, escaped⟩
  · have notSlash : character ≠ '\\' := fun isSlash => unmarked (isSlash ▸ by decide)
    rw [itself, List.singleton_append, unescaped?] <;> simp [notSlash]
  · have known : ∀ known ∈ literalMarks, escapedCharacter? known.2 = some known.1 := by decide
    simp [escaped, unescaped?, known _ isMark]

/-- Decoding undoes escaping. -/
theorem unescaped?_escaped (text : List Char) :
    unescaped? (text.flatMap escapeLiteral) = some text := by
  induction text with
  | nil => rfl
  | cons character more inductionHypothesis =>
      rw [List.flatMap_cons, unescaped?_escapeLiteral, inductionHypothesis, Option.map_some]

/-- The escape of a character does not close a literal. -/
theorem closingQuote?_escapeLiteral
    (character : Char)
    (rest : List Char) :
    closingQuote? (escapeLiteral character ++ rest) =
      (closingQuote? rest).map (· + (escapeLiteral character).length) := by
  rcases escapeLiteral_cases character with ⟨unmarked, itself⟩ | ⟨mark, _, escaped⟩
  · have notSlash : character ≠ '\\' := fun isSlash => unmarked (isSlash ▸ by decide)
    have notQuote : character ≠ '"' := fun isQuote => unmarked (isQuote ▸ by decide)
    rw [itself, List.singleton_append, closingQuote?] <;> simp [notSlash, notQuote]
  · simp [escaped, closingQuote?]

/-- The quote behind an escaped text is the first one that is not escaped. -/
theorem closingQuote?_escaped (text : List Char) :
    closingQuote? (text.flatMap escapeLiteral ++ ['"']) =
      some (text.flatMap escapeLiteral).length := by
  induction text with
  | nil => rfl
  | cons character more inductionHypothesis =>
      rw [List.flatMap_cons, List.append_assoc, closingQuote?_escapeLiteral, inductionHypothesis,
        Option.map_some, List.length_append, Nat.add_comm]

/-- No character of an escaped text breaks its line or is a tab. -/
theorem not_mem_escaped
    {character : Char}
    (isControl : character ∈ ['\n', '\r', '\t'])
    (text : List Char) :
    character ∉ text.flatMap escapeLiteral := by
  intro member
  obtain ⟨source, _, inEscape⟩ := List.mem_flatMap.mp member
  have isMarked : ∀ known ∈ ['\n', '\r', '\t'], known ∈ literalMarks.map Prod.fst := by
    simp [literalMarks]
  rcases escapeLiteral_cases source with ⟨unmarked, itself⟩ | ⟨mark, isMark, escaped⟩
  · rw [itself, List.mem_singleton] at inEscape
    exact unmarked (inEscape ▸ isMarked _ isControl)
  · have harmless : ∀ known ∈ literalMarks,
        ∀ control ∈ ['\n', '\r', '\t'], control ∉ ['\\', known.2] := by
      simp [literalMarks]
    rw [escaped] at inEscape
    exact harmless _ isMark _ isControl inEscape

/--
The literal of a text is the text with five characters replaced in turn, between
quotes; that is each character escaped once.  It has no line feed, carriage
return or tab, its first unescaped quote behind the opening one is its last
character, and what stands between the quotes decodes to the text.  So no other
text has the same literal.
-/
theorem stringLiteral_encodes (text : String) :
    ∃ body,
      (stringLiteral text).toList = '"' :: (body ++ ['"']) ∧
      body = replaceInTurn literalMarks text.toList ∧
      body = text.toList.flatMap escapeLiteral ∧
      (∀ character ∈ ['\n', '\r', '\t'], character ∉ (stringLiteral text).toList) ∧
      closingQuote? (body ++ ['"']) = some body.length ∧
      unescaped? body = some text.toList ∧
      ∀ other, stringLiteral other = stringLiteral text → other = text := by
  have shape : (stringLiteral text).toList = '"' :: (text.toList.flatMap escapeLiteral ++ ['"']) :=
    String.toList_ofList
  refine ⟨text.toList.flatMap escapeLiteral, shape, (replaceInTurn_literalMarks _).symm, rfl, ?_,
    closingQuote?_escaped _, unescaped?_escaped _, fun _ same => stringLiteral_injective same⟩
  intro character isControl member
  have notQuote : character ≠ '"' := by
    rintro rfl
    exact absurd isControl (by decide)
  simp only [shape, List.mem_cons, List.mem_append, List.not_mem_nil, or_false, notQuote,
    false_or] at member
  exact not_mem_escaped isControl _ member

-- Backslashes before a quote and before the letter of an escape stay apart from both.
example : (stringLiteral "\\\"\\n").toList = "\"\\\\\\\"\\\\n\"".toList := by
  decide

end ExpertAdvisor.Code
