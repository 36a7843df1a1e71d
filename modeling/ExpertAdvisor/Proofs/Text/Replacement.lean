import ExpertAdvisor.Text.Pattern
import Mathlib.Data.List.Infix

namespace ExpertAdvisor.Text

/-!
# Replacing what a pattern finds

The pieces that a scan finds can be replaced, each by a text that depends on the
piece; what stands between the pieces is copied.  A scan passes over a piece that
it has found, and a pattern that takes as few characters as it can tries the
nearest place first.
-/

/-- A text begins with another one when that is a prefix of it. -/
theorem beginsWith_eq_true_iff
    {start text : List Char} :
    beginsWith start text = true ↔ start <+: text := by
  simp only [beginsWith, Option.isSome_iff_exists, afterPrefix?_eq_some_iff]
  exact exists_congr fun _ => eq_comm

/-- The places within a run stand in front of those found before it. -/
theorem Cursor.alongFrom_eq_append
    (belongs : Char → Bool)
    (found : List Cursor)
    (offset : Nat)
    (previous : Option Char)
    (rest : List Char) :
    alongFrom belongs found offset previous rest =
      alongFrom belongs [] offset previous rest ++ found := by
  induction rest generalizing found offset previous with
  | nil => rfl
  | cons character rest inductionHypothesis =>
      let here : Cursor := ⟨offset, previous, character :: rest⟩
      by_cases goesOn : belongs character = true
      · simp only [alongFrom, if_pos goesOn]
        rw [inductionHypothesis (here :: found), inductionHypothesis [here], List.append_assoc,
          List.singleton_append]
      · simp only [alongFrom, if_neg goesOn, List.singleton_append]

namespace Pattern

variable {belongs : Char → Bool} {goOn : Cursor → List Capture → Option α}
  {offset : Nat} {previous : Option Char} {captures : List Capture}

/-- A word that stands at the cursor is passed. -/
theorem run_word_of_isPrefix
    {characters : List Char}
    {cursor : Cursor}
    (isPrefix : characters <+: cursor.rest) :
    (word characters).run goOn cursor captures = goOn (cursor.after characters) captures :=
  if_pos (beginsWith_eq_true_iff.mpr isPrefix)

theorem run_word_of_not_isPrefix
    {characters : List Char}
    {cursor : Cursor}
    (notPrefix : ¬ characters <+: cursor.rest) :
    (word characters).run goOn cursor captures = none :=
  if_neg fun begins => notPrefix (beginsWith_eq_true_iff.mp begins)

/-- At the end of a text no characters can be taken. -/
theorem run_few_nil :
    (few belongs).run goOn ⟨offset, previous, []⟩ captures =
      goOn ⟨offset, previous, []⟩ captures := by
  simp [run, Cursor.along, Cursor.alongFrom]

/-- One more character is taken only if what follows cannot be read without it. -/
theorem run_few_cons
    {character : Char}
    {rest : List Char} :
    (few belongs).run goOn ⟨offset, previous, character :: rest⟩ captures =
      (goOn ⟨offset, previous, character :: rest⟩ captures).or
        (if belongs character then
          (few belongs).run goOn ⟨offset + 1, some character, rest⟩ captures
        else none) := by
  by_cases goesOn : belongs character = true
  · simp only [run, Cursor.along, Cursor.alongFrom, if_pos goesOn]
    rw [Cursor.alongFrom_eq_append, List.reverse_append, List.reverse_singleton,
      List.singleton_append, List.findSome?_cons]
    cases goOn ⟨offset, previous, character :: rest⟩ captures <;> rfl
  · simp [run, Cursor.along, Cursor.alongFrom, goesOn]

/-- A scan goes on behind the text that is taken. -/
theorem scanFrom_taken
    (pattern : Pattern)
    (offset : Nat)
    (previous : Option Char)
    (taken rest : List Char) :
    ∃ last, pattern.scanFrom (offset + taken.length) offset previous (taken ++ rest) =
      pattern.scanFrom (offset + taken.length) (offset + taken.length) last rest := by
  induction taken generalizing offset previous with
  | nil => exact ⟨previous, rfl⟩
  | cons character more inductionHypothesis =>
      obtain ⟨last, goesOn⟩ := inductionHypothesis (offset + 1) (some character)
      have sameEnd : offset + 1 + more.length = offset + (character :: more).length := by
        rw [List.length_cons]
        omega
      have isTaken : offset < offset + (character :: more).length := by simp
      refine ⟨last, ?_⟩
      rw [List.cons_append, scanFrom, if_pos isTaken, ← sameEnd, goesOn]

end Pattern

/-- A text from an offset on, with other text in place of pieces of it. -/
def replacePieces
    (replacement : List Char → List Char)
    (text : List Char)
    (offset : Nat) : List Match → List Char
  | [] => text.drop offset
  | found :: more =>
      text.extract offset found.start ++
        (replacement (text.extract found.start found.stop) ++
          replacePieces replacement text found.stop more)

/-- A text with other text in place of the pieces that a pattern finds in it. -/
def Pattern.replace
    (pattern : Pattern)
    (replacement : List Char → List Char)
    (text : List Char) : List Char :=
  replacePieces replacement text 0 (pattern.scan text)

/-- A character in front of the pieces is copied. -/
theorem replacePieces_copied
    {replacement : List Char → List Char}
    {text : List Char}
    {offset : Nat}
    {pieces : List Match}
    (inText : offset < text.length)
    (behind : ∀ found ∈ pieces, offset < found.start) :
    replacePieces replacement text offset pieces =
      text[offset] :: replacePieces replacement text (offset + 1) pieces := by
  cases pieces with
  | nil => exact List.drop_eq_getElem_cons inText
  | cons found more =>
      obtain ⟨distance, isStart⟩ := Nat.exists_eq_add_of_lt (behind found List.mem_cons_self)
      have further : found.start - offset = distance + 1 := by omega
      have nearer : found.start - (offset + 1) = distance := by omega
      simp only [replacePieces, List.extract, further, nearer]
      rw [List.drop_eq_getElem_cons inText, List.take_succ_cons, List.cons_append]

end ExpertAdvisor.Text
