import ExpertAdvisor.Proofs.Indicator.CommentScan
import ExpertAdvisor.Proofs.Text.Replacement

namespace ExpertAdvisor.Indicator

open Text

/-!
# The pattern of a comment

A comment is described by a pattern that takes as few characters as possible
between its markers.  A scan for this pattern finds the comments that the scan of
a text from left to right skips, so blanking comments is replacing what the
pattern finds by line breaks.
-/

/-- The piece of a text that is skipped in a step. -/
def ScanStep.skipped? : ScanStep → Option Match
  | copy _ => none
  | skip start stop => some ⟨start, stop, []⟩

/-- An opening marker, as few characters as possible, and a closing marker. -/
def commentPattern : Pattern :=
  .sequence [.word commentMarker, .few fun _ => true, .word closingMarker]

section

variable {accept : Cursor → List Capture → α} {offset : Nat} {previous : Option Char}
  {captures : List Capture}

/-- As few characters as possible lead to the first closing marker. -/
theorem run_few_closed
    {inside rest : List Char}
    (unclosed : Unclosed (inside ++ ['*'])) :
    ∃ stop : Cursor, stop.offset = offset + (inside.length + 2) ∧
      (Pattern.few fun _ => true).run
          ((Pattern.word closingMarker).run fun stop kept => some (accept stop kept))
          ⟨offset, previous, inside ++ '*' :: '/' :: rest⟩ captures =
        some (accept stop captures) := by
  induction inside generalizing offset previous with
  | nil =>
      refine ⟨⟨offset + 1 + 1, some '/', rest⟩, rfl, ?_⟩
      have closes : closingMarker <+: '*' :: '/' :: rest := List.prefix_append ['*', '/'] rest
      rw [List.nil_append, Pattern.run_few_cons, Pattern.run_word_of_isPrefix closes]
      rfl
  | cons character more inductionHypothesis =>
      obtain ⟨stop, isStop, reads⟩ := @inductionHypothesis (offset + 1) (some character)
        (Unclosed.cons_iff.mp unclosed).2
      have notHere : ¬ closingMarker <+: character :: (more ++ '*' :: '/' :: rest) := by
        intro closes
        have isPrefix : character :: more ++ ['*'] <+: character :: (more ++ '*' :: '/' :: rest) :=
          ⟨'/' :: rest, by simp⟩
        refine unclosed (List.prefix_of_prefix_length_le closes isPrefix ?_).isInfix
        simp [closingMarker]
      refine ⟨stop, ?_, ?_⟩
      · rw [isStop, List.length_cons]
        omega
      · rw [List.cons_append, Pattern.run_few_cons, Pattern.run_word_of_not_isPrefix notHere]
        exact reads

/-- Where no comment is closed, no characters lead to a closing marker. -/
theorem run_few_unclosed
    {text : List Char}
    (unclosed : Unclosed text) :
    (Pattern.few fun _ => true).run
        ((Pattern.word closingMarker).run fun stop kept => some (accept stop kept))
        ⟨offset, previous, text⟩ captures = none := by
  have notHere : ¬ closingMarker <+: text := fun closes => unclosed closes.isInfix
  induction text generalizing offset previous with
  | nil => rw [Pattern.run_few_nil, Pattern.run_word_of_not_isPrefix notHere]
  | cons character rest inductionHypothesis =>
      have restUnclosed := (Unclosed.cons_iff.mp unclosed).2
      rw [Pattern.run_few_cons, Pattern.run_word_of_not_isPrefix notHere]
      exact inductionHypothesis restUnclosed fun closes => restUnclosed closes.isInfix

end

/-- Behind an opening marker the pattern is read up to a closing marker. -/
theorem match?_opened
    (offset : Nat)
    (previous : Option Char)
    (rest : List Char) :
    commentPattern.match? ⟨offset, previous, '/' :: '*' :: rest⟩ =
      (Pattern.few fun _ => true).run
        ((Pattern.word closingMarker).run fun stop kept => some ⟨offset, stop.offset, kept⟩)
        ⟨offset + 2, some '*', rest⟩ [] :=
  rfl

/-- The pattern finds at an offset exactly the comment that the scan skips there. -/
theorem match?_commentPattern
    (text : List Char)
    (offset : Nat)
    (previous : Option Char) :
    commentPattern.match? ⟨offset, previous, text.drop offset⟩ =
      (commentStop? text offset).map fun stop => ⟨offset, stop, []⟩ := by
  cases stops : commentStop? text offset with
  | some stop =>
      obtain ⟨inside, unclosed, rfl, shape⟩ := exists_inside_of_commentStop? stops
      rw [shape, match?_opened]
      obtain ⟨stop, isStop, reads⟩ := run_few_closed unclosed
      rw [reads, isStop, Option.map_some, Nat.add_assoc, Nat.add_comm 2]
  | none =>
      rcases plain_or_open_of_commentStop? stops with plain | ⟨opened, shape, unclosed⟩
      · exact Pattern.run_word_of_not_isPrefix plain
      · rw [shape, match?_opened]
        exact run_few_unclosed unclosed

/-- The pieces that the pattern finds are those that the scan skips. -/
theorem scanFrom_commentPattern
    (text : List Char)
    (offset : Nat)
    {taken : Nat}
    (previous : Option Char)
    (notTaken : taken ≤ offset) :
    commentPattern.scanFrom taken offset previous (text.drop offset) =
      (scanSteps text offset).filterMap ScanStep.skipped? := by
  fun_induction scanSteps text offset generalizing taken previous with
  | case1 offset inText stop stops inductionHypothesis =>
      have found := match?_commentPattern text offset previous
      obtain ⟨inside, unclosed, isStop, shape⟩ := exists_inside_of_commentStop? stops
      -- The rest of the comment behind its slash is passed over.
      have behindSlash : offset + 1 + ('*' :: (inside ++ closingMarker)).length = stop := by
        simp only [closingMarker, List.length_cons, List.length_append, List.length_nil]
        omega
      obtain ⟨last, goesOn⟩ := Pattern.scanFrom_taken commentPattern (offset + 1) (some '/')
        ('*' :: (inside ++ closingMarker)) (text.drop stop)
      rw [behindSlash, inductionHypothesis last (Nat.le_refl stop)] at goesOn
      rw [shape, append_closingMarker, stops] at found
      rw [shape, append_closingMarker, Pattern.scanFrom, if_neg (by omega), found]
      exact congrArg (List.cons _) goesOn
  | case2 offset inText nothing inductionHypothesis =>
      have found := match?_commentPattern text offset previous
      rw [nothing, Option.map_none, List.drop_eq_getElem_cons inText] at found
      rw [List.drop_eq_getElem_cons inText, Pattern.scanFrom, if_neg (by omega), found]
      exact inductionHypothesis _ (by omega)
  | case3 offset beyond =>
      rw [List.drop_of_length_le (Nat.le_of_not_lt beyond)]
      rfl

/-- Replacing the pieces that a scan skips by their line breaks is what the scan does. -/
theorem replacePieces_scanSteps
    (text : List Char)
    (offset : Nat) :
    replacePieces breaksOf text offset ((scanSteps text offset).filterMap ScanStep.skipped?) =
      (scanSteps text offset).flatMap (ScanStep.emitted text) := by
  fun_induction scanSteps text offset with
  | case1 offset inText stop stops inductionHypothesis =>
      have isSkipped : ScanStep.skipped? (.skip offset stop) = some ⟨offset, stop, []⟩ := rfl
      have nothingBetween : text.extract offset offset = [] := by
        rw [List.extract, Nat.sub_self, List.take_zero]
      rw [List.filterMap_cons_some isSkipped, replacePieces, nothingBetween, inductionHypothesis,
        List.flatMap_cons, ScanStep.emitted, List.nil_append]
  | case2 offset inText nothing inductionHypothesis =>
      have isCopied : ScanStep.skipped? (.copy offset) = none := rfl
      have behind : ∀ found ∈ (scanSteps text (offset + 1)).filterMap ScanStep.skipped?,
          offset < found.start := by
        intro found member
        obtain ⟨step, inSteps, skips⟩ := List.mem_filterMap.mp member
        cases step with
        | copy place => cases skips
        | skip start stop =>
            cases skips
            exact (of_skip_mem_scanSteps inSteps).1
      rw [List.filterMap_cons_none isCopied, replacePieces_copied inText behind,
        inductionHypothesis, List.flatMap_cons, ScanStep.emitted, List.getElem?_eq_getElem inText]
      rfl
  | case3 offset beyond => exact List.drop_of_length_le (Nat.le_of_not_lt beyond)

/-- Replacing what the pattern finds by its line breaks blanks the comments of a text. -/
theorem replace_commentPattern (text : List Char) :
    commentPattern.replace breaksOf text = blankComments text := by
  have found := scanFrom_commentPattern text 0 none (Nat.le_refl 0)
  rw [List.drop_zero] at found
  rw [Pattern.replace, Pattern.scan, found, replacePieces_scanSteps, flatMap_emitted_scanSteps,
    List.drop_zero]

/-- A comment does not close within its opening marker, nor does the last one here close at all. -/
example : commentPattern.scan "/*/ bars */ /*/".toList = [⟨0, 11, []⟩] := by decide

end ExpertAdvisor.Indicator
