import ExpertAdvisor.Proofs.Indicator.BlankedComments

namespace ExpertAdvisor.Indicator

/-!
# The scan for comments

Blanking comments amounts to one scan of a text from left to right.  Where a
comment is opened and closed, the scan skips to behind the first closing marker
and emits the line breaks that it skips; every other character is copied.
-/

/--
The offset behind the comment that opens at an offset.  Its closing marker is
the first one that begins two characters later or further behind.
-/
def commentStop?
    (text : List Char)
    (offset : Nat) : Option Nat :=
  if commentMarker <+: text.drop offset then
    ((List.range' (offset + 2) (text.length - (offset + 2))).find? fun place =>
      closingMarker <+: text.drop place).map (· + 2)
  else
    none

section

variable {text rest : List Char} {first second : Char} {place : Nat}

/-- A marker that stands at a place ends in the text. -/
theorem add_two_le_of_marker (stands : [first, second] <+: text.drop place) :
    place + 2 ≤ text.length := by
  have fits := stands.length_le
  simp only [List.length_cons, List.length_nil, List.length_drop] at fits
  omega

theorem eq_drop_behind_marker (stands : [first, second] ++ rest = text.drop place) :
    rest = text.drop (place + 2) := by
  rw [← List.drop_drop, ← stands]
  rfl

end

/-- The end of a comment is that of its first closing marker. -/
theorem exists_closing_of_commentStop?
    {text : List Char}
    {offset stop : Nat}
    (stops : commentStop? text offset = some stop) :
    commentMarker <+: text.drop offset ∧
      ∃ closing, stop = closing + 2 ∧ offset + 2 ≤ closing ∧ closingMarker <+: text.drop closing ∧
        ∀ place, offset + 2 ≤ place → place < closing → ¬ closingMarker <+: text.drop place := by
  rw [commentStop?] at stops
  split at stops
  case isTrue opens =>
    obtain ⟨closing, first, rfl⟩ := Option.map_eq_some_iff.mp stops
    obtain ⟨closes, inRange, earlier⟩ := List.find?_range'_eq_some.mp first
    refine ⟨opens, closing, rfl, (List.mem_range'_1.mp inRange).1, of_decide_eq_true closes, ?_⟩
    intro place behind inFront
    simpa using earlier place behind inFront
  case isFalse => cases stops

/-- A comment stops behind its start. -/
theorem lt_of_commentStop?
    {text : List Char}
    {offset stop : Nat}
    (stops : commentStop? text offset = some stop) :
    offset < stop := by
  obtain ⟨_, closing, rfl, behind, _⟩ := exists_closing_of_commentStop? stops
  omega

theorem le_length_of_commentStop?
    {text : List Char}
    {offset stop : Nat}
    (stops : commentStop? text offset = some stop) :
    stop ≤ text.length := by
  obtain ⟨_, closing, rfl, _, closes, _⟩ := exists_closing_of_commentStop? stops
  exact add_two_le_of_marker closes

/-- What a scan does at an offset. -/
inductive ScanStep where
  | copy (offset : Nat)
  | skip (start stop : Nat)
  deriving Repr, DecidableEq

/-- The steps of a scan from an offset to the end of a text. -/
def scanSteps
    (text : List Char)
    (offset : Nat) : List ScanStep :=
  if offset < text.length then
    match _stops : commentStop? text offset with
    | some stop => .skip offset stop :: scanSteps text stop
    | none => .copy offset :: scanSteps text (offset + 1)
  else
    []
termination_by text.length - offset
decreasing_by
  · have further := lt_of_commentStop? _stops
    omega
  · omega

section

variable {text : List Char} {offset stop : Nat}

/-- A scan skips the comment at its offset. -/
theorem scanSteps_skip
    (inText : offset < text.length)
    (stops : commentStop? text offset = some stop) :
    scanSteps text offset = .skip offset stop :: scanSteps text stop := by
  rw [scanSteps, if_pos inText]
  split <;> simp_all

theorem scanSteps_copy
    (inText : offset < text.length)
    (nothing : commentStop? text offset = none) :
    scanSteps text offset = .copy offset :: scanSteps text (offset + 1) := by
  rw [scanSteps, if_pos inText]
  split <;> simp_all

end

namespace ScanStep

/-- Copied characters are emitted, and of a comment only the line breaks. -/
def emitted (text : List Char) : ScanStep → List Char
  | copy offset => text[offset]?.toList
  | skip start stop => breaksOf (text.extract start stop)

end ScanStep

/-! Comments at an offset. -/

/-- No comment is closed in a text exactly when a closing marker stands at none of its offsets. -/
theorem unclosed_iff_forall_drop {text : List Char} :
    Unclosed text ↔ ∀ place, ¬ closingMarker <+: text.drop place := by
  constructor
  · intro unclosed place closes
    exact unclosed (closes.isInfix.trans (List.drop_suffix _ _).isInfix)
  · rintro nowhere ⟨before, after, rfl⟩
    refine nowhere before.length ⟨after, ?_⟩
    rw [List.append_assoc, List.drop_left]

/-- In front of the first closing marker nothing closes a comment, nor does its own asterisk. -/
theorem unclosed_of_first_closing
    {inside rest : List Char}
    (first : ∀ place < inside.length,
      ¬ closingMarker <+: (inside ++ '*' :: '/' :: rest).drop place) :
    Unclosed (inside ++ ['*']) := by
  refine unclosed_iff_forall_drop.mpr fun place closes => ?_
  have fits := add_two_le_of_marker closes
  rw [List.length_append, List.length_singleton] at fits
  have whole : (inside ++ '*' :: '/' :: rest).drop place =
      (inside ++ ['*']).drop place ++ '/' :: rest := by
    rw [← List.drop_append_of_le_length (by simp; omega)]
    simp
  refine first place (by omega) ?_
  rw [whole]
  exact closes.trans (List.prefix_append _ _)

theorem append_closingMarker (inside rest : List Char) :
    inside ++ '*' :: '/' :: rest = inside ++ closingMarker ++ rest := by
  rw [List.append_assoc]
  rfl

/-- A text is cut around a closing marker that stands in it. -/
theorem exists_in_front_of_closing
    {text : List Char}
    {place : Nat}
    (closes : closingMarker <+: text.drop place) :
    ∃ inside, inside.length = place ∧ text = inside ++ '*' :: '/' :: text.drop (place + 2) := by
  have fits := add_two_le_of_marker closes
  obtain ⟨rest, shape⟩ := closes
  have restEq : rest = text.drop (place + 2) := eq_drop_behind_marker shape
  refine ⟨text.take place, List.length_take_of_le (by omega), ?_⟩
  calc text
      = text.take place ++ text.drop place := (List.take_append_drop place text).symm
    _ = text.take place ++ '*' :: '/' :: text.drop (place + 2) := by
        rw [← shape, restEq]
        rfl

/-- A comment that is skipped is a closed one, and stands where it is skipped. -/
theorem exists_inside_of_commentStop?
    {text : List Char}
    {offset stop : Nat}
    (stops : commentStop? text offset = some stop) :
    ∃ inside, Unclosed (inside ++ ['*']) ∧ stop = offset + (inside.length + 4) ∧
      text.drop offset = '/' :: '*' :: (inside ++ '*' :: '/' :: text.drop stop) := by
  obtain ⟨⟨opened, openShape⟩, closing, rfl, behind, closes, first⟩ :=
    exists_closing_of_commentStop? stops
  obtain ⟨distance, rfl⟩ := Nat.exists_eq_add_of_le behind
  obtain rfl : opened = text.drop (offset + 2) := eq_drop_behind_marker openShape
  rw [← List.drop_drop] at closes
  obtain ⟨inside, sized, openedShape⟩ := exists_in_front_of_closing closes
  rw [List.drop_drop] at openedShape
  refine ⟨inside, @unclosed_of_first_closing _ (text.drop (offset + 2 + (distance + 2))) ?_, ?_, ?_⟩
  · intro place inFront
    rw [← openedShape, List.drop_drop]
    exact first _ (by omega) (by omega)
  · omega
  · rw [← openShape]
    exact congrArg (fun rest => '/' :: '*' :: rest) openedShape

/-- Where nothing is skipped, no comment is opened or it stays open. -/
theorem plain_or_open_of_commentStop?
    {text : List Char}
    {offset : Nat}
    (nothing : commentStop? text offset = none) :
    ¬ commentMarker <+: text.drop offset ∨ IsOpenComment (text.drop offset) := by
  by_cases opens : commentMarker <+: text.drop offset
  · rw [commentStop?, if_pos opens, Option.map_eq_none_iff, List.find?_range'_eq_none] at nothing
    obtain ⟨opened, shape⟩ := opens
    have openedEq : opened = text.drop (offset + 2) := eq_drop_behind_marker shape
    refine .inr ⟨opened, shape.symm, unclosed_iff_forall_drop.mpr fun place closes => ?_⟩
    rw [openedEq, List.drop_drop] at closes
    have fits := add_two_le_of_marker closes
    have notClosed := nothing (offset + 2 + place) (by omega) (by omega)
    simp [closes] at notClosed
  · exact .inl opens

/-! What the scan skips. -/

/-- The comments that a scan skips open behind the place from which it goes on. -/
theorem of_skip_mem_scanSteps
    {text : List Char}
    {offset start stop : Nat}
    (member : ScanStep.skip start stop ∈ scanSteps text offset) :
    offset ≤ start ∧ commentStop? text start = some stop := by
  fun_induction scanSteps text offset with
  | case1 offset inText behind stops inductionHypothesis =>
      rcases List.mem_cons.mp member with isFirst | later
      · cases isFirst
        exact ⟨Nat.le_refl _, stops⟩
      · have further := lt_of_commentStop? stops
        obtain ⟨isLater, startStops⟩ := inductionHypothesis later
        exact ⟨by omega, startStops⟩
  | case2 offset inText nothing inductionHypothesis =>
      have later := (List.mem_cons.mp member).resolve_left (by simp)
      obtain ⟨isLater, startStops⟩ := inductionHypothesis later
      exact ⟨by omega, startStops⟩
  | case3 offset beyond => cases member

/-! What the scan emits. -/

/-- Where nothing is skipped, a character is copied when comments are blanked. -/
theorem blankComments_copied
    {text : List Char}
    {offset : Nat}
    (inText : offset < text.length)
    (nothing : commentStop? text offset = none) :
    blankComments (text.drop offset) = text[offset] :: blankComments (text.drop (offset + 1)) := by
  have shape := List.drop_eq_getElem_cons inText
  rcases plain_or_open_of_commentStop? nothing with plain | isOpen
  · rw [shape] at plain ⊢
    refine blankComments_plain fun opens => plain ?_
    obtain ⟨rest, restShape⟩ := List.head?_eq_some_iff.mp opens.2
    rw [opens.1, restShape]
    exact List.prefix_append _ rest
  · rw [isOpen.blankComments_eq]
    obtain ⟨opened, openShape, unclosed⟩ := isOpen
    rw [shape] at openShape ⊢
    obtain ⟨_, rest⟩ := List.cons.inj openShape
    rw [rest, blankComments_plain (by simp), blankComments_of_unclosed unclosed]

/-- Of a comment that is skipped the line breaks inside are emitted. -/
theorem breaksOf_extract
    {text inside rest : List Char}
    {offset : Nat}
    (shape : text.drop offset = '/' :: '*' :: (inside ++ '*' :: '/' :: rest)) :
    breaksOf (text.extract offset (offset + (inside.length + 4))) = breaksOf inside := by
  have whole : text.drop offset = '/' :: '*' :: (inside ++ closingMarker) ++ rest := by
    rw [shape, append_closingMarker]
    rfl
  have sized : ('/' :: '*' :: (inside ++ closingMarker)).length = inside.length + 4 := by
    simp [closingMarker]
  rw [List.extract, Nat.add_sub_cancel_left, whole, List.take_left' sized]
  simp [breaksOf, closingMarker]

/-- The scan emits the text without its comments. -/
theorem flatMap_emitted_scanSteps
    (text : List Char)
    (offset : Nat) :
    (scanSteps text offset).flatMap (ScanStep.emitted text) = blankComments (text.drop offset) := by
  fun_induction scanSteps text offset with
  | case1 offset inText stop stops inductionHypothesis =>
      obtain ⟨inside, unclosed, rfl, shape⟩ := exists_inside_of_commentStop? stops
      rw [List.flatMap_cons, inductionHypothesis, shape, blankComments_comment unclosed,
        ScanStep.emitted, breaksOf_extract shape]
  | case2 offset inText nothing inductionHypothesis =>
      rw [List.flatMap_cons, inductionHypothesis, blankComments_copied inText nothing]
      simp [ScanStep.emitted, inText]
  | case3 offset beyond =>
      rw [List.drop_of_length_le (Nat.le_of_not_lt beyond)]
      exact BlanksTo.nil.blankComments_eq.symm

end ExpertAdvisor.Indicator
