import ExpertAdvisor.Proofs.Indicator.CommentPattern

namespace ExpertAdvisor.Indicator

open Text

/-!
# Aligned lines

The places of a text whose characters are left when comments are blanked are the
line breaks and the places outside of comments.  What is left is the text read at
these places, so its characters keep their order; as all line breaks are left,
they keep their lines too.  An opening marker that is left stays open, and all
text behind it is left with it.
-/

namespace ScanStep

/-- A place lies in the comment that is skipped in a step. -/
def Skips (place : Nat) : ScanStep → Prop
  | copy _ => False
  | skip start stop => start ≤ place ∧ place < stop

/-- Whether a step skips a place can be decided. -/
instance (place : Nat) : (step : ScanStep) → Decidable (step.Skips place)
  | copy _ => inferInstanceAs (Decidable False)
  | skip start stop => inferInstanceAs (Decidable (start ≤ place ∧ place < stop))

end ScanStep

/-- A place lies in a comment that a scan from an offset skips. -/
def SkippedFrom
    (text : List Char)
    (offset place : Nat) : Prop :=
  ∃ step ∈ scanSteps text offset, step.Skips place

/-- Whether a scan skips a place can be decided step by step. -/
instance (text : List Char) (offset place : Nat) : Decidable (SkippedFrom text offset place) :=
  inferInstanceAs (Decidable (∃ step ∈ scanSteps text offset, step.Skips place))

/-- A place lies in a comment that is opened and closed in a text. -/
def InComment
    (text : List Char)
    (place : Nat) : Prop :=
  SkippedFrom text 0 place

/-! A text read at some of its places. -/

/-- A text read at places one behind the other is a piece of it. -/
theorem map_getElem?_range'
    {text : List Char}
    {start count : Nat}
    (inText : start + count ≤ text.length) :
    (List.range' start count).map (text[·]?) =
      (text.extract start (start + count)).map some := by
  rw [List.extract, Nat.add_sub_cancel_left]
  induction count generalizing start with
  | zero => rfl
  | succ count inductionHypothesis =>
      have here : start < text.length := by omega
      rw [List.range'_succ, List.map_cons, inductionHypothesis (by omega),
        List.drop_eq_getElem_cons here, List.take_succ_cons, List.map_cons,
        List.getElem?_eq_getElem here]

/-- The line breaks of a piece are read at the places of the piece where one stands. -/
theorem map_some_breaksOf_extract
    {text : List Char}
    {start count : Nat}
    (inText : start + count ≤ text.length) :
    (breaksOf (text.extract start (start + count))).map some =
      ((List.range' start count).filter (text[·]? == some '\n')).map (text[·]?) := by
  have piece := congrArg (List.filter (· == some '\n')) (map_getElem?_range' inText)
  rw [List.filter_map, List.filter_map] at piece
  exact piece.symm

/-- The line of a place: how many line breaks stand in front of it. -/
def lineOf
    (text : List Char)
    (place : Nat) : Nat :=
  (text.take place).count '\n'

theorem count_map_some (text : List Char) :
    (text.map some).count (some '\n') = text.count '\n' := by
  rw [List.count_eq_countP, List.countP_map]
  rfl

/-- Where all line breaks are kept, those in front of a place are its line. -/
theorem count_break_kept
    {text : List Char}
    {kept : Nat → Bool}
    (keepsBreaks : ∀ place, text[place]? = some '\n' → kept place = true)
    {stop : Nat}
    (inText : stop ≤ text.length) :
    (((List.range stop).filter kept).map (text[·]?)).count (some '\n') = lineOf text stop := by
  have piece := @map_getElem?_range' text 0 stop (by omega)
  rw [← List.range_eq_range', List.extract, Nat.zero_add, Nat.sub_zero, List.drop_zero] at piece
  rw [lineOf, ← count_map_some, ← piece, List.count_eq_countP, List.count_eq_countP,
    List.countP_map, List.countP_map, List.countP_filter]
  refine List.countP_congr fun place _ => ?_
  simp only [Function.comp_apply, Bool.and_eq_true, beq_iff_eq]
  exact ⟨fun both => both.1, fun isBreak => ⟨isBreak, keepsBreaks place isBreak⟩⟩

/-- In front of a place that is kept stand the places kept below it. -/
theorem take_filter_range
    {kept : Nat → Bool}
    {size index place : Nat}
    (isPlace : ((List.range size).filter kept)[index]? = some place) :
    ((List.range size).filter kept).take index = (List.range place).filter kept := by
  induction size with
  | zero => simp at isPlace
  | succ size inductionHypothesis =>
      rw [List.range_succ, List.filter_append] at isPlace ⊢
      by_cases inFront : index < ((List.range size).filter kept).length
      · rw [List.getElem?_append_left inFront] at isPlace
        rw [List.take_append_of_le_length (Nat.le_of_lt inFront), inductionHypothesis isPlace]
      · rw [List.getElem?_append_right (Nat.le_of_not_lt inFront)] at isPlace
        obtain rfl := List.mem_singleton.mp (List.mem_filter.mp (List.mem_of_getElem? isPlace)).1
        have atMostOne : ([place].filter kept).length ≤ 1 := List.length_filter_le _ _
        have inLast := (List.getElem?_eq_some_iff.mp isPlace).1
        have isLast : index = ((List.range place).filter kept).length := by omega
        rw [isLast, List.take_left]

/-! The places that are skipped. -/

section

variable {text : List Char} {offset stop place : Nat}

/-- A place is skipped in the comment at the scan's offset, or behind it. -/
theorem skippedFrom_skip
    (inText : offset < text.length)
    (stops : commentStop? text offset = some stop) :
    SkippedFrom text offset place ↔
      (offset ≤ place ∧ place < stop) ∨ SkippedFrom text stop place := by
  simp only [SkippedFrom, scanSteps_skip inText stops, List.exists_mem_cons_iff, ScanStep.Skips]

theorem skippedFrom_copy
    (inText : offset < text.length)
    (nothing : commentStop? text offset = none) :
    SkippedFrom text offset place ↔ SkippedFrom text (offset + 1) place := by
  simp only [SkippedFrom, scanSteps_copy inText nothing, List.exists_mem_cons_iff, ScanStep.Skips,
    false_or]

/-- A scan skips nothing in front of the place from which it goes on. -/
theorem not_skippedFrom_of_lt (inFront : place < offset) : ¬ SkippedFrom text offset place := by
  rintro ⟨step, member, skips⟩
  cases step with
  | copy _ => exact skips
  | skip start stop =>
      have behind := (of_skip_mem_scanSteps member).1
      exact absurd skips.1 (by omega)

/-- Where a scan skips nothing no comment is opened and closed. -/
theorem commentStop?_of_not_skippedFrom
    (behind : offset ≤ place)
    (inText : place < text.length)
    (notSkipped : ¬ SkippedFrom text offset place) :
    commentStop? text place = none := by
  fun_induction scanSteps text offset with
  | case1 offset offsetInText stop stops inductionHypothesis =>
      rw [skippedFrom_skip offsetInText stops, not_or] at notSkipped
      exact inductionHypothesis (by omega) notSkipped.2
  | case2 offset offsetInText nothing inductionHypothesis =>
      rw [skippedFrom_copy offsetInText nothing] at notSkipped
      rcases Nat.eq_or_lt_of_le behind with rfl | further
      · exact nothing
      · exact inductionHypothesis further notSkipped
  | case3 offset beyond => omega

/-- A comment that stays open leaves nothing behind it to close another one. -/
theorem commentStop?_behind_open
    {further : Nat}
    (opens : commentMarker <+: text.drop place)
    (nothing : commentStop? text place = none)
    (behind : place ≤ further) :
    commentStop? text further = none := by
  rcases plain_or_open_of_commentStop? nothing with plain | ⟨opened, shape, unclosed⟩
  · exact absurd opens plain
  · refine Option.eq_none_iff_forall_ne_some.mpr fun stop stops => ?_
    obtain ⟨_, closing, _, furtherBehind, closes, _⟩ := exists_closing_of_commentStop? stops
    obtain ⟨distance, rfl⟩ := Nat.exists_eq_add_of_le (show place + 2 ≤ closing by omega)
    refine unclosed_iff_forall_drop.mp unclosed distance ?_
    rwa [← List.drop_drop, ← List.drop_drop, shape] at closes

/-- An opening marker outside of comments stays open, and no comment stands behind it. -/
theorem not_inComment_behind_open
    {further : Nat}
    (opens : commentMarker <+: text.drop place)
    (outside : ¬ InComment text place)
    (behind : place ≤ further) :
    ¬ InComment text further := by
  rintro ⟨step, member, skips⟩
  cases step with
  | copy _ => exact skips
  | skip start stop =>
      obtain ⟨afterStart, beforeStop⟩ := skips
      rcases Nat.lt_or_ge place start with inFront | notInFront
      · have fits := add_two_le_of_marker opens
        have inText : place < text.length := by omega
        have staysOpen := commentStop?_of_not_skippedFrom (Nat.zero_le place) inText outside
        have nothing := commentStop?_behind_open opens staysOpen (Nat.le_of_lt inFront)
        rw [(of_skip_mem_scanSteps member).2] at nothing
        cases nothing
      · exact outside ⟨_, member, notInFront, Nat.lt_of_le_of_lt behind beforeStop⟩

end

/-! The places that are left. -/

/-- The character at a place is left by a scan from an offset. -/
def LeftFrom
    (text : List Char)
    (offset place : Nat) : Prop :=
  text[place]? = some '\n' ∨ ¬ SkippedFrom text offset place

/-- Whether a scan leaves the character at a place can be decided. -/
instance (text : List Char) (offset place : Nat) : Decidable (LeftFrom text offset place) :=
  inferInstanceAs (Decidable (text[place]? = some '\n' ∨ ¬ SkippedFrom text offset place))

section

variable {text : List Char} {offset stop place : Nat}

/-- Of what is skipped, line breaks alone are left. -/
theorem leftFrom_iff_of_skipped (skipped : SkippedFrom text offset place) :
    LeftFrom text offset place ↔ text[place]? = some '\n' :=
  or_iff_left (not_not.mpr skipped)

theorem leftFrom_congr
    (same : SkippedFrom text offset place ↔ SkippedFrom text stop place) :
    LeftFrom text offset place ↔ LeftFrom text stop place :=
  or_congr_right (not_congr same)

/-- In a comment the places of the line breaks are left, and behind it those of the further scan. -/
theorem filter_leftFrom_skip
    {count : Nat}
    (inText : offset < text.length)
    (stops : commentStop? text offset = some (offset + count)) :
    (List.range' offset (text.length - offset)).filter (LeftFrom text offset) =
      (List.range' offset count).filter (text[·]? == some '\n') ++
        (List.range' (offset + count) (text.length - (offset + count))).filter
          (LeftFrom text (offset + count)) := by
  have inside := le_length_of_commentStop? stops
  have size : text.length - offset = count + (text.length - (offset + count)) := by omega
  rw [size, ← List.range'_append_1, List.filter_append]
  congr 1
  · refine List.filter_congr fun place member => ?_
    have skipped := (skippedFrom_skip inText stops).mpr (.inl (List.mem_range'_1.mp member))
    rw [Bool.eq_iff_iff, decide_eq_true_iff, beq_iff_eq]
    exact leftFrom_iff_of_skipped skipped
  · refine List.filter_congr fun place member => decide_eq_decide.mpr (leftFrom_congr ?_)
    have behind := (List.mem_range'_1.mp member).1
    exact (skippedFrom_skip inText stops).trans (or_iff_right (by omega))

/-- Where nothing is skipped the place is left, and behind it those of the further scan. -/
theorem filter_leftFrom_copy
    (inText : offset < text.length)
    (nothing : commentStop? text offset = none) :
    (List.range' offset (text.length - offset)).filter (LeftFrom text offset) =
      offset :: (List.range' (offset + 1) (text.length - (offset + 1))).filter
        (LeftFrom text (offset + 1)) := by
  have size : text.length - offset = text.length - (offset + 1) + 1 := by omega
  have isLeft : LeftFrom text offset offset := by
    refine .inr fun skipped => ?_
    have skippedBehind := (skippedFrom_copy inText nothing).mp skipped
    exact not_skippedFrom_of_lt (Nat.lt_succ_self offset) skippedBehind
  rw [size, List.range'_succ, List.filter_cons, if_pos (decide_eq_true isLeft)]
  refine congrArg (List.cons offset) (List.filter_congr fun place _ => ?_)
  exact decide_eq_decide.mpr (leftFrom_congr (skippedFrom_copy inText nothing))

end

/-- What a scan emits is read at the places that it leaves. -/
theorem map_some_flatMap_emitted
    (text : List Char)
    (offset : Nat) :
    ((scanSteps text offset).flatMap (ScanStep.emitted text)).map some =
      ((List.range' offset (text.length - offset)).filter (LeftFrom text offset)).map
        (text[·]?) := by
  fun_induction scanSteps text offset with
  | case1 offset inText stop stops inductionHypothesis =>
      have inside := le_length_of_commentStop? stops
      obtain ⟨count, rfl⟩ := Nat.exists_eq_add_of_le (Nat.le_of_lt (lt_of_commentStop? stops))
      rw [List.flatMap_cons, List.map_append, inductionHypothesis, ScanStep.emitted,
        map_some_breaksOf_extract inside, filter_leftFrom_skip inText stops, List.map_append]
  | case2 offset inText nothing inductionHypothesis =>
      rw [List.flatMap_cons, List.map_append, inductionHypothesis, ScanStep.emitted,
        filter_leftFrom_copy inText nothing, List.map_cons, List.getElem?_eq_getElem inText]
      rfl
  | case3 offset beyond =>
      rw [Nat.sub_eq_zero_of_le (Nat.le_of_not_lt beyond)]
      rfl

/-- The places of a text whose characters are left when comments are blanked. -/
def survivors (text : List Char) : List Nat :=
  (List.range text.length).filter (LeftFrom text 0)

/--
What is left of a text is the text read at some places, in order and each on its
line: at all line breaks, and everywhere else outside of comments.
-/
structure KeepsLines
    (text left : List Char)
    (places : List Nat) : Prop where
  ordered : places.Pairwise (· < ·)
  mem_iff :
    ∀ place, place ∈ places ↔
      place < text.length ∧ (text[place]? = some '\n' ∨ ¬ InComment text place)
  characters : left.map some = places.map (text[·]?)
  lines :
    ∀ index place, places[index]? = some place → lineOf left index = lineOf text place

/-- What is left of a text are the characters of its survivors, in order. -/
theorem map_some_blankComments (text : List Char) :
    (blankComments text).map some = (survivors text).map (text[·]?) := by
  have read := map_some_flatMap_emitted text 0
  rw [flatMap_emitted_scanSteps, List.drop_zero, Nat.sub_zero, ← List.range_eq_range'] at read
  exact read

/-- Blanking comments keeps all line breaks. -/
theorem count_break_blankComments (text : List Char) :
    (blankComments text).count '\n' = text.count '\n' := by
  rw [← count_map_some, map_some_blankComments, survivors, count_break_kept]
  · rw [lineOf, List.take_length]
  · exact fun place isBreak => decide_eq_true (.inl isBreak)
  · exact Nat.le_refl _

/-- Blanking comments keeps the characters outside of them in order and on their lines. -/
theorem keepsLines_blankComments (text : List Char) :
    KeepsLines text (blankComments text) (survivors text) where
  ordered := List.pairwise_lt_range.filter _
  mem_iff place := by
    rw [survivors, List.mem_filter, List.mem_range, decide_eq_true_iff]
    rfl
  characters := map_some_blankComments text
  lines index place isPlace := by
    have inText := List.mem_range.mp (List.mem_filter.mp (List.mem_of_getElem? isPlace)).1
    rw [lineOf, ← count_map_some, List.map_take, map_some_blankComments, ← List.map_take,
      survivors, take_filter_range isPlace, count_break_kept]
    · exact fun place isBreak => decide_eq_true (.inl isBreak)
    · exact Nat.le_of_lt inText

/--
Blanking comments replaces what the pattern of a comment finds by its line
breaks.  It is one scan from left to right, which skips every comment that is
opened and closed and copies everything else; behind an opening marker that it
copies it skips nothing.  All line breaks are left, and exactly the characters
outside of comments are left with them, in order and each on its line.
-/
theorem blankCommentText_scans (source : String) :
    (blankCommentText source).toList = commentPattern.replace breaksOf source.toList ∧
    (blankCommentText source).toList =
      (scanSteps source.toList 0).flatMap (ScanStep.emitted source.toList) ∧
    (∀ place, commentMarker <+: source.toList.drop place → ¬ InComment source.toList place →
      ∀ further, place ≤ further → ¬ InComment source.toList further) ∧
    (blankCommentText source).toList.count '\n' = source.toList.count '\n' ∧
    ∃ places, KeepsLines source.toList (blankCommentText source).toList places := by
  have blanked : (blankCommentText source).toList = blankComments source.toList :=
    String.toList_ofList
  rw [blanked]
  refine ⟨(replace_commentPattern _).symm, ?_, ?_, count_break_blankComments _, _,
    keepsLines_blankComments _⟩
  · rw [flatMap_emitted_scanSteps, List.drop_zero]
  · exact fun place opens outside further => not_inComment_behind_open opens outside

end ExpertAdvisor.Indicator
