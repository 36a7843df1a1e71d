import ExpertAdvisor.Proofs.Indicator.BlankedComments
import ExpertAdvisor.Proofs.Text.Classes

namespace ExpertAdvisor.Indicator

open Text

/-!
# Kept stretches

What is left on one line when comments are blanked stood in one stretch of the
source, from the first of its characters to the last.  Blanking that stretch by
itself leaves the same, so it was written as it is left exactly when no comment
stands in it.
-/

/-- A comment is opened in a text and closed in it. -/
def HoldsComment (text : List Char) : Prop :=
  ∃ before inside after, text = before ++ '/' :: '*' :: (inside ++ '*' :: '/' :: after)

namespace HoldsComment

variable {text wider : List Char}

theorem not_nil : ¬ HoldsComment [] := by
  rintro ⟨before, _, _, shape⟩
  exact absurd shape (by simp)

theorem not_of_uncommented (uncommented : Uncommented text) : ¬ HoldsComment text := by
  rintro ⟨before, inside, after, rfl⟩
  exact uncommented ⟨before, inside ++ '*' :: '/' :: after, by simp [commentMarker]⟩

theorem of_infix
    (holds : HoldsComment text)
    (isInfix : text <:+: wider) :
    HoldsComment wider := by
  obtain ⟨before, inside, after, rfl⟩ := holds
  obtain ⟨first, last, rfl⟩ := isInfix
  exact ⟨first ++ before, inside, after ++ last, by simp⟩

/-- Behind a character that opens none, a comment is held by the rest. -/
theorem of_cons
    {character : Char}
    (holds : HoldsComment (character :: text))
    (plain : ¬ (character = '/' ∧ text.head? = some '*')) :
    HoldsComment text := by
  obtain ⟨before, inside, after, shape⟩ := holds
  cases before with
  | nil =>
      obtain ⟨rfl, rfl⟩ := List.cons.inj shape
      exact absurd ⟨rfl, rfl⟩ plain
  | cons first more =>
      obtain ⟨_, rfl⟩ := List.cons.inj shape
      exact ⟨more, inside, after, rfl⟩

/-- A comment does not begin in a part in which none is opened. -/
theorem of_append
    {first : List Char}
    (holds : HoldsComment (first ++ text))
    (uncommented : Uncommented first)
    (noAsterisk : text.head? ≠ some '*') :
    HoldsComment text := by
  induction first with
  | nil => exact holds
  | cons character rest inductionHypothesis =>
      obtain ⟨plain, restUncommented⟩ := Uncommented.cons_iff.mp uncommented
      refine inductionHypothesis (holds.of_cons ?_) restUncommented
      rintro ⟨isSlash, headed⟩
      cases rest with
      | nil => exact noAsterisk headed
      | cons following others => exact plain ⟨isSlash, headed⟩

/-- Behind the opening of a comment that stays open nothing is closed. -/
theorem not_of_isOpen (isOpen : IsOpenComment text) : ¬ HoldsComment text := by
  obtain ⟨opened, rfl, unclosed⟩ := isOpen
  rintro ⟨before, inside, after, shape⟩
  refine unclosed ?_
  match before with
  | [] =>
      obtain rfl : opened = inside ++ '*' :: '/' :: after := by simpa using shape
      exact ⟨inside, after, by simp [closingMarker]⟩
  | [slash] => simp at shape
  | slash :: asterisk :: more =>
      obtain ⟨_, _, rfl⟩ : _ ∧ _ ∧
          opened = more ++ '/' :: '*' :: (inside ++ '*' :: '/' :: after) := by
        simpa using shape
      exact ⟨more ++ '/' :: '*' :: inside, after, by simp [closingMarker]⟩

end HoldsComment

namespace BlanksTo

variable {closed result : List Char}

/-- Blanking never lengthens a text. -/
theorem length_le (blanks : BlanksTo closed result) : result.length ≤ closed.length := by
  induction blanks with
  | nil => exact Nat.le_refl _
  | plain _ _ inductionHypothesis => exact Nat.succ_le_succ inductionHypothesis
  | @comment inside rest result _ _ inductionHypothesis =>
      have breaks : (breaksOf inside).length ≤ inside.length := List.length_filter_le _ _
      simp only [List.length_append, List.length_cons]
      omega

/-- A closed part that is left as it is has no comment, since every comment loses its markers. -/
theorem uncommented_of_same (blanks : BlanksTo closed closed) : Uncommented closed := by
  have ofLength
      {closed result : List Char}
      (blanks : BlanksTo closed result)
      (long : closed.length ≤ result.length) :
      Uncommented closed := by
    induction blanks with
    | nil => decide
    | plain plain _ inductionHypothesis =>
        exact Uncommented.cons_iff.mpr ⟨plain, inductionHypothesis (Nat.le_of_succ_le_succ long)⟩
    | @comment inside rest result _ restBlanks _ =>
        have breaks : (breaksOf inside).length ≤ inside.length := List.length_filter_le _ _
        have shorter := restBlanks.length_le
        simp only [List.length_append, List.length_cons] at long
        omega
  exact ofLength blanks (Nat.le_refl _)

/-- A text that holds no comment is blanked to itself. -/
theorem eq_of_not_holdsComment
    (blanks : BlanksTo closed result)
    (noComment : ¬ HoldsComment closed) :
    result = closed := by
  induction blanks with
  | nil => rfl
  | @plain character rest result _ _ inductionHypothesis =>
      rw [inductionHypothesis fun holds =>
        noComment (holds.of_infix (List.suffix_cons character rest).isInfix)]
  | @comment inside rest result _ _ _ => exact absurd ⟨[], inside, rest, rfl⟩ noComment

end BlanksTo

/-- Blanking leaves a text as it is exactly when no comment stands in it. -/
theorem blankComments_eq_self_iff {text : List Char} :
    blankComments text = text ↔ ¬ HoldsComment text := by
  obtain ⟨closed, result, rest, rfl, blanks, ending⟩ := exists_closed_part text
  have noAsterisk := head?_ne_of_ending ending
  have restUnchanged : blankComments rest = rest := blankCommentsFrom_ending ending []
  rw [blanks.blankComments_append noAsterisk, restUnchanged, List.append_left_inj]
  constructor
  · rintro rfl holds
    have inRest := holds.of_append blanks.uncommented_of_same noAsterisk
    rcases ending with rfl | isOpen
    · exact HoldsComment.not_nil inRest
    · exact HoldsComment.not_of_isOpen isOpen inRest
  · intro noComment
    exact blanks.eq_of_not_holdsComment fun holds =>
      noComment (holds.of_infix (List.prefix_append _ _).isInfix)

/-- A comment between two texts without comments is blanked to its line breaks. -/
theorem blankComments_around
    {first inside last : List Char}
    (firstUncommented : Uncommented first)
    (unclosed : Unclosed (inside ++ ['*']))
    (lastUncommented : Uncommented last) :
    blankComments (first ++ '/' :: '*' :: (inside ++ '*' :: '/' :: last)) =
      first ++ (breaksOf inside ++ last) := by
  have comment := BlanksTo.comment unclosed (.of_uncommented lastUncommented)
  rw [(BlanksTo.of_uncommented firstUncommented).blankComments_append (by simp),
    comment.blankComments_eq]

/-! Cutting a source where a character is kept. -/

/-- A closed part can be cut around any character that is kept, line breaks apart. -/
theorem BlanksTo.exists_cut
    {closed first second : List Char}
    {character : Char}
    (blanks : BlanksTo closed (first ++ character :: second))
    (notBreak : character ≠ '\n') :
    ∃ before after, closed = before ++ character :: after ∧
      BlanksTo before first ∧ BlanksTo (before ++ [character]) (first ++ [character]) ∧
      BlanksTo (character :: after) (character :: second) ∧ BlanksTo after second := by
  generalize shape : first ++ character :: second = result at blanks
  induction blanks generalizing first with
  | nil => exact absurd shape (by simp)
  | @plain own rest result plain restBlanks inductionHypothesis =>
      cases first with
      | nil =>
          obtain ⟨rfl, rfl⟩ := List.cons.inj shape
          exact ⟨[], rest, rfl, .nil, .plain (by simp) .nil, .plain plain restBlanks, restBlanks⟩
      | cons keptFirst more =>
          obtain ⟨rfl, restShape⟩ := List.cons.inj shape
          obtain ⟨before, after, rfl, blanksBefore, blanksThrough, blanksFrom, blanksAfter⟩ :=
            inductionHypothesis restShape
          refine ⟨keptFirst :: before, after, rfl, .plain ?_ blanksBefore, .plain ?_ blanksThrough,
            blanksFrom, blanksAfter⟩
          · rintro ⟨isSlash, headed⟩
            obtain ⟨others, rfl⟩ := List.head?_eq_some_iff.mp headed
            exact plain ⟨isSlash, rfl⟩
          · rintro ⟨isSlash, headed⟩
            refine plain ⟨isSlash, ?_⟩
            cases before with
            | nil => exact headed
            | cons _ _ => exact headed
  | @comment inside rest result unclosed _ inductionHypothesis =>
      have notKept : character ∉ breaksOf inside := fun member =>
        notBreak (beq_iff_eq.mp (List.mem_filter.mp member).2)
      obtain ⟨past, rfl, restShape⟩ := occurs_behind shape.symm notKept
      obtain ⟨before, after, rfl, blanksBefore, blanksThrough, blanksFrom, blanksAfter⟩ :=
        inductionHypothesis restShape.symm
      have through := BlanksTo.comment unclosed blanksThrough
      refine ⟨'/' :: '*' :: (inside ++ '*' :: '/' :: before), after, by simp,
        .comment unclosed blanksBefore, ?_, blanksFrom, blanksAfter⟩
      simpa using through

/-- A source can be cut around any character that is kept, line breaks apart. -/
theorem exists_cut
    {source first second : List Char}
    {character : Char}
    (blanked : blankComments source = first ++ character :: second)
    (notBreak : character ≠ '\n') :
    ∃ before after, source = before ++ character :: after ∧
      blankComments before = first ∧ blankComments (before ++ [character]) = first ++ [character] ∧
      blankComments (character :: after) = character :: second ∧ blankComments after = second := by
  obtain ⟨closed, result, rest, rfl, blanks, ending⟩ := exists_closed_part source
  have noAsterisk := head?_ne_of_ending ending
  have keepsPart {part : List Char} (isInfix : part <:+: rest) : blankComments part = part := by
    refine blankComments_eq_self_iff.mpr fun holds => ?_
    rcases ending with rfl | isOpen
    · exact HoldsComment.not_nil (holds.of_infix isInfix)
    · exact HoldsComment.not_of_isOpen isOpen (holds.of_infix isInfix)
  rw [blanks.blankComments_append noAsterisk, keepsPart (List.infix_refl rest)] at blanked
  rcases occurs_in_part blanked with ⟨kept, rfl, rfl⟩ | ⟨past, rfl, rfl⟩
  · obtain ⟨before, after, rfl, blanksBefore, blanksThrough, blanksFrom, blanksAfter⟩ :=
      blanks.exists_cut notBreak
    refine ⟨before, after ++ rest, by simp, blanksBefore.blankComments_eq,
      blanksThrough.blankComments_eq, ?_, ?_⟩
    · rw [← List.cons_append, blanksFrom.blankComments_append noAsterisk,
        keepsPart (List.infix_refl rest), List.cons_append]
    · rw [blanksAfter.blankComments_append noAsterisk, keepsPart (List.infix_refl rest)]
  · -- Behind the opening of a comment that stays open every part is left as it is.
    have pastNoAsterisk : past.head? ≠ some '*' := by
      cases past with
      | nil => exact nofun
      | cons _ _ => exact noAsterisk
    have throughNoAsterisk : (past ++ [character]).head? ≠ some '*' := by
      cases past with
      | nil => exact noAsterisk
      | cons _ _ => exact noAsterisk
    refine ⟨closed ++ past, second, by simp, ?_, ?_, keepsPart (List.suffix_append _ _).isInfix, ?_⟩
    · rw [blanks.blankComments_append pastNoAsterisk,
        keepsPart (List.prefix_append _ _).isInfix]
    · rw [List.append_assoc, blanks.blankComments_append throughNoAsterisk,
        keepsPart ⟨[], second, by simp⟩, List.append_assoc]
    · exact keepsPart ⟨past ++ [character], [], by simp⟩

/-!
The piece of a source that a kept text stood in.  Its first and its last
character are kept themselves, so that it does not reach into a comment beside it.
-/

/-- The piece of a source that is left as a text, between what is left as two other texts. -/
structure Stretch (source first kept last : List Char) where
  before : List Char
  written : List Char
  after : List Char
  source_eq : source = before ++ (written ++ after)
  before_left : blankComments before = first
  written_left : blankComments written = kept
  after_left : blankComments after = last
  starts : written.head? = kept.head? ∧ blankComments written.tail = kept.tail
  ends :
    written.getLast? = kept.getLast? ∧
      blankComments (before ++ written.dropLast) = first ++ kept.dropLast

namespace Stretch

variable {source first kept last : List Char}

/-- A stretch was written in the source as it is. -/
theorem isInfix (stretch : Stretch source first kept last) : stretch.written <:+: source :=
  ⟨stretch.before, stretch.after, (List.append_assoc _ _ _).trans stretch.source_eq.symm⟩

/-- A kept text was written as it is left exactly when no comment stood in it. -/
theorem written_eq_iff (stretch : Stretch source first kept last) :
    stretch.written = kept ↔ ¬ HoldsComment stretch.written := by
  rw [← blankComments_eq_self_iff, stretch.written_left, eq_comm]

end Stretch

/-- What ends with a character ends with it in its last part already. -/
theorem ending_of_pieces
    {whole before part : List Char}
    {final : Char}
    (pieces : whole ++ [final] = before ++ part)
    (notNil : part ≠ []) :
    part.getLast? = some final ∧ before ++ part.dropLast = whole := by
  have lastOfWhole := congrArg List.getLast? pieces
  have restOfWhole := congrArg List.dropLast pieces
  rw [List.getLast?_concat, List.getLast?_append_of_ne_nil _ notNil] at lastOfWhole
  rw [List.dropLast_concat, List.dropLast_append_of_ne_nil notNil] at restOfWhole
  exact ⟨lastOfWhole.symm, restOfWhole.symm⟩

section Nonempty

variable {source first last : List Char}

/-- Where nothing is left between two texts, nothing of the source need be taken. -/
theorem nonempty_stretch_nil
    {following : Char}
    (blanked : blankComments source = first ++ following :: last)
    (notBreak : following ≠ '\n') :
    Nonempty (Stretch source first [] (following :: last)) := by
  have nothing : blankComments [] = [] := BlanksTo.nil.blankComments_eq
  obtain ⟨before, after, rfl, beforeLeft, _, fromLeft, _⟩ := exists_cut blanked notBreak
  exact ⟨{
    before := before
    written := []
    after := following :: after
    source_eq := rfl
    before_left := beforeLeft
    written_left := nothing
    after_left := fromLeft
    starts := ⟨rfl, nothing⟩
    ends := ⟨rfl, by simpa using beforeLeft⟩ }⟩

/-- The source is cut around the last character, and the part up to it around the first one. -/
theorem nonempty_stretch_concat
    {initial : List Char}
    {final : Char}
    (blanked : blankComments source = first ++ (initial ++ [final] ++ last))
    (oneLine : '\n' ∉ initial ++ [final]) :
    Nonempty (Stretch source first (initial ++ [final]) last) := by
  obtain ⟨start, more, keptShape⟩ : ∃ start more, initial ++ [final] = start :: more :=
    List.exists_cons_of_ne_nil (by simp)
  have startNotBreak : start ≠ '\n' := fun isBreak => oneLine (by simp [keptShape, isBreak])
  have finalNotBreak : final ≠ '\n' := fun isBreak => oneLine (by simp [isBreak])
  have blankedToFinal : blankComments source = (first ++ initial) ++ final :: last := by
    rw [blanked]
    simp
  obtain ⟨toFinal, after, rfl, toFinalLeft, throughLeft, _, afterLeft⟩ :=
    exists_cut blankedToFinal finalNotBreak
  rw [List.append_assoc, keptShape] at throughLeft
  obtain ⟨before, rest, pieces, beforeLeft, _, fromLeft, restLeft⟩ :=
    exists_cut throughLeft startNotBreak
  obtain ⟨lastOfPieces, initialOfPieces⟩ := ending_of_pieces pieces (List.cons_ne_nil start rest)
  have wholeSource : toFinal ++ final :: after = before ++ (start :: rest ++ after) := by
    rw [← List.append_assoc, ← pieces, List.append_assoc, List.singleton_append]
  exact ⟨{
    before := before
    written := start :: rest
    after := after
    source_eq := wholeSource
    before_left := beforeLeft
    written_left := fromLeft.trans keptShape.symm
    after_left := afterLeft
    starts := by rw [keptShape]; exact ⟨rfl, restLeft⟩
    ends := by
      rw [initialOfPieces, List.dropLast_concat, List.getLast?_concat]
      exact ⟨lastOfPieces, toFinalLeft⟩ }⟩

/-- Every text that is left on one line, and is followed on it, was one piece of the source. -/
theorem nonempty_stretch
    {kept : List Char}
    (blanked : blankComments source = first ++ (kept ++ last))
    (oneLine : '\n' ∉ kept)
    (followed : ∃ following ∈ last.head?, following ≠ '\n') :
    Nonempty (Stretch source first kept last) := by
  rcases List.eq_nil_or_concat kept with rfl | ⟨initial, final, rfl⟩
  · obtain ⟨following, headed, notBreak⟩ := followed
    obtain ⟨behind, rfl⟩ := List.head?_eq_some_iff.mp headed
    exact nonempty_stretch_nil blanked notBreak
  · rw [List.concat_eq_append] at blanked oneLine ⊢
    exact nonempty_stretch_concat blanked oneLine

end Nonempty

end ExpertAdvisor.Indicator
