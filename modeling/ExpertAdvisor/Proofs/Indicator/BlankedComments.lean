import ExpertAdvisor.Proofs.Indicator.Uncommented

namespace ExpertAdvisor.Indicator

/-!
# Blanked comments

A text falls into a part in which every comment is closed and, where there is
more, a comment that is opened and never closed.  Blanking comments keeps the
line breaks of the closed ones and leaves the open one as it is, so a closed part
is blanked by itself, whatever stands behind it.
-/

/-- The marker that closes a comment. -/
def closingMarker : List Char := ['*', '/']

/-- No comment is closed in a text. -/
def Unclosed (text : List Char) : Prop :=
  ¬ closingMarker <:+: text

/-- Whether a text closes no comment can be decided. -/
instance (text : List Char) : Decidable (Unclosed text) :=
  inferInstanceAs (Decidable (¬ closingMarker <:+: text))

/-- The line breaks of a text. -/
def breaksOf (text : List Char) : List Char :=
  text.filter (· == '\n')

theorem breaksOf_eq_nil
    {text : List Char}
    (oneLine : '\n' ∉ text) :
    breaksOf text = [] := by
  refine List.filter_eq_nil_iff.mpr fun character member isBreak => ?_
  rw [beq_iff_eq.mp isBreak] at member
  exact oneLine member

/-- Every comment that a text opens is closed in it, and blanking them yields the other text. -/
inductive BlanksTo : List Char → List Char → Prop where
  | nil : BlanksTo [] []
  | plain
      {character : Char}
      {rest result : List Char} :
      ¬ (character = '/' ∧ rest.head? = some '*') →
      BlanksTo rest result →
      BlanksTo (character :: rest) (character :: result)
  | comment
      {inside rest result : List Char} :
      Unclosed (inside ++ ['*']) →
      BlanksTo rest result →
      BlanksTo ('/' :: '*' :: (inside ++ '*' :: '/' :: rest)) (breaksOf inside ++ result)

namespace Unclosed

variable {character : Char} {text rest : List Char}

theorem of_not_mem (noSlash : '/' ∉ text) : Unclosed text :=
  fun closes => noSlash (closes.subset (by decide))

/-- A text closes no comment when its first two characters do not, nor the rest. -/
theorem cons_iff :
    Unclosed (character :: text) ↔
      ¬ (character = '*' ∧ text.head? = some '/') ∧ Unclosed text := by
  rw [Unclosed, closingMarker, pair_isInfix_cons_iff, not_or]
  rfl

/-- An asterisk closes no comment by itself. -/
theorem append_asterisk (unclosed : Unclosed text) : Unclosed (text ++ ['*']) := by
  induction text with
  | nil => decide
  | cons character more inductionHypothesis =>
      obtain ⟨notClosed, moreUnclosed⟩ := cons_iff.mp unclosed
      refine cons_iff.mpr ⟨?_, inductionHypothesis moreUnclosed⟩
      cases more with
      | nil => simp
      | cons following others => exact notClosed

/-- Behind its opening marker a comment without a closing marker is passed to its end in vain. -/
theorem passComment?_eq_none
    (unclosed : Unclosed text)
    (kept : List Char) :
    passComment? kept text = none := by
  fun_induction passComment? kept text with
  | case1 => rfl
  | case2 kept after => exact absurd (List.prefix_append ['*', '/'] after).isInfix unclosed
  | case3 kept character following _ inductionHypothesis =>
      exact inductionHypothesis (cons_iff.mp unclosed).2

/-- A comment is passed up to its first closing marker. -/
theorem passComment?_closed
    {inside : List Char}
    (unclosed : Unclosed (inside ++ ['*']))
    (kept rest : List Char) :
    passComment? kept (inside ++ '*' :: '/' :: rest) =
      some ((breaksOf inside).reverse ++ kept, rest) := by
  induction inside generalizing kept with
  | nil => simp [passComment?, breaksOf]
  | cons character more inductionHypothesis =>
      obtain ⟨notClosed, moreUnclosed⟩ := cons_iff.mp unclosed
      have passed := inductionHypothesis moreUnclosed
      have goesOn : passComment? kept (character :: (more ++ '*' :: '/' :: rest)) =
          passComment? (if character == '\n' then character :: kept else kept)
            (more ++ '*' :: '/' :: rest) := by
        rw [passComment?]
        rintro after rfl closes
        refine notClosed ⟨rfl, ?_⟩
        cases more with
        | nil => simp at closes
        | cons following others => simp_all
      rw [List.cons_append, goesOn, passed]
      by_cases isBreak : character = '\n' <;> simp [breaksOf, isBreak]

end Unclosed

/-- A text that closes a comment has a first place where it does. -/
theorem exists_first_closing
    {text : List Char}
    (closes : closingMarker <:+: text) :
    ∃ inside rest, text = inside ++ '*' :: '/' :: rest ∧ Unclosed (inside ++ ['*']) := by
  induction text with
  | nil => exact absurd closes (by decide)
  | cons character more inductionHypothesis =>
      by_cases here : character = '*' ∧ more.head? = some '/'
      · obtain ⟨rest, rfl⟩ := List.head?_eq_some_iff.mp here.2
        exact ⟨[], rest, by rw [here.1, List.nil_append], by decide⟩
      · have closesLater := (pair_isInfix_cons_iff.mp closes).resolve_left here
        obtain ⟨inside, rest, rfl, unclosed⟩ := inductionHypothesis closesLater
        refine ⟨character :: inside, rest, rfl, Unclosed.cons_iff.mpr ⟨?_, unclosed⟩⟩
        rintro ⟨isAsterisk, headed⟩
        refine here ⟨isAsterisk, ?_⟩
        cases inside <;> simp_all

/-! Blanking a closed part. -/

theorem blankCommentsFrom_plain
    {character : Char}
    {rest : List Char}
    (plain : ¬ (character = '/' ∧ rest.head? = some '*'))
    (kept : List Char) :
    blankCommentsFrom kept (character :: rest) = blankCommentsFrom (character :: kept) rest := by
  rw [blankCommentsFrom]
  rintro after rfl opens
  exact plain ⟨rfl, by rw [opens, List.head?_cons]⟩

/-- Of a comment, its line breaks are kept. -/
theorem blankCommentsFrom_comment
    {inside : List Char}
    (unclosed : Unclosed (inside ++ ['*']))
    (kept rest : List Char) :
    blankCommentsFrom kept ('/' :: '*' :: (inside ++ '*' :: '/' :: rest)) =
      blankCommentsFrom ((breaksOf inside).reverse ++ kept) rest := by
  have passed := Unclosed.passComment?_closed unclosed kept rest
  rw [blankCommentsFrom]
  split
  case h_1 newKept following found =>
    rw [passed, Option.some.injEq, Prod.mk.injEq] at found
    rw [← found.1, ← found.2]
  case h_2 nothing =>
    rw [passed] at nothing
    cases nothing

/-- A comment that is never closed is kept as it is. -/
theorem blankCommentsFrom_unclosed
    {text : List Char}
    (unclosed : Unclosed text)
    (kept : List Char) :
    blankCommentsFrom kept ('/' :: '*' :: text) = kept.reverse ++ '/' :: '*' :: text := by
  rw [blankCommentsFrom]
  split
  case h_1 _ _ found =>
    rw [unclosed.passComment?_eq_none kept] at found
    cases found
  case h_2 => rfl

namespace BlanksTo

variable {closed result : List Char}

/-- A closed part is blanked before the reader comes to what stands behind it. -/
theorem blankCommentsFrom_append
    (blanks : BlanksTo closed result)
    {rest : List Char}
    (noAsterisk : rest.head? ≠ some '*')
    (kept : List Char) :
    blankCommentsFrom kept (closed ++ rest) = blankCommentsFrom (result.reverse ++ kept) rest := by
  induction blanks generalizing kept with
  | nil => rfl
  | @plain character more result plain _ inductionHypothesis =>
      have stillPlain : ¬ (character = '/' ∧ (more ++ rest).head? = some '*') := by
        rintro ⟨isSlash, headed⟩
        cases more with
        | nil => exact noAsterisk headed
        | cons following others => exact plain ⟨isSlash, headed⟩
      rw [List.cons_append, blankCommentsFrom_plain stillPlain, inductionHypothesis,
        List.reverse_cons, List.append_assoc, List.singleton_append]
  | @comment inside more result unclosed _ inductionHypothesis =>
      rw [List.cons_append, List.cons_append, List.append_assoc, List.cons_append,
        List.cons_append, blankCommentsFrom_comment unclosed, inductionHypothesis,
        List.reverse_append, List.append_assoc]

end BlanksTo

/-- A comment that is opened and never closed. -/
def IsOpenComment (text : List Char) : Prop :=
  ∃ opened, text = '/' :: '*' :: opened ∧ Unclosed opened

/-- Every text falls into a closed part and, if that is not all, a comment that stays open. -/
theorem exists_closed_part (source : List Char) :
    ∃ closed result rest, source = closed ++ rest ∧ BlanksTo closed result ∧
      (rest = [] ∨ IsOpenComment rest) := by
  induction sized : source.length using Nat.strong_induction_on generalizing source with
  | h size inductionHypothesis =>
      subst sized
      match source with
      | [] => exact ⟨[], [], [], rfl, .nil, .inl rfl⟩
      | character :: more =>
          by_cases opens : character = '/' ∧ more.head? = some '*'
          · obtain ⟨rfl, headed⟩ := opens
            obtain ⟨text, rfl⟩ := List.head?_eq_some_iff.mp headed
            by_cases closes : closingMarker <:+: text
            · obtain ⟨inside, following, rfl, unclosed⟩ := exists_first_closing closes
              obtain ⟨closed, result, rest, rfl, blanks, ending⟩ :=
                inductionHypothesis following.length (by simp; omega) following rfl
              refine ⟨_, _, rest, ?_, .comment unclosed blanks, ending⟩
              simp
            · exact ⟨[], [], _, rfl, .nil, .inr ⟨text, rfl, closes⟩⟩
          · obtain ⟨closed, result, rest, rfl, blanks, ending⟩ :=
              inductionHypothesis more.length (by simp) more rfl
            refine ⟨character :: closed, character :: result, rest, rfl, .plain ?_ blanks, ending⟩
            rintro ⟨isSlash, headed⟩
            refine opens ⟨isSlash, ?_⟩
            cases closed with
            | nil => simp at headed
            | cons first others => exact headed

/-- An end that holds no comment is kept. -/
theorem blankCommentsFrom_ending
    {rest : List Char}
    (ending : rest = [] ∨ IsOpenComment rest)
    (kept : List Char) :
    blankCommentsFrom kept rest = kept.reverse ++ rest := by
  rcases ending with rfl | ⟨opened, rfl, unclosed⟩
  · rw [blankCommentsFrom, List.append_nil]
  · exact blankCommentsFrom_unclosed unclosed kept

/-- No such end begins with an asterisk. -/
theorem head?_ne_of_ending
    {rest : List Char}
    (ending : rest = [] ∨ IsOpenComment rest) :
    rest.head? ≠ some '*' := by
  rcases ending with rfl | ⟨opened, rfl, _⟩
  · exact nofun
  · exact fun headed => absurd (Option.some.inj headed) (by decide)

/-- The characters kept so far stand in front of the rest, blanked by itself. -/
theorem blankCommentsFrom_eq
    (kept source : List Char) :
    blankCommentsFrom kept source = kept.reverse ++ blankComments source := by
  obtain ⟨closed, result, rest, rfl, blanks, ending⟩ := exists_closed_part source
  have noAsterisk := head?_ne_of_ending ending
  rw [blankComments, blanks.blankCommentsFrom_append noAsterisk,
    blanks.blankCommentsFrom_append noAsterisk, blankCommentsFrom_ending ending,
    blankCommentsFrom_ending ending]
  simp

/-- A character that opens no comment is left as it is. -/
theorem blankComments_plain
    {character : Char}
    {rest : List Char}
    (plain : ¬ (character = '/' ∧ rest.head? = some '*')) :
    blankComments (character :: rest) = character :: blankComments rest := by
  rw [blankComments, blankCommentsFrom_plain plain, blankCommentsFrom_eq]
  rfl

/-- Blanking goes on line by line. -/
theorem blankComments_break (rest : List Char) :
    blankComments ('\n' :: rest) = '\n' :: blankComments rest :=
  blankComments_plain (by simp)

/-- Of a comment only the line breaks are left. -/
theorem blankComments_comment
    {inside : List Char}
    (unclosed : Unclosed (inside ++ ['*']))
    (rest : List Char) :
    blankComments ('/' :: '*' :: (inside ++ '*' :: '/' :: rest)) =
      breaksOf inside ++ blankComments rest := by
  rw [blankComments, blankCommentsFrom_comment unclosed, blankCommentsFrom_eq, List.append_nil,
    List.reverse_reverse]

/-- A comment that is never closed is not blanked. -/
theorem IsOpenComment.blankComments_eq
    {text : List Char}
    (isOpen : IsOpenComment text) :
    blankComments text = text :=
  blankCommentsFrom_ending (.inr isOpen) []

namespace BlanksTo

variable {closed result : List Char}

/-- A closed part is blanked by itself. -/
theorem blankComments_append
    (blanks : BlanksTo closed result)
    {rest : List Char}
    (noAsterisk : rest.head? ≠ some '*') :
    blankComments (closed ++ rest) = result ++ blankComments rest := by
  rw [blankComments, blanks.blankCommentsFrom_append noAsterisk, blankCommentsFrom_eq,
    List.append_nil, List.reverse_reverse]

/-- What a text is blanked to is what blanking makes of it. -/
theorem blankComments_eq (blanks : BlanksTo closed result) : blankComments closed = result := by
  have alone := blanks.blankComments_append (show ([] : List Char).head? ≠ some '*' from nofun)
  rw [List.append_nil] at alone
  rw [alone, blankComments, blankCommentsFrom, List.reverse_nil, List.append_nil]

/-- A text that opens no comment is blanked to itself. -/
theorem of_uncommented (uncommented : Uncommented closed) : BlanksTo closed closed := by
  induction closed with
  | nil => exact .nil
  | cons character rest inductionHypothesis =>
      obtain ⟨plain, restUncommented⟩ := Uncommented.cons_iff.mp uncommented
      exact .plain plain (inductionHypothesis restUncommented)

/-- What is left of a closed part stood in it. -/
theorem subset (blanks : BlanksTo closed result) : result ⊆ closed := by
  induction blanks with
  | nil => exact List.Subset.refl _
  | plain _ _ inductionHypothesis => exact List.cons_subset_cons _ inductionHypothesis
  | comment _ _ inductionHypothesis =>
      intro character member
      rw [breaksOf, List.mem_append, List.mem_filter] at member
      rcases member with ⟨inside, _⟩ | inRest
      · simp [inside]
      · simp [inductionHypothesis inRest]

/-- A part in which nothing is closed has no comments, and is left as it is. -/
theorem eq_of_unclosed
    (blanks : BlanksTo closed result)
    (unclosed : Unclosed closed) :
    result = closed := by
  induction blanks with
  | nil => rfl
  | plain _ _ inductionHypothesis =>
      rw [inductionHypothesis (Unclosed.cons_iff.mp unclosed).2]
  | @comment inside rest _ _ _ _ =>
      refine absurd ?_ unclosed
      exact ⟨'/' :: '*' :: inside, rest, by simp [closingMarker]⟩

end BlanksTo

/-- Text that closes no comment is left as it is. -/
theorem blankComments_of_unclosed
    {text : List Char}
    (unclosed : Unclosed text) :
    blankComments text = text := by
  obtain ⟨closed, result, rest, rfl, blanks, ending⟩ := exists_closed_part text
  have closedUnclosed : Unclosed closed := fun closes =>
    unclosed (closes.trans (List.prefix_append _ _).isInfix)
  have restUnchanged : blankComments rest = rest := blankCommentsFrom_ending ending []
  rw [blanks.blankComments_append (head?_ne_of_ending ending),
    blanks.eq_of_unclosed closedUnclosed, restUnchanged]

/-! Texts put together. -/

/-- Texts that close their comments do so together unless they meet in an opening marker. -/
theorem BlanksTo.append
    {first firstResult second secondResult : List Char}
    (firstBlanks : BlanksTo first firstResult)
    (secondBlanks : BlanksTo second secondResult)
    (apart : ¬ (firstResult.getLast? = some '/' ∧ second.head? = some '*')) :
    BlanksTo (first ++ second) (firstResult ++ secondResult) := by
  induction firstBlanks with
  | nil => exact secondBlanks
  | @plain character rest result plain restBlanks inductionHypothesis =>
      have restApart : ¬ (result.getLast? = some '/' ∧ second.head? = some '*') := by
        intro meets
        apply apart
        cases result with
        | nil => exact absurd meets.1 nofun
        | cons _ _ => exact meets
      refine .plain ?_ (inductionHypothesis restApart)
      intro opens
      cases restBlanks with
      | nil => exact apart ⟨congrArg some opens.1, opens.2⟩
      | plain => exact plain opens
      | comment => exact plain opens
  | @comment inside rest result unclosed _ inductionHypothesis =>
      have restApart : ¬ (result.getLast? = some '/' ∧ second.head? = some '*') := by
        intro meets
        apply apart
        rw [List.getLast?_append, meets.1]
        exact ⟨rfl, meets.2⟩
      have joined := BlanksTo.comment unclosed (inductionHypothesis restApart)
      simpa using joined

/-- A text that closes its comments is blanked by itself, unless an opening marker arises. -/
theorem BlanksTo.blankComments_joined
    {first result second : List Char}
    (blanks : BlanksTo first result)
    (noSlash : result.getLast? ≠ some '/') :
    blankComments (first ++ second) = result ++ blankComments second := by
  obtain ⟨closed, closedResult, rest, rfl, closedBlanks, ending⟩ := exists_closed_part second
  have noAsterisk := head?_ne_of_ending ending
  have joined := blanks.append closedBlanks fun meets => noSlash meets.1
  rw [← List.append_assoc, joined.blankComments_append noAsterisk,
    closedBlanks.blankComments_append noAsterisk, List.append_assoc]

/-! A line and the text behind it. -/

/-- Every comment that a text opens is closed in it. -/
def ClosesComments (text : List Char) : Prop :=
  ∃ result, BlanksTo text result

/-- A text that opens no comment closes all of its comments. -/
theorem ClosesComments.of_uncommented
    {text : List Char}
    (uncommented : Uncommented text) :
    ClosesComments text :=
  ⟨text, .of_uncommented uncommented⟩

namespace Unclosed

variable {first second : List Char}

/-- A line break between texts closes no comment. -/
theorem append_break
    (firstUnclosed : Unclosed first)
    (secondUnclosed : Unclosed second) :
    Unclosed (first ++ '\n' :: second) := by
  induction first with
  | nil => exact cons_iff.mpr ⟨by simp, secondUnclosed⟩
  | cons character rest inductionHypothesis =>
      obtain ⟨notClosed, restUnclosed⟩ := cons_iff.mp firstUnclosed
      refine cons_iff.mpr ⟨?_, inductionHypothesis restUnclosed⟩
      cases rest with
      | nil => simp
      | cons following others => exact notClosed

end Unclosed

/-- A line that is blanked by itself is blanked before every rest. -/
theorem BlanksTo.blankComments_line
    {line result : List Char}
    (blanks : BlanksTo line result)
    (rest : List Char) :
    blankComments (line ++ '\n' :: rest) = blankComments line ++ '\n' :: blankComments rest := by
  rw [blanks.blankComments_append (by simp), blanks.blankComments_eq, blankComments_break]

/--
A line is blanked apart from the text behind it, unless a comment is opened in
the line, not closed in it, and closed behind it.
-/
theorem blankComments_line
    {line rest : List Char}
    (apart : ClosesComments line ∨ Unclosed rest) :
    blankComments (line ++ '\n' :: rest) = blankComments line ++ '\n' :: blankComments rest := by
  rcases apart with ⟨_, blanks⟩ | unclosed
  · exact blanks.blankComments_line rest
  · obtain ⟨closed, result, ending, rfl, blanks, nothing | isOpen⟩ := exists_closed_part line
    · subst nothing
      rw [List.append_nil]
      exact blanks.blankComments_line rest
    · obtain ⟨opened, rfl, openedUnclosed⟩ := isOpen
      have staysOpen : IsOpenComment ('/' :: '*' :: opened ++ '\n' :: rest) :=
        ⟨_, rfl, openedUnclosed.append_break unclosed⟩
      have isOpen : IsOpenComment ('/' :: '*' :: opened) := ⟨opened, rfl, openedUnclosed⟩
      rw [List.append_assoc, blanks.blankComments_append (by simp),
        blanks.blankComments_append (by simp), staysOpen.blankComments_eq,
        isOpen.blankComments_eq, blankComments_of_unclosed unclosed, List.append_assoc]

/-- Of a line that a comment leaves open, what is closed behind it takes all text with it. -/
theorem exists_blankComments_swallowed
    {line : List Char}
    (opens : ¬ ClosesComments line)
    (oneLine : '\n' ∉ line) :
    ∃ result, result ⊆ line ∧
      ∀ inside, '\n' ∉ inside → Unclosed (inside ++ ['*']) →
        blankComments (line ++ '\n' :: (inside ++ closingMarker)) = result ++ ['\n'] := by
  obtain ⟨closed, result, ending, rfl, blanks, nothing | isOpen⟩ := exists_closed_part line
  · subst nothing
    rw [List.append_nil] at opens
    exact absurd ⟨result, blanks⟩ opens
  · obtain ⟨opened, rfl, openedUnclosed⟩ := isOpen
    refine ⟨result, fun _ member => List.mem_append_left _ (blanks.subset member),
      fun inside insideOneLine unclosed => ?_⟩
    have whole : Unclosed ((opened ++ '\n' :: inside) ++ ['*']) := by
      rw [List.append_assoc, List.cons_append]
      exact openedUnclosed.append_break unclosed
    have breaks : breaksOf (opened ++ '\n' :: inside) = ['\n'] := by
      have openedOneLine : '\n' ∉ opened := fun member => oneLine (by simp [member])
      have append : breaksOf (opened ++ '\n' :: inside) =
          breaksOf opened ++ '\n' :: breaksOf inside :=
        List.filter_append opened ('\n' :: inside)
      rw [append, breaksOf_eq_nil openedOneLine, breaksOf_eq_nil insideOneLine, List.nil_append]
    have swallowed := (BlanksTo.comment whole .nil).blankComments_eq
    rw [breaks, List.append_nil] at swallowed
    have shape : '/' :: '*' :: opened ++ '\n' :: (inside ++ closingMarker) =
        '/' :: '*' :: ((opened ++ '\n' :: inside) ++ '*' :: '/' :: []) := by
      simp [closingMarker]
    rw [List.append_assoc, blanks.blankComments_append (by simp), shape, swallowed]

end ExpertAdvisor.Indicator
