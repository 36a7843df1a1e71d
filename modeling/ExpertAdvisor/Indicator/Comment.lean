namespace ExpertAdvisor.Indicator

/-!
# Blanking block comments

A block comment is removed from source text, and its line feeds stay, so that
every remaining character keeps its line.  A comment ends at the first closing
marker after its opening marker; an opening marker that is never closed is
ordinary text.
-/

/--
Passes over a comment's text, adding its line feeds to the characters kept in
reverse, and returns these with the text after the closing marker.
-/
def passComment?
    (kept : List Char) :
    List Char → Option (List Char × List Char)
  | [] => none
  | '*' :: '/' :: rest => some (kept, rest)
  | character :: rest =>
      passComment? (if character == '\n' then character :: kept else kept) rest

/-- What follows a comment is shorter than the comment's text with it. -/
theorem length_lt_of_passComment?
    {kept text newKept rest : List Char}
    (passed : passComment? kept text = some (newKept, rest)) :
    rest.length < text.length := by
  fun_induction passComment? kept text with
  | case1 =>
      simp at passed
  | case2 kept after =>
      simp only [Option.some.injEq, Prod.mk.injEq] at passed
      simp only [List.length_cons, passed.2]
      omega
  | case3 kept character following _ inductionHypothesis =>
      have shorter := inductionHypothesis passed
      simp only [List.length_cons]
      omega

/-- Blanks comments in the rest of a text, with the characters already kept in reverse. -/
def blankCommentsFrom
    (kept : List Char)
    (source : List Char) : List Char :=
  match source with
  | '/' :: '*' :: rest =>
      match _passed : passComment? kept rest with
      | some (newKept, following) => blankCommentsFrom newKept following
      | none => kept.reverse ++ '/' :: '*' :: rest
  | character :: rest => blankCommentsFrom (character :: kept) rest
  | [] => kept.reverse
termination_by source.length
decreasing_by
  · have shorter := length_lt_of_passComment? _passed
    simp only [List.length_cons]
    omega
  · simp

/-- The source text without its block comments. -/
def blankComments (source : List Char) : List Char :=
  blankCommentsFrom [] source

/-- The source text without its block comments, as a string. -/
def blankCommentText (source : String) : String :=
  String.ofList (blankComments source.toList)

end ExpertAdvisor.Indicator
