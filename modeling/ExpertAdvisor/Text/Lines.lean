namespace ExpertAdvisor.Text

/-!
# Lines and runs

Generated text is a sequence of lines joined by single line feeds.  The
remaining operations cut, pad and search character sequences.
-/

/-- Joins lines by single line feeds. -/
def joinLines (lines : List String) : String :=
  "\n".intercalate lines

/-- A text as often as is counted, without anything between. -/
def repeatText
    (count : Nat)
    (text : String) : String :=
  String.join (List.replicate count text)

/-- A text followed by spaces up to a width; a longer text stays as it is. -/
def padEnd
    (width : Nat)
    (text : String) : String :=
  text ++ String.ofList (List.replicate (width - text.length) ' ')

/-- What follows a leading sequence, when the characters begin with it. -/
def afterPrefix? :
    List Char → List Char → Option (List Char)
  | [], characters => some characters
  | _ :: _, [] => none
  | expected :: more, character :: rest =>
      if character == expected then afterPrefix? more rest else none

/-- Whether characters begin with others. -/
def beginsWith
    (start characters : List Char) : Bool :=
  (afterPrefix? start characters).isSome

/-- Whether characters end with others. -/
def endsWith
    (ending characters : List Char) : Bool :=
  beginsWith ending.reverse characters.reverse

/-- Normalises line ends, with the characters already normalised in reverse. -/
def unifyLineEndsFrom
    (kept : List Char) :
    List Char → List Char
  | '\r' :: '\n' :: rest => unifyLineEndsFrom ('\n' :: kept) rest
  | '\r' :: rest => unifyLineEndsFrom ('\n' :: kept) rest
  | character :: rest => unifyLineEndsFrom (character :: kept) rest
  | [] => kept.reverse

/-- Reads each carriage return, alone or before a line feed, as one line feed. -/
def unifyLineEnds (characters : List Char) : List Char :=
  unifyLineEndsFrom [] characters

/-- What remains after a leading sequence is the rest of the text. -/
theorem afterPrefix?_eq_some_iff
    (start characters rest : List Char) :
    afterPrefix? start characters = some rest ↔ characters = start ++ rest := by
  induction start generalizing characters with
  | nil =>
      simp [afterPrefix?]
  | cons expected more inductionHypothesis =>
      cases characters with
      | nil =>
          simp [afterPrefix?]
      | cons character remaining =>
          by_cases same : character = expected
          · simp [afterPrefix?, same, inductionHypothesis]
          · simp [afterPrefix?, same]

end ExpertAdvisor.Text
