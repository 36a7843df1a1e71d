import ExpertAdvisor.Text.Lines

namespace ExpertAdvisor.Text

/-!
# Patterns

A pattern describes pieces of text.  It is read from a place in a text on, and
its alternatives are tried in order of preference: when what follows cannot be
read, the latest choice is taken back.  A scan looks for pieces from left to
right and goes on behind each piece that it finds.
-/

/-- A place in a text: its offset, the character before it, and the text from there on. -/
structure Cursor where
  offset : Nat
  previous : Option Char
  rest : List Char
  deriving Repr, DecidableEq

namespace Cursor

/-- Whether a cursor stands at the start of a line. -/
def startsLine (cursor : Cursor) : Bool :=
  match cursor.previous with
  | none => true
  | some character => character == '\n'

/-- The place behind the next characters. -/
def after (cursor : Cursor) : List Char → Cursor
  | [] => cursor
  | character :: more => after ⟨cursor.offset + 1, some character, cursor.rest.drop 1⟩ more

/-- The places within a run of characters of a class, after those already found in reverse. -/
def alongFrom
    (belongs : Char → Bool)
    (found : List Cursor)
    (offset : Nat)
    (previous : Option Char) :
    List Char → List Cursor
  | [] => ⟨offset, previous, []⟩ :: found
  | character :: rest =>
      let here : Cursor := ⟨offset, previous, character :: rest⟩
      if belongs character then
        alongFrom belongs (here :: found) (offset + 1) (some character) rest
      else
        here :: found

/-- The places to which characters of a class lead, the farthest first. -/
def along
    (belongs : Char → Bool)
    (cursor : Cursor) : List Cursor :=
  alongFrom belongs [] cursor.offset cursor.previous cursor.rest

end Cursor

/-- A named piece of a text, from one place to another. -/
structure Capture where
  name : String
  start : Cursor
  stop : Cursor
  deriving Repr, DecidableEq

/-- The characters between the ends of what a group captured. -/
def Capture.text (capture : Capture) : List Char :=
  capture.start.rest.take (capture.stop.offset - capture.start.offset)

/--
A description of pieces of text.  `many` takes as many characters of a class as
it can and `few` as few as it can; `maybe` prefers to read what it holds.
-/
inductive Pattern where
  | lineStart
  | word (characters : List Char)
  | one (belongs : Char → Bool)
  | many (belongs : Char → Bool)
  | few (belongs : Char → Bool)
  | maybe (inner : Pattern)
  | either (first second : Pattern)
  | follow (first second : Pattern)
  | group (name : String) (inner : Pattern)

/-- A piece of a text that a pattern describes: its offsets, and the pieces captured in it. -/
structure Match where
  start : Nat
  stop : Nat
  captures : List Capture
  deriving Repr, DecidableEq

/-- The text captured under a name, the latest if there are several. -/
def Match.captured
    (found : Match)
    (name : String) : List Char :=
  match found.captures.find? fun capture => capture.name == name with
  | some capture => capture.text
  | none => []

namespace Pattern

/-- The pattern of patterns that follow one another. -/
def sequence : List Pattern → Pattern
  | [] => .word []
  | first :: rest => .follow first (sequence rest)

/-- Reads a pattern and goes on; the first way on which the rest can be read counts. -/
def run :
    Pattern →
      (Cursor → List Capture → Option α) →
      Cursor → List Capture → Option α
  | .lineStart, goOn, cursor, captures =>
      if cursor.startsLine then goOn cursor captures else none
  | .word characters, goOn, cursor, captures =>
      if beginsWith characters cursor.rest then goOn (cursor.after characters) captures else none
  | .one belongs, goOn, cursor, captures =>
      match cursor.rest with
      | [] => none
      | character :: _ =>
          if belongs character then goOn (cursor.after [character]) captures else none
  | .many belongs, goOn, cursor, captures =>
      (cursor.along belongs).findSome? fun stop => goOn stop captures
  | .few belongs, goOn, cursor, captures =>
      (cursor.along belongs).reverse.findSome? fun stop => goOn stop captures
  | .maybe inner, goOn, cursor, captures =>
      (run inner goOn cursor captures).orElse fun _ => goOn cursor captures
  | .either first second, goOn, cursor, captures =>
      (run first goOn cursor captures).orElse fun _ => run second goOn cursor captures
  | .follow first second, goOn, cursor, captures =>
      run first (run second goOn) cursor captures
  | .group name inner, goOn, cursor, captures =>
      run inner (fun stop more => goOn stop (⟨name, cursor, stop⟩ :: more)) cursor captures

/-- The piece that a pattern finds at a place. -/
def match?
    (pattern : Pattern)
    (cursor : Cursor) : Option Match :=
  pattern.run (fun stop captures => some ⟨cursor.offset, stop.offset, captures⟩) cursor []

/-- Looks for pieces in the rest of a text, but not before an offset up to which it is taken. -/
def scanFrom
    (pattern : Pattern)
    (taken offset : Nat)
    (previous : Option Char) :
    List Char → List Match
  | [] => (pattern.match? ⟨offset, previous, []⟩).toList
  | character :: rest =>
      if offset < taken then
        scanFrom pattern taken (offset + 1) (some character) rest
      else
        match pattern.match? ⟨offset, previous, character :: rest⟩ with
        | some found => found :: scanFrom pattern found.stop (offset + 1) (some character) rest
        | none => scanFrom pattern taken (offset + 1) (some character) rest

/-- The pieces of a text that a pattern describes, from left to right and without overlap. -/
def scan
    (pattern : Pattern)
    (text : List Char) : List Match :=
  pattern.scanFrom 0 0 none text

end Pattern

end ExpertAdvisor.Text
