import ExpertAdvisor.Text.Blank
import ExpertAdvisor.Text.Lines

namespace ExpertAdvisor

/-!
# Assignment files

A settings file assigns texts to names, one assignment a line:

```text
NAME=value            # a note
export NAME="a\nb"
NAME='as it is'
NAME
```

A name without an equals sign has no value.  A line that is no assignment is
passed over.  Within a value, a reference such as `${NAME}` stands for the value
of another name, and `${NAME:-text}` for the text where that name has none.
-/

/-- A name and the value that it is given, if any. -/
structure Assignment where
  name : String
  value : Option String
  deriving Repr, DecidableEq

namespace Assignment

/-- Whether a character is a blank that does not break the line. -/
def isInlineBlank (character : Char) : Bool :=
  Text.isBlank character && character != '\n' && character != '\r'

/-- Whether a character ends a line here. -/
def isLineBreak (character : Char) : Bool :=
  character == '\n' || character == '\r'

/-- What reading a part yields, or the text at which reading stopped. -/
abbrev Reading (α : Type) := Except (List Char) (α × List Char)

/-- The text after the word that may stand before a name. -/
def afterExport (characters : List Char) : List Char :=
  match Text.afterPrefix? "export".toList characters with
  | some (blank :: rest) =>
      if isInlineBlank blank then rest.dropWhile isInlineBlank else characters
  | _ => characters

/-- Whether a character can be part of a name without quotes. -/
def isNameCharacter (character : Char) : Bool :=
  character != '=' && character != '#' && !Text.isBlank character

/-- Reads a name; a note has none. -/
def readName (characters : List Char) : Reading (Option String) :=
  match characters with
  | '#' :: _ => .ok (none, characters)
  | '\'' :: rest =>
      match rest.span (· != '\'') with
      | (first :: more, _ :: after) => .ok (some (String.ofList (first :: more)), after)
      | _ => .error characters
  | _ =>
      match characters.span isNameCharacter with
      | ([], _) => .error characters
      | (name, after) => .ok (some (String.ofList name), after)

/-- A text cut where a note begins: at a number sign behind a blank. -/
def withoutNote
    (kept : List Char) :
    List Char → List Char
  | [] => kept.reverse
  | character :: rest =>
      let behindBlank :=
        match kept with
        | before :: _ => Text.isBlank before
        | [] => false
      if character == '#' && behindBlank then kept.reverse
      else withoutNote (character :: kept) rest

/-- Characters without the blanks at their end. -/
def trimEnd (characters : List Char) : List Char :=
  (characters.reverse.dropWhile Text.isBlank).reverse

/-- Reads a value without quotes, which ends with the line. -/
def readBareValue (characters : List Char) : List Char × List Char :=
  let (line, after) := characters.span fun character => !isLineBreak character
  (trimEnd (withoutNote [] line), after)

/--
Reads up to the quote that closes a value: the first one without a backslash
before it, or else the last one of all, which `fallback` holds.
-/
def readQuoted?
    (quote : Char)
    (read : List Char)
    (fallback : Option (List Char × List Char)) :
    List Char → Option (List Char × List Char)
  | [] => fallback
  | character :: rest =>
      if character == quote then
        if read.head? == some '\\' then
          readQuoted? quote (character :: read) (some (read.reverse, rest)) rest
        else
          some (read.reverse, rest)
      else
        readQuoted? quote (character :: read) fallback rest

/-- The character that an escape between double quotes stands for. -/
def doubleQuoteEscape? : Char → Option Char
  | '\\' => some '\\'
  | '\'' => some '\''
  | '"' => some '"'
  | 'a' => some '\x07'
  | 'b' => some '\x08'
  | 'f' => some '\x0c'
  | 'n' => some '\n'
  | 'r' => some '\r'
  | 't' => some '\t'
  | 'v' => some '\x0b'
  | _ => none

/-- The character that an escape between single quotes stands for. -/
def singleQuoteEscape? : Char → Option Char
  | '\\' => some '\\'
  | '\'' => some '\''
  | _ => none

/-- Replaces the escapes that are known and leaves the others. -/
def unescape
    (escape? : Char → Option Char) :
    List Char → List Char
  | '\\' :: character :: rest =>
      match escape? character with
      | some replacement => replacement :: unescape escape? rest
      | none => '\\' :: unescape escape? (character :: rest)
  | character :: rest => character :: unescape escape? rest
  | [] => []

/--
Reads what is assigned: in quotes with escapes, or plain up to a comment or the
end of the line.
-/
def readValue (characters : List Char) : Reading (List Char) :=
  match characters with
  | '\'' :: rest =>
      match readQuoted? '\'' [] none rest with
      | some (value, after) => .ok (unescape singleQuoteEscape? value, after)
      | none => .error characters
  | '"' :: rest =>
      match readQuoted? '"' [] none rest with
      | some (value, after) => .ok (unescape doubleQuoteEscape? value, after)
      | none => .error characters
  | _ => .ok (readBareValue characters)

/-- Reads what follows a name: an equals sign and a value, or nothing. -/
def readAssigned (characters : List Char) : Reading (Option (List Char)) :=
  match characters.dropWhile isInlineBlank with
  | '=' :: rest =>
      (readValue (rest.dropWhile isInlineBlank)).map fun read => (some read.1, read.2)
  | after => .ok (none, after)

/-- The text after a note, if one follows. -/
def afterNote (characters : List Char) : List Char :=
  match characters.dropWhile isInlineBlank with
  | '#' :: rest => rest.dropWhile fun character => !isLineBreak character
  | _ => characters

/-- The text after the line's end, which must be all that remains of the line. -/
def afterLineEnd (characters : List Char) : Except (List Char) (List Char) :=
  match characters.dropWhile isInlineBlank with
  | [] => .ok []
  | '\r' :: '\n' :: rest => .ok rest
  | character :: rest => if isLineBreak character then .ok rest else .error characters

/-- Reads one line: an assignment, or a note alone. -/
def readLine (characters : List Char) : Reading (Option Assignment) :=
  match readName (afterExport characters) with
  | .error stopped => .error stopped
  | .ok (name, afterName) =>
      match readAssigned afterName with
      | .error stopped => .error stopped
      | .ok (value, afterValue) =>
          (afterLineEnd (afterNote afterValue)).map fun rest =>
            (name.map fun given => ⟨given, value.map String.ofList⟩, rest)

/-- The text after the rest of a line that could not be read. -/
def afterBrokenLine (characters : List Char) : List Char :=
  (characters.dropWhile fun character => !isLineBreak character).drop 1

/-- Reads assignments one after another, with those already read in reverse. -/
def readAll
    (fuel : Nat)
    (read : List Assignment)
    (characters : List Char) : List Assignment :=
  match fuel with
  | 0 => read.reverse
  | more + 1 =>
      match characters.dropWhile Text.isBlank with
      | [] => read.reverse
      | onward =>
          match readLine onward with
          | .ok (some assignment, rest) => readAll more (assignment :: read) rest
          | .ok (none, rest) => readAll more read rest
          | .error stopped => readAll more read (afterBrokenLine stopped)

/-- The assignments of a file's text, as they are written. -/
def ofText (text : String) : List Assignment :=
  let characters := Text.unifyLineEnds text.toList
  readAll (characters.length + 1) [] characters

/-- A reference to a name, with the text that stands for a name without a value. -/
def reference? (characters : List Char) : Option (String × String × List Char) :=
  let (name, after) := characters.span fun character => character != '\x7d' && character != ':'
  match after with
  | '\x7d' :: rest => some (String.ofList name, "", rest)
  | ':' :: '-' :: more =>
      match more.span (· != '\x7d') with
      | (default, _ :: rest) => some (String.ofList name, String.ofList default, rest)
      | _ => none
  | _ => none

/-- Replaces references by what `lookUp` finds, with the text already replaced in reverse. -/
def expandFrom
    (lookUp : String → Option String)
    (fuel : Nat)
    (done : List Char)
    (characters : List Char) : List Char :=
  match fuel with
  | 0 => done.reverse
  | more + 1 =>
      match characters with
      | '$' :: '\x7b' :: rest =>
          match reference? rest with
          | some (name, default, following) =>
              let value := (lookUp name).getD default
              expandFrom lookUp more (value.toList.reverse ++ done) following
          | none => expandFrom lookUp more ('$' :: done) ('\x7b' :: rest)
      | character :: rest => expandFrom lookUp more (character :: done) rest
      | [] => done.reverse

/-- A value with the variables in it replaced by what they stand for. -/
def expand
    (lookUp : String → Option String)
    (value : String) : String :=
  String.ofList (expandFrom lookUp (value.length + 1) [] value.toList)

/-- The value of a name among assignments, where a name without a value has an empty one. -/
def find?
    (assigned : List Assignment)
    (name : String) : Option String :=
  (assigned.find? fun assignment => assignment.name == name).map fun assignment =>
    assignment.value.getD ""

/-- Gives a name a value: in its old place, or at the end when it is new. -/
def put
    (assigned : List Assignment)
    (assignment : Assignment) : List Assignment :=
  if assigned.any fun known => known.name == assignment.name then
    assigned.map fun known => if known.name == assignment.name then assignment else known
  else
    assigned ++ [assignment]

/--
Replaces the references in all assignments, in order: a reference sees the
assignments before its own, and behind these the environment.
-/
def resolve
    (environment : String → Option String)
    (assignments : List Assignment) : List Assignment :=
  assignments.foldl
    (fun assigned assignment =>
      let lookUp := fun name => (find? assigned name).or (environment name)
      put assigned { assignment with value := assignment.value.map (expand lookUp) })
    []

end Assignment

end ExpertAdvisor
