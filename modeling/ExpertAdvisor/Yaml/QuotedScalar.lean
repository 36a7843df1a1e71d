import ExpertAdvisor.Number.Digits
import ExpertAdvisor.Yaml.PlainScalar

namespace ExpertAdvisor.Yaml

/-!
# Quoted scalars

Between single quotes a quote is written twice and nothing else is special.
Between double quotes a backslash starts an escape.  Line breaks fold as in plain
scalars, and the blanks around them are dropped.
-/

/-- The quotes that a scalar may stand between. -/
inductive Quote where
  | single
  | double
  deriving Repr, DecidableEq

/-- The character that opens and closes a quoted scalar. -/
def Quote.character : Quote → Char
  | .single => '\''
  | .double => '"'

/-- The escapes of one letter, with the code points that they stand for. -/
def letterEscapes : List (Char × Nat) :=
  [('0', 0x00), ('a', 0x07), ('b', 0x08), ('t', 0x09), ('\t', 0x09), ('n', 0x0A), ('v', 0x0B),
    ('f', 0x0C), ('r', 0x0D), ('e', 0x1B), (' ', 0x20), ('"', 0x22), ('\\', 0x5C), ('/', 0x2F),
    ('N', 0x85), ('_', 0xA0), ('L', 0x2028), ('P', 0x2029)]

/-- The letters that introduce a code point, with the number of its hexadecimal digits. -/
def codeEscapes : List (Char × Nat) :=
  [('x', 2), ('u', 4), ('U', 8)]

/--
The character of a code point in hexadecimal digits.  Half of a surrogate pair is
none: a document that escapes one is refused.
-/
def codeCharacter? (digits : List Char) : Option Char := do
  let values ← digits.mapM Number.hexDigit?
  let codePoint := Number.valueOf 16 values
  if codePoint.isValidChar then some (Char.ofNat codePoint) else none

/-- Reads what follows a backslash: the characters that it stands for, and the place after it. -/
def escape? : List Place → Option (List Char × List Place)
  | [] => none
  | place :: rest =>
      match letterEscapes.lookup place.character, codeEscapes.lookup place.character with
      | some codePoint, _ => some ([Char.ofNat codePoint], rest)
      | none, some width =>
          if rest.length < width then none
          else
            (codeCharacter? (charactersAt (rest.take width))).map fun character =>
              ([character], rest.drop width)
      | none, none =>
          if place.endsLine then
            breaksFrom (fun place => Text.isSpaceOrTab place.character) [] rest
          else
            none

/-- What a gap inside quotes reads as, and the place after it. -/
def quotedGap? (here : List Place) : Option (List Char × List Place) :=
  let (blanks, afterBlanks) := here.span fun place => Text.isSpaceOrTab place.character
  match afterBlanks with
  | [] => none
  | place :: rest =>
      if place.endsLine then
        (breaksFrom (fun place => Text.isSpaceOrTab place.character) [] rest).map fun found =>
          (foldedBreaks place.character found.1, found.2)
      else
        some (charactersAt blanks, afterBlanks)

/-- Reads up to the closing quote, in at most as many steps as the fuel. -/
def quotedFrom
    (quote : Quote) :
    Nat → List Char → List Place → Option (List Char × List Place)
  | 0, _, _ => none
  | _ + 1, _, [] => none
  | fuel + 1, read, place :: rest =>
      if place.character == quote.character then
        match quote, rest with
        | .single, next :: following =>
            if next.character == '\'' then quotedFrom quote fuel ('\'' :: read) following
            else some (read, rest)
        | _, _ => some (read, rest)
      else if isGap place.character then
        (quotedGap? (place :: rest)).bind fun found =>
          quotedFrom quote fuel (found.1.reverse ++ read) found.2
      else if quote == .double && place.character == '\\' then
        (escape? rest).bind fun found =>
          quotedFrom quote fuel (found.1.reverse ++ read) found.2
      else
        quotedFrom quote fuel (place.character :: read) rest

/-- Reads a quoted scalar whose opening quote stands before here. -/
def quotedScalar?
    (quote : Quote)
    (here : List Place) : Option (String × List Place) :=
  (quotedFrom quote (here.length + 1) [] here).map fun found =>
    (String.ofList found.1.reverse, found.2)

end ExpertAdvisor.Yaml
