import ExpertAdvisor.Yaml.Place

namespace ExpertAdvisor.Yaml

/-!
# Plain scalars

A plain scalar has no quotes.  It ends at a comment, at a colon that a gap
follows, and among flow brackets at their punctuation.  It may go on over
several lines: a single line break reads as a space, and further breaks stand
for themselves.
-/

/-- What surrounds a scalar: indented lines, which begin at a margin, or flow brackets. -/
inductive Surrounding where
  | block (margin : Nat)
  | flow
  deriving Repr, DecidableEq

namespace Surrounding

/-- Whether a character is punctuation of the collection around a scalar. -/
def isPunctuation
    (character : Char) :
    Surrounding → Bool
  | .block _ => false
  | .flow => [',', '[', ']', '\x7b', '\x7d'].contains character

/-- Whether a line that begins at a place is inside the margin. -/
def admits
    (place : Place) :
    Surrounding → Bool
  | .block margin => margin ≤ place.column
  | .flow => true

/-- Whether a value follows the colon that stands before here. -/
def colonEnds
    (surrounding : Surrounding)
    (afterColon : List Place) : Bool :=
  atGap afterColon ||
    match afterColon with
    | place :: _ => surrounding.isPunctuation place.character
    | [] => false

end Surrounding

/-- The characters that begin no plain scalar. -/
def indicators : List Char :=
  ['-', '?', ':', ',', '[', ']', '\x7b', '\x7d', '#', '&', '*', '!', '|', '>', '\'', '"', '%', '@',
    Char.ofNat 0x60]

/-- The indicators that begin a plain scalar when no gap follows them. -/
def softIndicators : Surrounding → List Char
  | .block _ => ['-', '?', ':']
  | .flow => ['-']

/-- Whether a plain scalar begins here; some indicators begin one if no gap follows them. -/
def beginsPlain
    (surrounding : Surrounding) :
    List Place → Bool
  | [] => false
  | place :: rest =>
      !isGap place.character &&
        (!indicators.contains place.character ||
          (softIndicators surrounding).contains place.character && !atGap rest)

/-- Whether a word of a plain scalar ends here. -/
def endsWord
    (surrounding : Surrounding)
    (place : Place)
    (rest : List Place) : Bool :=
  isGap place.character ||
    (place.character == ':' && surrounding.colonEnds rest) ||
    (surrounding == .flow && (place.character == '?' || surrounding.isPunctuation place.character))

/-- Reads a word, after the characters already read in reverse. -/
def wordFrom
    (surrounding : Surrounding)
    (read : List Char) :
    List Place → List Char × List Place
  | [] => (read, [])
  | place :: rest =>
      if endsWord surrounding place rest then (read, place :: rest)
      else wordFrom surrounding (place.character :: read) rest

/-- Reads line breaks and the spaces among them; there is nothing to read where a document ends. -/
def breaksFrom
    (isFiller : Place → Bool)
    (found : List Char) :
    List Place → Option (List Char × List Place)
  | [] => some (found.reverse, [])
  | place :: rest =>
      if atMarker (place :: rest) then none
      else if isFiller place then breaksFrom isFiller found rest
      else if place.endsLine then
        breaksFrom isFiller (keptBreak place.character :: found) rest
      else some (found.reverse, place :: rest)

/-- What a line break and those after it fold to. -/
def foldedBreaks
    (first : Char)
    (more : List Char) : List Char :=
  if keptBreak first != '\n' then keptBreak first :: more
  else if more.isEmpty then [' ']
  else more

/-- What a gap between words reads as, and the place after it. -/
def plainGap (here : List Place) : List Char × List Place :=
  let (spaces, afterSpaces) := here.span Place.isSpace
  match afterSpaces with
  | place :: rest =>
      if place.endsLine then
        match breaksFrom Place.isSpace [] rest with
        | some (breaks, following) => (foldedBreaks place.character breaks, following)
        | none => ([], here)
      else
        (charactersAt spaces, afterSpaces)
  | [] => ([], here)

/-- Whether a plain scalar goes on after a gap. -/
def goesOn
    (surrounding : Surrounding) :
    List Place → Bool
  | [] => false
  | place :: rest =>
      surrounding.admits place && place.character != '#' && !endsWord surrounding place rest

/-- Reads the words of a plain scalar, at most as many as the fuel. -/
def plainFrom
    (surrounding : Surrounding) :
    Nat → List Char → List Place → List Char × List Place
  | 0, read, here => (read, here)
  | fuel + 1, read, here =>
      let (whole, afterWord) := wordFrom surrounding read here
      let (gap, following) := plainGap afterWord
      if !gap.isEmpty && goesOn surrounding following then
        plainFrom surrounding fuel (gap.reverse ++ whole) following
      else
        (whole, afterWord)

/-- The plain scalar that begins here, and what follows it. -/
def plainScalar
    (surrounding : Surrounding)
    (here : List Place) : String × List Place :=
  let (read, following) := plainFrom surrounding here.length [] here
  (String.ofList read.reverse, following)

end ExpertAdvisor.Yaml
