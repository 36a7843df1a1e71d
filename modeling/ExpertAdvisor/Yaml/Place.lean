import ExpertAdvisor.Text.Blank
import ExpertAdvisor.Text.Lines

namespace ExpertAdvisor.Yaml

/-!
# Places in a document

Indentation carries meaning, so every character is read together with its line
and its column.  Tokens are set apart by spaces, line breaks and comments; a tab
sets nothing apart.
-/

/-- One character of a document, with its line and column. -/
structure Place where
  character : Char
  line : Nat
  column : Nat
  deriving Repr, DecidableEq

/-- Whether a character breaks a line. -/
def isBreak (character : Char) : Bool :=
  let codePoint := character.toNat
  codePoint == 0x0A || codePoint == 0x0D || codePoint == 0x85 ||
    codePoint == 0x2028 || codePoint == 0x2029

/-- What a line break contributes to a text that keeps it. -/
def keptBreak (character : Char) : Char :=
  if character.toNat == 0x2028 || character.toNat == 0x2029 then character else '\n'

/-- Whether a character is a space, a tab or a line break. -/
def isGap (character : Char) : Bool :=
  Text.isSpaceOrTab character || isBreak character

/-- The mark that may stand before a document; it takes no column. -/
def orderMark : Char := Char.ofNat 0xFEFF

/-- Places characters from a position on, after the places already found in reverse. -/
def placesFrom
    (line column : Nat)
    (found : List Place) :
    List Char → List Place
  | [] => found.reverse
  | character :: rest =>
      let here : Place := ⟨character, line, column⟩
      if isBreak character then
        placesFrom (line + 1) 0 (here :: found) rest
      else if character == orderMark then
        placesFrom line column (here :: found) rest
      else
        placesFrom line (column + 1) (here :: found) rest

/-- Characters with their places in a text. -/
def places (characters : List Char) : List Place :=
  placesFrom 0 0 [] characters

/-- The characters at places. -/
def charactersAt (found : List Place) : List Char :=
  found.map Place.character

namespace Place

/-- Whether a space stands at a place. -/
def isSpace (place : Place) : Bool :=
  place.character == ' '

/-- Whether a line ends at a place. -/
def endsLine (place : Place) : Bool :=
  isBreak place.character

end Place

/-- Whether a token ends here: at a gap or at the end of the document. -/
def atGap : List Place → Bool
  | [] => true
  | place :: _ => isGap place.character

/-- Goes on to the next token, over spaces, line breaks and comments. -/
def skipFrom
    (inComment : Bool) :
    List Place → List Place
  | [] => []
  | place :: rest =>
      if place.endsLine then skipFrom false rest
      else if inComment then skipFrom true rest
      else if place.isSpace then skipFrom false rest
      else if place.character == '#' then skipFrom true rest
      else place :: rest

/-- The next token and what follows it. -/
def toToken (here : List Place) : List Place :=
  skipFrom false here

/-- What follows a word that stands at the start of a line and ends at a gap. -/
def afterMarker?
    (word : List Char)
    (here : List Place) : Option (List Place) :=
  match here with
  | place :: _ =>
      let following := here.drop word.length
      if place.column == 0 && Text.beginsWith word (charactersAt (here.take word.length)) &&
          atGap following then
        some following
      else
        none
  | [] => none

/-- The word that starts a document. -/
def startMarker : List Char := "---".toList

/-- The word that ends a document. -/
def endMarker : List Char := "...".toList

/-- Whether a document starts or ends here. -/
def atMarker (here : List Place) : Bool :=
  (afterMarker? startMarker here).isSome || (afterMarker? endMarker here).isSome

/-- Whether an indicator character stands here alone, a gap after it. -/
def atIndicator
    (indicator : Char) :
    List Place → Bool
  | [] => false
  | place :: rest => place.character == indicator && atGap rest

end ExpertAdvisor.Yaml
