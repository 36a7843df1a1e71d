namespace ExpertAdvisor.Text

/-!
# Code points

Where texts need not be well formed, a text is a list of code points: characters,
and halves of surrogate pairs that stand alone.  A half has no UTF-8, and in no
class of characters that a pattern asks for is there one.
-/

/-- A code point of a text: a character, or half of a surrogate pair that stands alone. -/
inductive CodePoint where
  | character (content : Char)
  | half (unit : Nat)
  deriving Repr, DecidableEq

namespace CodePoint

/-- The character that a code point is, if it is one. -/
def character? : CodePoint → Option Char
  | .character content => some content
  | .half _ => none

/-- Whether a code point is a character. -/
def isCharacter (point : CodePoint) : Bool :=
  point.character?.isSome

/-- Whether a code unit is half of a surrogate pair. -/
def isHalf (unit : Nat) : Bool :=
  0xD800 ≤ unit && unit ≤ 0xDFFF

/-- The code point of a code unit that stands alone. -/
def ofUnit (unit : Nat) : CodePoint :=
  if isHalf unit then .half unit else .character (Char.ofNat unit)

/-- The character that is shown for a code point: the replacement character for half a pair. -/
def standIn : CodePoint → Char
  | .character content => content
  | .half _ => '\uFFFD'

/-- The private characters that tell the halves for which they stand begin here. -/
def firstMark : Nat := 0xF0000

/-- A stand-in that tells which half it stands for. -/
def mark : CodePoint → Char
  | .character content => content
  | .half unit => Char.ofNat (firstMark + (unit - 0xD800))

/--
The code point of which both stand-ins are known.  They differ for halves only,
since no half is marked by the replacement character.
-/
def ofStandIns (shown marked : CodePoint) : CodePoint :=
  if shown == marked then shown
  else .half (0xD800 + (marked.standIn.toNat - firstMark))

end CodePoint

/-- The code points of a text of characters. -/
def codePoints (characters : List Char) : List CodePoint :=
  characters.map .character

@[simp]
theorem codePoints_nil : codePoints [] = [] := rfl

@[simp]
theorem codePoints_cons
    (first : Char)
    (rest : List Char) :
    codePoints (first :: rest) = .character first :: codePoints rest := rfl

@[simp]
theorem codePoints_append (first second : List Char) :
    codePoints (first ++ second) = codePoints first ++ codePoints second :=
  List.map_append

/-- The text that code points make, unless there is half a pair among them. -/
def ofCodePoints? (points : List CodePoint) : Option String :=
  (points.mapM CodePoint.character?).map String.ofList

/-- The code points of characters make their text. -/
@[simp]
theorem ofCodePoints?_codePoints (characters : List Char) :
    ofCodePoints? (codePoints characters) = some (String.ofList characters) := by
  have same : (codePoints characters).mapM CodePoint.character? = some characters := by
    induction characters with
    | nil => rfl
    | cons first rest inductionHypothesis =>
        rw [codePoints_cons, List.mapM_cons, inductionHypothesis]
        rfl
  rw [ofCodePoints?, same]
  rfl

/-- The text in which every half of a pair is replaced by its stand-in. -/
def standingIn (points : List CodePoint) : String :=
  String.ofList (points.map CodePoint.standIn)

/-- The text in which every half of a pair is replaced by its mark. -/
def marked (points : List CodePoint) : String :=
  String.ofList (points.map CodePoint.mark)

end ExpertAdvisor.Text
