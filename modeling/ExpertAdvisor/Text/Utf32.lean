import ExpertAdvisor.Text.CodePoint
import ExpertAdvisor.Text.Utf16

namespace ExpertAdvisor.Text.Utf32

/-!
# UTF-32

A code point is four bytes in either order.  Halves of surrogate pairs pass.
-/

/-- The number that two code units make, in the order of their bytes. -/
def combine
    (order : Utf16.ByteOrder)
    (first second : Nat) : Nat :=
  match order with
  | .littleEndian => first + second * 0x10000
  | .bigEndian => first * 0x10000 + second

/-- The numbers that bytes make in fours; none may be left over. -/
def numbers? (order : Utf16.ByteOrder) : List UInt8 → Option (List Nat)
  | [] => some []
  | a :: b :: c :: d :: rest =>
      (numbers? order rest).map
        (combine order (order.combine a b) (order.combine c d) :: ·)
  | _ => none

/-- The code point of a number, if it is one. -/
def point? (number : Nat) : Option CodePoint :=
  if number.isValidChar ∨ CodePoint.isHalf number then some (.ofUnit number) else none

/-- The code points that bytes encode. -/
def decode?
    (order : Utf16.ByteOrder)
    (bytes : List UInt8) : Option (List CodePoint) :=
  (numbers? order bytes).bind fun numbers => numbers.mapM point?

end ExpertAdvisor.Text.Utf32
