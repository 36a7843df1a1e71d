namespace ExpertAdvisor.Number

/-!
# Digit sequences

A natural number and its digits in a base determine one another.  Digits are
kept with the most significant first.
-/

/-- The value of digits in a base, read on from a value. -/
def valueFrom
    (base start : Nat)
    (digits : List Nat) : Nat :=
  digits.foldl (fun total digit => total * base + digit) start

/-- The value of digits in a base, the first of them the greatest. -/
def valueOf
    (base : Nat)
    (digits : List Nat) : Nat :=
  valueFrom base 0 digits

/-- A natural number in decimal. -/
def naturalText (number : Nat) : String :=
  String.ofList (Nat.toDigits 10 number)

/-- An integer in decimal. -/
def integerText (number : Int) : String :=
  if number < 0 then "-" ++ naturalText number.natAbs else naturalText number.natAbs

/-- How many decimal digits a natural number has; zero has one. -/
def decimalLength (number : Nat) : Nat :=
  (Nat.toDigits 10 number).length

/-- A number in decimal, with zeros up to a width. -/
def paddedText
    (width number : Nat) : String :=
  let digits := Nat.toDigits 10 number
  String.ofList (List.replicate (width - digits.length) '0' ++ digits)

/-- A number in lower-case hexadecimal, with zeros up to a width. -/
def hexText
    (width number : Nat) : String :=
  let digits := Nat.toDigits 16 number
  String.ofList (List.replicate (width - digits.length) '0' ++ digits)

/-- The value of a hexadecimal digit of either case. -/
def hexDigit? (character : Char) : Option Nat :=
  if character.isDigit then
    some (character.toNat - '0'.toNat)
  else if 'a' ≤ character && character ≤ 'f' then
    some (character.toNat - 'a'.toNat + 10)
  else if 'A' ≤ character && character ≤ 'F' then
    some (character.toNat - 'A'.toNat + 10)
  else
    none

end ExpertAdvisor.Number
