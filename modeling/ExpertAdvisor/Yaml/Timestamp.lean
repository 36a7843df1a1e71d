import ExpertAdvisor.Number.Digits
import ExpertAdvisor.Text.Blank
import ExpertAdvisor.Value.Moment

namespace ExpertAdvisor.Yaml

/-!
# Timestamps

A timestamp is a day, or a day and a time behind the letter T or behind blanks.
The time may have a fraction, of which microseconds count, and may tell how far
it is from universal time, which is itself written as the letter Z.
-/

/-- The number of the digits at the start, if there are as many as allowed, and what follows. -/
def digitField?
    (least most : Nat)
    (characters : List Char) : Option (Nat × List Char) :=
  let (digits, rest) := characters.span Char.isDigit
  if least ≤ digits.length ∧ digits.length ≤ most then
    (digits.mapM Number.hexDigit?).map fun values => (Number.valueOf 10 values, rest)
  else
    none

/-- What follows a character that must come first. -/
def behind?
    (expected : Char) :
    List Char → Option (List Char)
  | first :: rest => if first == expected then some rest else none
  | [] => none

/-- The minutes of a distance from universal time: hours of one or two digits, perhaps minutes. -/
def distance? (characters : List Char) : Option Nat := do
  let (hours, afterHours) ← digitField? 1 2 characters
  match afterHours with
  | [] => return hours * 60
  | _ =>
      let (minutes, ending) ← digitField? 2 2 (← behind? ':' afterHours)
      if ending.isEmpty then return hours * 60 + minutes else none

/-- The distance from universal time that is told behind a time, if one is. -/
def offset? (characters : List Char) : Option (Option Int) :=
  match characters, characters.dropWhile Text.isSpaceOrTab with
  | [], _ => some none
  | _, ['Z'] => some (some 0)
  | _, '+' :: rest => (distance? rest).map fun minutes => some minutes
  | _, '-' :: rest => (distance? rest).map fun minutes => some (-(minutes : Int))
  | _, _ => none

/-- The microseconds of a fraction behind its point; digits after the sixth count for nothing. -/
def microseconds? (digits : List Char) : Option Nat :=
  let counted := digits.take 6
  ((counted ++ List.replicate (6 - counted.length) '0').mapM Number.hexDigit?).map
    (Number.valueOf 10)

/-- The time of day that characters tell. -/
def timeOfDay? (characters : List Char) : Option TimeOfDay := do
  let (hour, afterHour) ← digitField? 1 2 characters
  let (minute, afterMinute) ← digitField? 2 2 (← behind? ':' afterHour)
  let (second, afterSecond) ← digitField? 2 2 (← behind? ':' afterMinute)
  let (fraction, ending) :=
    match afterSecond with
    | '.' :: rest => rest.span Char.isDigit
    | other => ([], other)
  return ⟨hour, minute, second, ← microseconds? fraction, ← offset? ending⟩

/-- What follows the letter or the blanks between a day and a time. -/
def behindDay? (characters : List Char) : Option (List Char) :=
  match characters with
  | 'T' :: rest | 't' :: rest => some rest
  | first :: rest =>
      if Text.isSpaceOrTab first then some (rest.dropWhile Text.isSpaceOrTab) else none
  | [] => none

/-- The moment that characters tell, which the calendar need not have. -/
def moment? (characters : List Char) : Option Moment := do
  let (year, afterYear) ← digitField? 4 4 characters
  let (month, afterMonth) ← digitField? 1 2 (← behind? '-' afterYear)
  let (day, afterDay) ← digitField? 1 2 (← behind? '-' afterMonth)
  match afterDay with
  | [] => return ⟨year, month, day, none⟩
  | _ => return ⟨year, month, day, some (← timeOfDay? (← behindDay? afterDay))⟩

/-- The moment that a plain scalar tells: one that is a day alone writes all its digits. -/
def plainMoment? (characters : List Char) : Option Moment :=
  (moment? characters).filter fun moment => moment.time.isSome || characters.length == 10

end ExpertAdvisor.Yaml
