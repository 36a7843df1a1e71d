import ExpertAdvisor.Number.Digits

namespace ExpertAdvisor

/-!
# Moments

A moment is a day of the calendar, perhaps with a time of that day, which may
tell how far it is from universal time.  Only days and times that exist are
moments.
-/

/-- A time of day with its distance from universal time in minutes, where that is told. -/
structure TimeOfDay where
  hour : Nat
  minute : Nat
  second : Nat
  microsecond : Nat
  offset : Option Int
  deriving Repr, DecidableEq

/-- A day of the calendar, perhaps with a time. -/
structure Moment where
  year : Nat
  month : Nat
  day : Nat
  time : Option TimeOfDay
  deriving Repr, DecidableEq

namespace TimeOfDay

/-- Whether there is such a time; its distance from universal time is less than a day. -/
def occurs (time : TimeOfDay) : Bool :=
  time.hour < 24 && time.minute < 60 && time.second < 60 && time.microsecond < 1000000 &&
    time.offset.all fun minutes => minutes.natAbs < 1440

/-- The distance from universal time as hours and minutes behind a sign. -/
def offsetText (minutes : Int) : String :=
  (if minutes < 0 then "-" else "+") ++ Number.paddedText 2 (minutes.natAbs / 60) ++ ":" ++
    Number.paddedText 2 (minutes.natAbs % 60)

/-- A time as it is displayed. -/
def text (time : TimeOfDay) : String :=
  Number.paddedText 2 time.hour ++ ":" ++ Number.paddedText 2 time.minute ++ ":" ++
    Number.paddedText 2 time.second ++
    (if time.microsecond == 0 then "" else "." ++ Number.paddedText 6 time.microsecond) ++
    (time.offset.map offsetText).getD ""

/-- The arguments that are named in the literal of a span of minutes: whole days, then seconds. -/
def spanArguments (minutes : Int) : List String :=
  let days := minutes / 1440
  let seconds := minutes % 1440 * 60
  (if days == 0 then [] else ["days=" ++ Number.integerText days]) ++
    (if seconds == 0 then [] else ["seconds=" ++ Number.integerText seconds])

/-- The literal of a distance from universal time. -/
def offsetLiteral (minutes : Int) : String :=
  if minutes == 0 then "datetime.timezone.utc"
  else
    "datetime.timezone(datetime.timedelta(" ++ ", ".intercalate (spanArguments minutes) ++ "))"

/-- The arguments of a time in the literal of its moment; zeros at the end are left out. -/
def arguments (time : TimeOfDay) : List String :=
  let fine :=
    if time.microsecond != 0 then [time.second, time.microsecond]
    else if time.second != 0 then [time.second]
    else []
  ([time.hour, time.minute] ++ fine).map Number.naturalText ++
    (time.offset.map fun minutes => "tzinfo=" ++ offsetLiteral minutes).toList

end TimeOfDay

namespace Moment

/-- Whether a year of the calendar is a leap year. -/
def isLeapYear (year : Nat) : Bool :=
  year % 4 == 0 && (year % 100 != 0 || year % 400 == 0)

/-- How many days a month has; there is none beyond the twelfth. -/
def daysIn (year month : Nat) : Nat :=
  match month with
  | 1 | 3 | 5 | 7 | 8 | 10 | 12 => 31
  | 4 | 6 | 9 | 11 => 30
  | 2 => if isLeapYear year then 29 else 28
  | _ => 0

/-- Whether the calendar has such a moment; it begins with the year one. -/
def occurs (moment : Moment) : Bool :=
  1 ≤ moment.year && 1 ≤ moment.day && moment.day ≤ daysIn moment.year moment.month &&
    moment.time.all TimeOfDay.occurs

/-- The name of a moment's kind: a day, or a day with a time. -/
def kindName (moment : Moment) : String :=
  if moment.time.isSome then "datetime" else "date"

/-- A day as it is displayed. -/
def dayText (moment : Moment) : String :=
  Number.paddedText 4 moment.year ++ "-" ++ Number.paddedText 2 moment.month ++ "-" ++
    Number.paddedText 2 moment.day

/-- A moment as it is displayed. -/
def text (moment : Moment) : String :=
  moment.dayText ++ (moment.time.map fun time => " " ++ time.text).getD ""

/-- The literal of a moment. -/
def literal (moment : Moment) : String :=
  let day := [moment.year, moment.month, moment.day].map Number.naturalText
  "datetime." ++ moment.kindName ++ "(" ++
    ", ".intercalate (day ++ (moment.time.map TimeOfDay.arguments).getD []) ++ ")"

end Moment

end ExpertAdvisor
