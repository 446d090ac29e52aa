import CodeSurvey.Text.Basic

/-!
# Days and times of day

The calendar begins with the year one and has a leap year every fourth year, full centuries that
four hundred does not divide aside.

## Main definitions

* `Date`, `Date.isValid`: days, and whether there is such a day.
* `TimeOfDay`, `TimeOfDay.isValid`: times of day, and whether there is such a time.
* `Date.text`, `TimeOfDay.text`: how they are written.
-/

namespace CodeSurvey

/-- A day of the calendar. -/
structure Date where
  year : Nat
  month : Nat
  day : Nat
deriving Repr, DecidableEq

/-- A time of day, down to microseconds. -/
structure TimeOfDay where
  hour : Nat
  minute : Nat
  second : Nat
  micros : Nat
deriving Repr, DecidableEq

namespace Date

/-- Whether a year has a day more. -/
def isLeap (year : Nat) : Bool := year % 4 == 0 && (year % 100 != 0 || year % 400 == 0)

/-- The number of days of a month. -/
def daysIn (year month : Nat) : Nat :=
  match month with
  | 2 => if isLeap year then 29 else 28
  | 4 | 6 | 9 | 11 => 30
  | _ => 31

/-- Whether there is such a day. -/
def isValid (d : Date) : Bool :=
  1 ≤ d.year && 1 ≤ d.month && d.month ≤ 12 && 1 ≤ d.day && d.day ≤ daysIn d.year d.month

/-- A date as year, month and day. -/
def text (d : Date) : Text :=
  Text.padded 4 d.year ++ '-' :: (Text.padded 2 d.month ++ '-' :: Text.padded 2 d.day)

end Date

namespace TimeOfDay

/-- Whether there is such a time of day. -/
def isValid (t : TimeOfDay) : Bool :=
  t.hour < 24 && t.minute < 60 && t.second < 60 && t.micros < 1000000

/-- A time as hour, minute and second, with microseconds where there are some. -/
def text (t : TimeOfDay) : Text :=
  Text.padded 2 t.hour ++ ':' :: (Text.padded 2 t.minute ++ ':' :: (Text.padded 2 t.second ++
    if t.micros = 0 then [] else '.' :: Text.padded 6 t.micros))

end TimeOfDay

end CodeSurvey
