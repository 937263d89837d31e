/-!
# The calendar

The proleptic Gregorian calendar, counted in days from the first of January of the year 0:

* `isLeap`, `monthLengths` -- the rule of 4, 100 and 400 years;
* `daysBeforeYear` -- the number of the first day of a year;
* `Date.ofDay` -- the date of a day number.

The year of a day is the number of mean years before it, put right by one year at most.
-/

namespace ControlPlane.Calendar

/-- A year with a twenty-ninth of February. -/
def isLeap (year : Int) : Bool :=
  year % 4 == 0 && (year % 100 != 0 || year % 400 == 0)

/-- The lengths of the months of a year. -/
def monthLengths (year : Int) : List Nat :=
  [31, if isLeap year then 29 else 28, 31, 30, 31, 30, 31, 31, 30, 31, 30, 31]

/-- The days from the start of the year 0 to the start of a year: 365 for each year between, and
    one more for each leap year. -/
def daysBeforeYear (year : Int) : Int :=
  365 * year + (year + 3) / 4 - (year + 99) / 100 + (year + 399) / 400

/-- The year that a day lies in; 400 years have 146097 days. -/
def yearOfDay (day : Int) : Int :=
  let mean := 400 * day / 146097
  if day < daysBeforeYear mean then mean - 1
  else if daysBeforeYear (mean + 1) ≤ day then mean + 1
  else mean

/-- The month, from `month` on, and the day in it, of the day `index` days later. -/
def monthOfDay (month : Nat) : List Nat → Nat → Nat × Nat
  | [], index => (month, index + 1)
  | length :: rest, index =>
    if index < length then (month, index + 1)
    else monthOfDay (month + 1) rest (index - length)

/-- A day of the calendar. -/
structure Date where
  year : Int
  month : Nat
  day : Nat
  deriving DecidableEq, Repr

/-- The date of a day number. -/
def Date.ofDay (day : Int) : Date :=
  let year := yearOfDay day
  let (month, dayOfMonth) := monthOfDay 1 (monthLengths year) (day - daysBeforeYear year).toNat
  ⟨year, month, dayOfMonth⟩

/-- The day number of the first of January 1970. -/
def epochDay : Int := 719528

end ControlPlane.Calendar
