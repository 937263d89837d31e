import ControlPlane.Text.Integer
import ControlPlane.Time.Calendar

/-!
# Instants and their text

An instant is a number of nanoseconds from the start of 1970 in universal time. Its text
(`Instant.text`) is the date, `T`, the time of day and `Z`:

* a year has four digits at least, and one above 9999 a plus sign;
* the fraction of a second has no, 3, 6 or 9 digits, the fewest of these that are exact.
-/

namespace ControlPlane

open Text Calendar

/-- A point in time, in nanoseconds from the start of 1970. -/
structure Instant where
  nanos : Int
  deriving DecidableEq, Repr

namespace Instant

/-- The instant some seconds and nanoseconds from the start of 1970. -/
def ofParts (seconds nanos : Int) : Instant := ⟨seconds * 1000000000 + nanos⟩

/-- The whole seconds before an instant. -/
def seconds (i : Instant) : Int := i.nanos / 1000000000

/-- What an instant has beyond its whole seconds, in nanoseconds. -/
def subsecond (i : Instant) : Nat := (i.nanos % 1000000000).toNat

/-- The date of an instant. -/
def date (i : Instant) : Date := Date.ofDay (i.seconds / 86400 + epochDay)

/-- The seconds since midnight. -/
def secondOfDay (i : Instant) : Nat := (i.seconds % 86400).toNat

/-- The digits of a year. -/
def yearChars (year : Int) : List Char :=
  if 9999 < year then '+' :: decimal year.toNat
  else if year < 0 then '-' :: padded 4 (-year).toNat
  else padded 4 year.toNat

/-- The digits of a fraction of a second, with its point. -/
def fractionChars (nanos : Nat) : List Char :=
  if nanos = 0 then []
  else if nanos % 1000000 = 0 then '.' :: padded 3 (nanos / 1000000)
  else if nanos % 1000 = 0 then '.' :: padded 6 (nanos / 1000)
  else '.' :: padded 9 nanos

/-- The text of an instant. -/
def chars (i : Instant) : List Char :=
  let d := i.date
  let s := i.secondOfDay
  yearChars d.year ++ '-' :: padded 2 d.month ++ '-' :: padded 2 d.day ++
    'T' :: padded 2 (s / 3600) ++ ':' :: padded 2 (s / 60 % 60) ++ ':' :: padded 2 (s % 60) ++
    fractionChars i.subsecond ++ ['Z']

/-- The text of an instant. -/
def text (i : Instant) : String := String.ofList i.chars

end Instant

end ControlPlane
