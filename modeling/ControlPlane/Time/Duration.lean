import ControlPlane.Text.Integer

/-!
# Spans of time

* `Duration` -- a span, in nanoseconds;
* `Duration.ticks` -- the whole milliseconds a timer waits for a span: timers have a resolution of
  one millisecond and never end early, so a part of a millisecond counts in full;
* `Duration.text` -- the written form: the largest of the units s, ms, µs and ns that leaves a
  whole part, with the fraction that remains and no trailing zeros.
-/

namespace ControlPlane

open Text

/-- A span of time. -/
structure Duration where
  nanos : Nat
  deriving DecidableEq, Repr, Inhabited

namespace Duration

/-- Nanoseconds in a second. -/
def perSecond : Nat := 1000000000

/-- The span of some seconds and nanoseconds. -/
def ofParts (seconds nanos : Nat) : Duration := ⟨seconds * perSecond + nanos⟩

/-- The whole seconds of a span. -/
def seconds (d : Duration) : Nat := d.nanos / perSecond

/-- What a span has beyond its whole seconds, in nanoseconds. -/
def subsecond (d : Duration) : Nat := d.nanos % perSecond

/-- The milliseconds a timer waits for a span. -/
def ticks (d : Duration) : Nat := (d.nanos + 999999) / 1000000

/-! ## The written form -/

/-- The digits of a fraction of `width` places, without the zeros at its end. -/
def fractionDigits (width fraction : Nat) : List Char :=
  ((padded width fraction).reverse.dropWhile (· == '0')).reverse

/-- A number with a fraction of `width` places and a unit; a fraction of zero is left out. -/
def withUnit (whole width fraction : Nat) (unit : String) : String :=
  let point := if fraction = 0 then [] else '.' :: fractionDigits width fraction
  String.ofList (decimal whole ++ point) ++ unit

/-- The written form of a span. -/
def text (d : Duration) : String :=
  if perSecond ≤ d.nanos then withUnit d.seconds 9 d.subsecond "s"
  else if 1000000 ≤ d.nanos then withUnit (d.nanos / 1000000) 6 (d.nanos % 1000000) "ms"
  else if 1000 ≤ d.nanos then withUnit (d.nanos / 1000) 3 (d.nanos % 1000) "µs"
  else withUnit d.nanos 0 0 "ns"

end Duration

end ControlPlane
