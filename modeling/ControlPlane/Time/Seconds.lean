import ControlPlane.Number.Binary64
import ControlPlane.Text.Integer
import ControlPlane.Time.Duration

/-!
# A span of time read from a number of seconds

* `Numeral` -- a sign with decimal digits, a point and a power of ten; or a word for infinity or
  for no number at all;
* `Numeral.read` -- the reader of the text;
* `Seconds.read` -- the span: the numeral is first rounded to the nearest binary fraction of 64
  bits, and that to the nearest nanosecond, ties to even both times.

A negative zero is no negative number. A value of `2 ^ 64` seconds or more is too large.
-/

namespace ControlPlane

open Text

/-- Why a text is no span of seconds. -/
inductive SecondsFault where
  | empty
  | malformed
  | negative
  | tooLarge
  deriving DecidableEq, Repr

/-- The wording of a fault. -/
def SecondsFault.message : SecondsFault → String
  | .empty => "cannot parse float from empty string"
  | .malformed => "invalid float literal"
  | .negative => "cannot convert float seconds to Duration: value is negative"
  | .tooLarge => "cannot convert float seconds to Duration: value is either too big or NaN"

/-! ## 1. Numerals -/

/-- What a text for a number says, its sign apart. -/
inductive Numeral where
  /-- The digits, read as one number, times a power of ten. -/
  | decimal (digits : Nat) (power : Int)
  | infinite
  | undefined
  deriving DecidableEq, Repr

namespace Numeral

/-- The leading digits of a text, and what follows them. -/
def takeDigits : List Char → List Nat × List Char
  | [] => ([], [])
  | c :: rest =>
    match digit? c with
    | none => ([], c :: rest)
    | some d =>
      let (ds, after) := takeDigits rest
      (d :: ds, after)

/-- The number that digits write. -/
def ofDigits (digits : List Nat) : Nat := digits.foldl (fun n d => 10 * n + d) 0

/-- The power that digits write. A power from 65536 on takes no further digit: it is far beyond
    every number that has a binary fraction. -/
def powerOfDigits (digits : List Nat) : Nat :=
  digits.foldl (fun n d => if n < 65536 then 10 * n + d else n) 0

/-- What follows the letter of the power: a sign or none, then one digit at least to the end. -/
def readPower (chars : List Char) : Option Int :=
  let (negative, unsigned) :=
    match chars with
    | '+' :: rest => (false, rest)
    | '-' :: rest => (true, rest)
    | rest => (false, rest)
  match takeDigits unsigned with
  | (d :: ds, []) =>
    let n : Int := (powerOfDigits (d :: ds) : Nat)
    some (if negative then -n else n)
  | _ => none

/-- Digits, a point or none with more digits, and a power or none; one digit at least. -/
def readDecimal (chars : List Char) : Option Numeral :=
  let (whole, afterWhole) := takeDigits chars
  let (places, after) :=
    match afterWhole with
    | '.' :: rest => takeDigits rest
    | rest => ([], rest)
  let digits := whole ++ places
  if digits.isEmpty then none
  else
    let number := ofDigits digits
    match after with
    | [] => some (.decimal number (-(places.length : Int)))
    | c :: rest =>
      if c = 'e' ∨ c = 'E' then
        (readPower rest).map fun power => .decimal number (power - (places.length : Int))
      else none

/-- The words for values that are no decimal number, in any case. -/
def readWord (chars : List Char) : Option Numeral :=
  let word := String.ofList (chars.map Char.toLower)
  if word = "inf" ∨ word = "infinity" then some .infinite
  else if word = "nan" then some .undefined
  else none

/-- Reads a text: whether it begins with a minus sign, and what follows the sign. -/
def read (text : String) : Except SecondsFault (Bool × Numeral) :=
  let (negative, chars) :=
    match text.toList with
    | '+' :: rest => (false, rest)
    | '-' :: rest => (true, rest)
    | rest => (false, rest)
  if text.isEmpty then .error .empty
  else
    match readDecimal chars with
    | some n => .ok (negative, n)
    | none =>
      match readWord chars with
      | some n => .ok (negative, n)
      | none => .error .malformed

end Numeral

/-! ## 2. Seconds -/

namespace Seconds

/-- The span of a binary fraction of seconds, to the nearest nanosecond. -/
def ofBinary (x : Binary64) : Except SecondsFault Duration :=
  if (maxWord64 + 1) * x.quotient.2 ≤ x.quotient.1 then .error .tooLarge
  else .ok ⟨x.scaled Duration.perSecond⟩

/-- The quotient that digits and a power of ten write. -/
def decimalQuotient (digits : Nat) (power : Int) : Nat × Nat :=
  (digits * Nat.pow 10 power.toNat, Nat.pow 10 (-power).toNat)

/-- The span of a signed numeral. Only a number below zero after rounding is negative. -/
def ofNumeral : Bool × Numeral → Except SecondsFault Duration
  | (_, .undefined) => .error .tooLarge
  | (true, .infinite) => .error .negative
  | (false, .infinite) => .error .tooLarge
  | (negative, .decimal digits power) =>
    let (num, den) := decimalQuotient digits power
    match Binary64.nearest num den with
    | none => .error (if negative then .negative else .tooLarge)
    | some x =>
      if negative && x.mantissa != 0 then .error .negative else ofBinary x

/-- Reads a number of seconds. -/
def read (text : String) : Except SecondsFault Duration :=
  match Numeral.read text with
  | .error fault => .error fault
  | .ok numeral => ofNumeral numeral

end Seconds

end ControlPlane
