/-!
# Whole numbers as text

This file fixes how a whole number is read from a text and written to one:

* `maxWord32`, `maxWord64`, `maxInt64` -- the largest numbers of a width;
* `IntegerFault` -- why a text is not a number of the wanted range, with its wording;
* `readNat limit` -- digits with an optional plus sign, up to `limit`;
* `readInt limit` -- the same with a minus sign too, from `-limit - 1` to `limit`;
* `decimal`, `decimalInt`, `padded` -- the written forms.

Only the ten ASCII digits count. The text is read from the left, and the first character that is
no digit, or the first digit that leaves the range, decides the fault.
-/

namespace ControlPlane.Text

/-! ## 1. Words -/

/-- The largest number of 32 bits. -/
def maxWord32 : Nat := 4294967295

/-- The largest number of 64 bits. -/
def maxWord64 : Nat := 18446744073709551615

/-- The largest signed number of 64 bits. -/
def maxInt64 : Nat := 9223372036854775807

/-! ## 2. Reading -/

/-- Why a text is not a whole number of the wanted range. -/
inductive IntegerFault where
  | empty
  | invalidDigit
  | tooLarge
  | tooSmall
  deriving DecidableEq, Repr

/-- The wording of a fault. -/
def IntegerFault.message : IntegerFault → String
  | .empty => "cannot parse integer from empty string"
  | .invalidDigit => "invalid digit found in string"
  | .tooLarge => "number too large to fit in target type"
  | .tooSmall => "number too small to fit in target type"

/-- The value of an ASCII digit. -/
def digit? (c : Char) : Option Nat :=
  if 48 ≤ c.toNat ∧ c.toNat ≤ 57 then some (c.toNat - 48) else none

/-- Reads digits onto `acc`; `beyond` is the fault of a magnitude above `limit`. -/
def readDigits (limit : Nat) (beyond : IntegerFault) : Nat → List Char → Except IntegerFault Nat
  | acc, [] => .ok acc
  | acc, c :: rest =>
    match digit? c with
    | none => .error .invalidDigit
    | some d =>
      if acc * 10 + d ≤ limit then readDigits limit beyond (acc * 10 + d) rest
      else .error beyond

/-- A sign needs a digit after it. -/
def readMagnitude (limit : Nat) (beyond : IntegerFault) : List Char → Except IntegerFault Nat
  | [] => .error .invalidDigit
  | c :: rest => readDigits limit beyond 0 (c :: rest)

/-- A number from 0 to `limit`. -/
def readNat (limit : Nat) (text : String) : Except IntegerFault Nat :=
  match text.toList with
  | [] => .error .empty
  | '+' :: rest => readMagnitude limit .tooLarge rest
  | chars => readMagnitude limit .tooLarge chars

/-- A number from `-limit - 1` to `limit`, the range of a signed word. -/
def readInt (limit : Nat) (text : String) : Except IntegerFault Int :=
  match text.toList with
  | [] => .error .empty
  | '+' :: rest => (readMagnitude limit .tooLarge rest).map Int.ofNat
  | '-' :: rest => (readMagnitude (limit + 1) .tooSmall rest).map fun n => -Int.ofNat n
  | chars => (readMagnitude limit .tooLarge chars).map Int.ofNat

/-! ## 3. Writing -/

/-- The digits of a number, without leading zeros. -/
def decimal (n : Nat) : List Char := Nat.toDigits 10 n

/-- A number with its sign, if it is negative. -/
def decimalInt : Int → List Char
  | .ofNat n => decimal n
  | .negSucc n => '-' :: decimal (n + 1)

/-- The digits of a number, with leading zeros up to `width` digits. -/
def padded (width n : Nat) : List Char :=
  List.replicate (width - (decimal n).length) '0' ++ decimal n

end ControlPlane.Text
