/-!
# Rounding to the nearest, ties to even, and the 64-bit binary fractions

* `roundQuotient` -- the whole number nearest to a quotient; of two equally near, the even one;
* `Binary64` -- a finite value `mantissa * 2 ^ exponent` that is not negative;
* `Binary64.nearest` -- the 64-bit binary fraction nearest to a quotient: 53 significant bits, no
  bit below `2 ^ -1074`, and nothing from `2 ^ 1024` on;
* `Binary64.sum`, `Binary64.part` -- the binary fractions nearest to a sum and to a part of a value.

Everything is exact arithmetic on natural numbers.
-/

namespace ControlPlane

/-- The whole number nearest to `num / den`; a tie goes to the even neighbour. -/
def roundQuotient (num den : Nat) : Nat :=
  let q := num / den
  let r := num % den
  if 2 * r < den then q
  else if den < 2 * r then q + 1
  else if q % 2 = 0 then q
  else q + 1

/-- The value `mantissa * 2 ^ exponent`. -/
structure Binary64 where
  mantissa : Nat
  exponent : Int
  deriving DecidableEq, Repr

namespace Binary64

/-- The value as a quotient of natural numbers. -/
def quotient (x : Binary64) : Nat × Nat :=
  (x.mantissa * Nat.pow 2 x.exponent.toNat, Nat.pow 2 (-x.exponent).toNat)

/-- The exponent of the last bit that a value near `num / den` keeps. -/
def lastBit (num den : Nat) : Int :=
  let k : Int := (num.log2 : Int) - (den.log2 : Int)
  let e := if den * Nat.pow 2 k.toNat ≤ num * Nat.pow 2 (-k).toNat then k - 52 else k - 53
  if e < -1074 then -1074 else e

/-- The binary fraction nearest to `num / den`; none if that is `2 ^ 1024` or more. -/
def nearest (num den : Nat) : Option Binary64 :=
  if num = 0 then some ⟨0, 0⟩
  else
    let e := lastBit num den
    let m := roundQuotient (num * Nat.pow 2 (-e).toNat) (den * Nat.pow 2 e.toNat)
    if Nat.pow 2 1024 ≤ m * Nat.pow 2 e.toNat then none else some ⟨m, e⟩

/-- The binary fraction nearest to a sum. -/
def sum (x y : Binary64) : Option Binary64 :=
  let (a, b) := x.quotient
  let (c, d) := y.quotient
  nearest (a * d + c * b) (b * d)

/-- The binary fraction nearest to the `n`th part of a value. -/
def part (n : Nat) (x : Binary64) : Option Binary64 := nearest x.quotient.1 (x.quotient.2 * n)

/-- Whether one value is less than another. -/
def less (x y : Binary64) : Bool := x.quotient.1 * y.quotient.2 < y.quotient.1 * x.quotient.2

/-- The whole number nearest to the value times `factor`. -/
def scaled (factor : Nat) (x : Binary64) : Nat :=
  roundQuotient (x.quotient.1 * factor) x.quotient.2

end Binary64

end ControlPlane
