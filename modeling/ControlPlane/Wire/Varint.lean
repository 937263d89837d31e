/-!
# Varints

Whole numbers below `2 ^ 64` as octets: groups of seven bits, the lowest first, each but the last
with its eighth bit set.

* `varint`, `varintLength` -- the octets of a number, and how many there are;
* `readVarint` -- the number at the start of some octets, and the octets after it; at most ten
  octets are read, and the tenth has one bit only;
* `ofInt64`, `toInt64`, `ofInt32`, `toInt32` -- the numbers that stand for signed ones: their two's
  complement in 64 bits.
-/

namespace ControlPlane.Wire

/-! ## 1. Numbers -/

/-- The groups of a number, `places` at most. -/
def groups : Nat → Nat → List UInt8
  | 0, _ => []
  | places + 1, n =>
    if n < 128 then [UInt8.ofNat n] else UInt8.ofNat (n % 128 + 128) :: groups places (n / 128)

/-- The octets of a number. -/
def varint (n : Nat) : List UInt8 := groups 10 n

/-- How many groups a number has, `places` at most. -/
def groupCount : Nat → Nat → Nat
  | 0, _ => 0
  | places + 1, n => if n < 128 then 1 else groupCount places (n / 128) + 1

/-- How many octets a number takes. -/
def varintLength (n : Nat) : Nat := groupCount 10 n

/-- Reads the groups of a number, `places` at most. -/
def readGroups : Nat → List UInt8 → Option (Nat × List UInt8)
  | 0, _ => none
  | _ + 1, [] => none
  | places + 1, octet :: rest =>
    if octet < 128 then
      if places = 0 ∧ 2 ≤ octet then none else some (octet.toNat, rest)
    else
      match readGroups places rest with
      | none => none
      | some (n, after) => some (octet.toNat - 128 + 128 * n, after)

/-- Reads the number at the start of some octets. -/
def readVarint (octets : List UInt8) : Option (Nat × List UInt8) := readGroups 10 octets

/-! ## 2. Signed numbers -/

/-- The number that stands for a signed one of 64 bits. -/
def ofInt64 (n : Int64) : Nat := n.toUInt64.toNat

/-- The signed number of 64 bits that a number stands for. -/
def toInt64 (n : Nat) : Int64 := (UInt64.ofNat n).toInt64

/-- The number that stands for a signed one of 32 bits, which is widened first. -/
def ofInt32 (n : Int32) : Nat := ofInt64 n.toInt64

/-- The signed number of 32 bits in the low half of a number. -/
def toInt32 (n : Nat) : Int32 := (UInt32.ofNat n).toInt32

end ControlPlane.Wire
