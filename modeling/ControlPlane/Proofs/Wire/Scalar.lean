import Mathlib.Algebra.Group.Nat.Defs
import ControlPlane.Wire.Decode
import ControlPlane.Wire.Encode

/-!
# Numbers, keys and texts are read back

Whatever octets follow, a reader takes what a writer wrote and leaves the rest:

* `readVarint_varint` -- **a number below `2 ^ 64`**, in its ten groups at most;
* `toInt64_ofInt64`, `toInt32_ofInt32` -- signed numbers from the numbers that stand for them;
* `readKey_fieldKey` -- the key of a field;
* `ofUtf8?_utf8`, `readText_counted` -- a text, alone and with its length before it.
-/

namespace ControlPlane.Wire

open Text

/-! ## 1. Numbers -/

theorem varint_ne_nil (n : Nat) : varint n ≠ [] := by
  rw [varint, groups]
  split
  · exact List.cons_ne_nil _ _
  · exact List.cons_ne_nil _ _

/-- Ten groups hold 64 bits: the last of them has place for one bit. -/
theorem readGroups_groups (places : Nat) {n : Nat} (h : n < 2 * 128 ^ places) (rest : List UInt8) :
    readGroups (places + 1) (groups (places + 1) n ++ rest) = some (n, rest) := by
  induction places generalizing n with
  | zero =>
    have small : n < 128 := by omega
    have value : (UInt8.ofNat n).toNat = n := UInt8.toNat_ofNat_of_lt' (by omega : n < 256)
    have low : UInt8.ofNat n < 128 := UInt8.lt_iff_toNat_lt.mpr (value.symm ▸ small)
    have bit : ¬ 2 ≤ UInt8.ofNat n := fun le => by
      have two : 2 ≤ (UInt8.ofNat n).toNat := UInt8.le_iff_toNat_le.mp le
      omega
    rw [groups, if_pos small, List.singleton_append, readGroups, if_pos low,
      if_neg fun ⟨_, le⟩ => bit le, value]
  | succ places ih =>
    rw [groups]
    by_cases small : n < 128
    · have value : (UInt8.ofNat n).toNat = n := UInt8.toNat_ofNat_of_lt' (by omega : n < 256)
      have low : UInt8.ofNat n < 128 := UInt8.lt_iff_toNat_lt.mpr (value.symm ▸ small)
      rw [if_pos small, List.singleton_append, readGroups, if_pos low,
        if_neg fun ⟨last, _⟩ => Nat.succ_ne_zero places last, value]
    · have value : (UInt8.ofNat (n % 128 + 128)).toNat = n % 128 + 128 :=
        UInt8.toNat_ofNat_of_lt' (by omega : n % 128 + 128 < 256)
      have high : ¬ UInt8.ofNat (n % 128 + 128) < 128 := fun low => by
        have less : (UInt8.ofNat (n % 128 + 128)).toNat < 128 := UInt8.lt_iff_toNat_lt.mp low
        omega
      have others : n / 128 < 2 * 128 ^ places := by
        rw [Nat.div_lt_iff_lt_mul (by decide), Nat.mul_assoc, ← Nat.pow_succ]
        exact h
      have whole : n % 128 + 128 - 128 + 128 * (n / 128) = n := by omega
      rw [if_neg small, List.cons_append, readGroups, if_neg high, ih others, value]
      simp only [whole]

/-- **A number is read back.** -/
theorem readVarint_varint {n : Nat} (h : n < 2 ^ 64) (rest : List UInt8) :
    readVarint (varint n ++ rest) = some (n, rest) :=
  readGroups_groups 9 (by omega) rest

theorem readNumber_varint {n : Nat} (h : n < 2 ^ 64) (rest : List UInt8) :
    readNumber (varint n ++ rest) = .ok (n, rest) := by
  rw [readNumber, readVarint_varint h]

theorem ofInt64_lt (n : Int64) : ofInt64 n < 2 ^ 64 := n.toUInt64.toNat_lt

theorem ofInt32_lt (n : Int32) : ofInt32 n < 2 ^ 64 := ofInt64_lt n.toInt64

theorem toInt64_ofInt64 (n : Int64) : toInt64 (ofInt64 n) = n := by
  rw [toInt64, ofInt64, UInt64.ofNat_toNat, Int64.toInt64_toUInt64]

/-- A number of 32 bits is the low half of what stands for it. -/
theorem toInt32_ofInt32 (n : Int32) : toInt32 (ofInt32 n) = n := by
  apply Int32.toBitVec_inj.mp
  show BitVec.ofNat 32 (BitVec.signExtend 64 n.toBitVec).toNat = n.toBitVec
  rw [BitVec.ofNat_toNat]
  apply BitVec.eq_of_getLsbD_eq
  intro i hi
  simp [BitVec.getLsbD_signExtend, hi]
  omega

/-! ## 2. Keys -/

theorem ofNumber?_number (type : WireType) : WireType.ofNumber? type.number = some type := by
  cases type <;> rfl

theorem number_lt (type : WireType) : type.number < 8 := by
  cases type <;> decide

/-- **A key is read back.** -/
theorem readKey_fieldKey {number : Nat} (positive : 0 < number) (small : number < 2 ^ 29)
    (type : WireType) (rest : List UInt8) :
    readKey (fieldKey number type ++ rest) = .ok ((number, type), rest) := by
  have form := number_lt type
  have low : (8 * number + type.number) % 8 = type.number := by omega
  have high : (8 * number + type.number) / 8 = number := by omega
  have few : ¬ maxWord32 < 8 * number + type.number := by
    unfold maxWord32
    omega
  rw [readKey, fieldKey, readNumber_varint (by omega)]
  simp only [if_neg few, low, high, ofNumber?_number, if_neg (Nat.ne_of_gt positive)]

/-! ## 3. Counted contents -/

theorem readCounted_counted {content : List UInt8} (h : content.length < 2 ^ 64)
    (rest : List UInt8) :
    readCounted (varint content.length ++ content ++ rest) = .ok (content, rest) := by
  have enough : ¬ (content ++ rest).length < content.length := by
    rw [List.length_append]
    omega
  rw [readCounted, List.append_assoc, readNumber_varint h]
  simp only [readOctets, if_neg enough, List.take_left, List.drop_left]

/-- **The octets of a text spell it.** -/
theorem ofUtf8?_utf8 (s : String) : ofUtf8? (utf8 s) = some s := by
  have octets : (⟨(utf8 s).toArray⟩ : ByteArray) = s.toByteArray := rfl
  rw [ofUtf8?, octets, String.fromUTF8?, dif_pos s.isValidUTF8]
  rfl

/-- **A text is read back.** -/
theorem readText_counted {s : String} (h : (utf8 s).length < 2 ^ 64) (rest : List UInt8) :
    readText (varint (utf8 s).length ++ utf8 s ++ rest) = .ok (s, rest) := by
  rw [readText, readCounted_counted h]
  simp only [ofUtf8?_utf8]

end ControlPlane.Wire
