import ControlPlane.Proofs.Wire.Bounds
import ControlPlane.Proofs.Wire.Scalar

/-!
# The records of the wire format

What a record is, apart from any reader and any schema:

* `IsVarint` -- the octets of a number; there may be more groups of them than it needs;
* `IsKey` -- those of a key, and `Content` -- what follows it, by its wire type;
* `Record` -- **a key and the content that its wire type asks for**;
* `readNumber_eq_ok_iff`, `readKey_eq_ok_iff`, `readCounted_eq_ok_iff` -- the readers take exactly
  these, and leave what follows;
* `Content.unique` -- octets begin with one content of a wire type at most.
-/

namespace ControlPlane.Wire

open Text

/-! ## 1. Numbers -/

/-- Groups of seven bits, the lowest first, each but the last with its eighth bit set. -/
inductive Grouped : List UInt8 → Nat → Prop where
  | last {octet : UInt8} (low : octet < 128) : Grouped [octet] octet.toNat
  | more {octet : UInt8} {octets : List UInt8} {n : Nat} (high : ¬ octet < 128)
      (others : Grouped octets n) : Grouped (octet :: octets) (octet.toNat - 128 + 128 * n)

/-- **The octets of a number** of 64 bits, ten at most. -/
structure IsVarint (octets : List UInt8) (n : Nat) : Prop where
  grouped : Grouped octets n
  short : octets.length ≤ 10
  word : n < 2 ^ 64

/-- **Groups that are not too many are read up to the last of them**, whatever follows. -/
theorem Grouped.read {places n : Nat} {written : List UInt8} (grouped : Grouped written n)
    (short : written.length ≤ places + 1) (word : n < 2 * 128 ^ places) (rest : List UInt8) :
    readGroups (places + 1) (written ++ rest) = some (n, rest) := by
  induction grouped generalizing places with
  | @last octet low =>
    have bit : ¬ (places = 0 ∧ 2 ≤ octet) := by
      rintro ⟨rfl, high⟩
      have two : 2 ≤ octet.toNat := UInt8.le_iff_toNat_le.mp high
      omega
    rw [List.singleton_append, readGroups, if_pos low, if_neg bit]
  | @more octet octets n high others ih =>
    cases places with
    | zero =>
      cases others with
      | last | more => exact absurd (Nat.le_of_succ_le_succ short) (Nat.not_succ_le_zero _)
    | succ places =>
      rw [Nat.pow_succ] at word
      have later := ih (Nat.le_of_succ_le_succ short) (by omega)
      rw [List.cons_append, readGroups, if_neg high, later]

/-- Nothing else is read. -/
theorem grouped_of_readGroups {places n : Nat} {octets rest : List UInt8}
    (accepted : readGroups (places + 1) octets = some (n, rest)) :
    ∃ written, octets = written ++ rest ∧ Grouped written n ∧ written.length ≤ places + 1 := by
  induction places generalizing octets n with
  | zero =>
    cases octets with
    | nil => cases accepted
    | cons octet others =>
      rw [readGroups] at accepted
      split at accepted
      · rename_i low
        split at accepted
        · cases accepted
        · cases accepted
          exact ⟨[octet], rfl, .last low, Nat.le_refl 1⟩
      · cases accepted
  | succ places ih =>
    cases octets with
    | nil => cases accepted
    | cons octet others =>
      rw [readGroups] at accepted
      split at accepted
      · rename_i low
        rw [if_neg fun h => Nat.succ_ne_zero places h.1] at accepted
        cases accepted
        exact ⟨[octet], rfl, .last low, Nat.le_add_left 1 _⟩
      · rename_i high
        cases later : readGroups (places + 1) others with
        | none => simp only [later, reduceCtorEq] at accepted
        | some reading =>
          obtain ⟨m, after⟩ := reading
          simp only [later, Option.some.injEq, Prod.mk.injEq] at accepted
          obtain ⟨rfl, rfl⟩ := accepted
          obtain ⟨written, rfl, grouped, short⟩ := ih later
          exact ⟨octet :: written, rfl, .more high grouped, Nat.succ_le_succ short⟩

/-- **A number is read exactly where its octets come first.** -/
theorem readNumber_eq_ok_iff {octets rest : List UInt8} {n : Nat} :
    readNumber octets = .ok (n, rest) ↔ ∃ written, octets = written ++ rest ∧ IsVarint written n := by
  have same : readNumber octets = .ok (n, rest) ↔ readVarint octets = some (n, rest) := by
    rw [readNumber]
    cases readVarint octets with
    | none => simp only [reduceCtorEq]
    | some reading => simp only [Except.ok.injEq, Option.some.injEq]
  rw [same]
  constructor
  · intro accepted
    obtain ⟨written, split, grouped, short⟩ := grouped_of_readGroups accepted
    exact ⟨written, split, grouped, short, (readVarint_bound accepted).1⟩
  · rintro ⟨written, rfl, grouped, short, word⟩
    exact grouped.read short (by omega) rest

/-! ## 2. Keys -/

/-- **The octets of a key**: the number of a field and a wire type. -/
def IsKey (octets : List UInt8) (number : Nat) (type : WireType) : Prop :=
  0 < number ∧ number < 2 ^ 29 ∧ IsVarint octets (8 * number + type.number)

theorem IsVarint.length_pos {octets : List UInt8} {n : Nat} (h : IsVarint octets n) :
    0 < octets.length := by
  cases h.grouped <;> exact Nat.succ_pos _

theorem IsKey.length_pos {octets : List UInt8} {number : Nat} {type : WireType}
    (h : IsKey octets number type) : 0 < octets.length := h.2.2.length_pos

/-- A wire type has one number. -/
theorem ofNumber?_eq_some_iff {n : Nat} {type : WireType} :
    WireType.ofNumber? n = some type ↔ n = type.number := by
  constructor
  · intro known
    unfold WireType.ofNumber? at known
    split at known <;> cases known <;> rfl
  · rintro rfl
    exact ofNumber?_number type

/-- **A key is read exactly where its octets come first.** -/
theorem readKey_eq_ok_iff {octets rest : List UInt8} {number : Nat} {type : WireType} :
    readKey octets = .ok ((number, type), rest) ↔
      ∃ key, octets = key ++ rest ∧ IsKey key number type := by
  rw [readKey]
  constructor
  · intro accepted
    cases read : readNumber octets with
    | error => simp only [read, reduceCtorEq] at accepted
    | ok reading =>
      obtain ⟨n, after⟩ := reading
      simp only [read] at accepted
      split at accepted
      · cases accepted
      · rename_i word
        split at accepted
        · cases accepted
        · rename_i type' known
          split at accepted
          · cases accepted
          · rename_i positive
            cases accepted
            obtain ⟨key, split, varint⟩ := readNumber_eq_ok_iff.mp read
            have low := ofNumber?_eq_some_iff.mp known
            have whole : 8 * (n / 8) + type.number = n := by omega
            unfold maxWord32 at word
            exact ⟨key, split, by omega, by omega, whole.symm ▸ varint⟩
  · rintro ⟨key, rfl, positive, small, varint⟩
    have form := number_lt type
    have low : (8 * number + type.number) % 8 = type.number := by omega
    have high : (8 * number + type.number) / 8 = number := by omega
    have few : ¬ maxWord32 < 8 * number + type.number := by
      unfold maxWord32
      omega
    rw [readNumber_eq_ok_iff.mpr ⟨key, rfl, varint⟩]
    simp only [if_neg few, low, high, ofNumber?_number, if_neg (Nat.ne_of_gt positive)]

/-! ## 3. Contents -/

/-- **A counted content is read exactly where its count and its octets come first.** -/
theorem readCounted_eq_ok_iff {octets content rest : List UInt8} :
    readCounted octets = .ok (content, rest) ↔
      ∃ count, octets = count ++ content ++ rest ∧ IsVarint count content.length := by
  rw [readCounted]
  constructor
  · intro accepted
    cases read : readNumber octets with
    | error => simp only [read, reduceCtorEq] at accepted
    | ok reading =>
      obtain ⟨n, after⟩ := reading
      simp only [read, readOctets] at accepted
      split at accepted
      · cases accepted
      · rename_i enough
        cases accepted
        obtain ⟨count, rfl, varint⟩ := readNumber_eq_ok_iff.mp read
        have length : (after.take n).length = n := by
          rw [List.length_take]
          omega
        exact ⟨count, by rw [List.append_assoc, List.take_append_drop], length.symm ▸ varint⟩
  · rintro ⟨count, rfl, varint⟩
    have enough : ¬ (content ++ rest).length < content.length := by
      rw [List.length_append]
      omega
    rw [readNumber_eq_ok_iff.mpr ⟨count, List.append_assoc _ _ _, varint⟩]
    simp only [readOctets, if_neg enough, List.take_left, List.drop_left]

/-- **What follows the key of a record**, by its wire type. A group is records up to the key that
    ends it. -/
inductive Content : Nat → WireType → List UInt8 → Prop where
  | varint {number n : Nat} {octets : List UInt8} (value : IsVarint octets n) :
      Content number .varint octets
  | sixtyFourBit {number : Nat} {octets : List UInt8} (length : octets.length = 8) :
      Content number .sixtyFourBit octets
  | thirtyTwoBit {number : Nat} {octets : List UInt8} (length : octets.length = 4) :
      Content number .thirtyTwoBit octets
  | counted {number : Nat} {count content : List UInt8} (length : IsVarint count content.length) :
      Content number .lengthDelimited (count ++ content)
  | endGroup {number : Nat} {key : List UInt8} (last : IsKey key number .endGroup) :
      Content number .startGroup key
  | inGroup {number inner : Nat} {type : WireType} {key content others : List UInt8}
      (first : IsKey key inner type) (record : Content inner type content)
      (group : Content number .startGroup others) :
      Content number .startGroup (key ++ content ++ others)

/-- **A record**: a key and the content that its wire type asks for. -/
inductive Record (number : Nat) : List UInt8 → Prop where
  | mk {type : WireType} {key content : List UInt8} (first : IsKey key number type)
      (value : Content number type content) : Record number (key ++ content)

/-! ## 4. Where they end -/

section Unique

variable {number number' : Nat} {type type' : WireType} {rest rest' : List UInt8}

/-- Octets begin with one number at most. -/
theorem IsVarint.unique {written written' : List UInt8} {n n' : Nat} (h : IsVarint written n)
    (h' : IsVarint written' n') (same : written ++ rest = written' ++ rest') :
    written = written' ∧ n = n' ∧ rest = rest' := by
  have read := readNumber_eq_ok_iff.mpr ⟨written, same.symm, h⟩
  rw [readNumber_eq_ok_iff.mpr ⟨written', rfl, h'⟩] at read
  cases read
  exact ⟨List.append_cancel_right same, rfl, rfl⟩

/-- They begin with one key at most. -/
theorem IsKey.unique {key key' : List UInt8} (h : IsKey key number type)
    (h' : IsKey key' number' type') (same : key ++ rest = key' ++ rest') :
    key = key' ∧ number = number' ∧ type = type' ∧ rest = rest' := by
  have read := readKey_eq_ok_iff.mpr ⟨key, same.symm, h⟩
  rw [readKey_eq_ok_iff.mpr ⟨key', rfl, h'⟩] at read
  cases read
  exact ⟨List.append_cancel_right same, rfl, rfl, rfl⟩

/-- They begin with one counted content at most. -/
theorem counted_unique {count count' content content' : List UInt8}
    (h : IsVarint count content.length) (h' : IsVarint count' content'.length)
    (same : count ++ content ++ rest = count' ++ content' ++ rest') :
    count ++ content = count' ++ content' ∧ rest = rest' := by
  rw [List.append_assoc, List.append_assoc] at same
  obtain ⟨rfl, length, contents⟩ := h.unique h' same
  obtain ⟨rfl, rfl⟩ := List.append_inj contents length
  exact ⟨rfl, rfl⟩

/-- **They begin with one content of a wire type at most.** -/
theorem Content.unique {content content' : List UInt8} (h : Content number type content)
    (h' : Content number type content') (same : content ++ rest = content' ++ rest') :
    content = content' ∧ rest = rest' := by
  induction h generalizing content' rest rest' with
  | varint value =>
    cases h' with
    | varint value' =>
      obtain ⟨rfl, _, rfl⟩ := value.unique value' same
      exact ⟨rfl, rfl⟩
  | sixtyFourBit length =>
    cases h' with
    | sixtyFourBit length' => exact List.append_inj same (length.trans length'.symm)
  | thirtyTwoBit length =>
    cases h' with
    | thirtyTwoBit length' => exact List.append_inj same (length.trans length'.symm)
  | counted length =>
    cases h' with
    | counted length' => exact counted_unique length length' same
  | endGroup last =>
    cases h' with
    | endGroup last' =>
      obtain ⟨rfl, _, _, rfl⟩ := last.unique last' same
      exact ⟨rfl, rfl⟩
    | inGroup first' record' _ =>
      -- the key that ends a group is no key of a record
      rw [List.append_assoc, List.append_assoc] at same
      obtain ⟨_, _, rfl, _⟩ := last.unique first' same
      cases record'
  | inGroup first record _ ihRecord ihGroup =>
    rw [List.append_assoc, List.append_assoc] at same
    cases h' with
    | endGroup last' =>
      obtain ⟨_, _, rfl, _⟩ := first.unique last' same
      cases record
    | inGroup first' record' group' =>
      rw [List.append_assoc, List.append_assoc] at same
      obtain ⟨rfl, rfl, rfl, inside⟩ := first.unique first' same
      obtain ⟨rfl, others⟩ := ihRecord record' inside
      obtain ⟨rfl, rfl⟩ := ihGroup group' others
      exact ⟨rfl, rfl⟩

end Unique

end ControlPlane.Wire
