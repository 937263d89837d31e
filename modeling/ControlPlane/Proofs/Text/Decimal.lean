import Mathlib.Algebra.Group.Nat.Defs
import ControlPlane.Text.Integer

/-!
# Written numbers are read back

* `digit?_of_isDigit` -- the value of an ASCII digit; `decimal_head` -- a number begins with one;
* `readDigits_eq_ok_iff` -- digits are read as the number they denote, if that is within the limit,
  and nothing else is read;
* `readNat_eq_ok_iff` -- **the texts that are read as a number**: digits, perhaps with a plus sign;
* `readNat_decimal`, `readInt_decimalInt` -- **the digits of a number are read as that number**, with
  its sign if it has one;
* `decimal_injective`, `decimalInt_injective` -- numbers that are written alike are the same;
* `padded_injective`, `length_padded` -- leading zeros do not change what digits denote, and give a
  number that is small enough the width that is asked for.
-/

namespace ControlPlane.Text

theorem range_of_isDigit {c : Char} (h : c.isDigit = true) : 48 ≤ c.toNat ∧ c.toNat ≤ 57 := by
  rw [Char.isDigit, Bool.and_eq_true, decide_eq_true_eq, decide_eq_true_eq] at h
  exact h

theorem digit?_of_isDigit {c : Char} (h : c.isDigit = true) :
    digit? c = some (c.toNat - '0'.toNat) := by
  rw [digit?, if_pos (range_of_isDigit h)]
  rfl

/-- What has a value is an ASCII digit. -/
theorem isDigit_of_digit? {c : Char} {d : Nat} (h : digit? c = some d) : c.isDigit = true := by
  unfold digit? at h
  split at h
  · rename_i range
    rw [Char.isDigit, Bool.and_eq_true, decide_eq_true_eq, decide_eq_true_eq]
    exact range
  · cases h

theorem isDigit_of_mem_decimal {n : Nat} {c : Char} (member : c ∈ decimal n) :
    c.isDigit = true :=
  Nat.isDigit_of_mem_toDigits (by decide) (by decide) member

/-- More digits make no smaller number. -/
theorem le_ofDigitChars (cs : List Char) (acc : Nat) : acc ≤ Nat.ofDigitChars 10 cs acc := by
  induction cs generalizing acc with
  | nil => exact Nat.le_refl acc
  | cons c cs ih =>
    rw [Nat.ofDigitChars_cons]
    have := ih (10 * acc + (c.toNat - '0'.toNat))
    omega

/-- Digits denote less than the power of ten of their number. -/
theorem ofDigitChars_lt {cs : List Char} (digits : ∀ c ∈ cs, c.isDigit = true) (acc : Nat) :
    Nat.ofDigitChars 10 cs acc < (acc + 1) * 10 ^ cs.length := by
  induction cs generalizing acc with
  | nil => exact Nat.lt_of_lt_of_eq (Nat.lt_succ_self acc) (Nat.mul_one _).symm
  | cons c cs ih =>
    obtain ⟨digit, others⟩ := List.forall_mem_cons.mp digits
    obtain ⟨_, high⟩ := range_of_isDigit digit
    have value : '0'.toNat = 48 := rfl
    have less : 10 * acc + (c.toNat - '0'.toNat) + 1 ≤ (acc + 1) * 10 := by omega
    rw [Nat.ofDigitChars_cons, List.length_cons, Nat.pow_succ', ← Nat.mul_assoc]
    exact Nat.lt_of_lt_of_le (ih others _) (Nat.mul_le_mul_right _ less)

/-- **Digits are read as the number they denote**, and nothing else is read. The limit is never
    passed on the way to a number within it. -/
theorem readDigits_eq_ok_iff {limit : Nat} {beyond : IntegerFault} {cs : List Char} {acc n : Nat}
    (small : acc ≤ limit) :
    readDigits limit beyond acc cs = .ok n ↔
      (∀ c ∈ cs, c.isDigit = true) ∧ Nat.ofDigitChars 10 cs acc = n ∧ n ≤ limit := by
  induction cs generalizing acc with
  | nil =>
    rw [readDigits, Except.ok.injEq, Nat.ofDigitChars_nil]
    constructor
    · intro same
      exact ⟨fun _ member => (by cases member), same, same ▸ small⟩
    · exact fun h => h.2.1
  | cons c cs ih =>
    rw [List.forall_mem_cons, Nat.ofDigitChars_cons, readDigits]
    cases value : digit? c with
    | none =>
      refine ⟨fun h => (by cases h), fun ⟨⟨digit, _⟩, _⟩ => ?_⟩
      rw [digit?_of_isDigit digit] at value
      cases value
    | some d =>
      have digit := isDigit_of_digit? value
      rw [digit?_of_isDigit digit, Option.some.injEq] at value
      subst value
      rw [Nat.mul_comm acc]
      simp only
      split
      · rename_i within
        rw [ih within]
        simp only [digit, true_and]
      · rename_i exceeds
        refine ⟨fun h => (by cases h), fun ⟨_, same, within⟩ => ?_⟩
        exact absurd (Nat.le_trans (same ▸ le_ofDigitChars cs _) within) exceeds

/-- A number without its sign. -/
theorem readMagnitude_eq_ok_iff {limit n : Nat} {beyond : IntegerFault} {cs : List Char} :
    readMagnitude limit beyond cs = .ok n ↔
      cs ≠ [] ∧ (∀ c ∈ cs, c.isDigit = true) ∧ Nat.ofDigitChars 10 cs 0 = n ∧ n ≤ limit := by
  cases cs with
  | nil => exact ⟨fun h => (by cases h), fun h => absurd rfl h.1⟩
  | cons c cs =>
    rw [readMagnitude, readDigits_eq_ok_iff (Nat.zero_le limit)]
    exact ⟨fun h => ⟨List.cons_ne_nil c cs, h⟩, And.right⟩

/-- **The texts that are read as a number** are digits, perhaps with a plus sign, of a number within
    the limit. -/
theorem readNat_eq_ok_iff {limit n : Nat} {text : String} :
    readNat limit text = .ok n ↔
      ∃ sign digits, text.toList = sign ++ digits ∧ (sign = [] ∨ sign = ['+']) ∧ digits ≠ [] ∧
        (∀ c ∈ digits, c.isDigit = true) ∧ Nat.ofDigitChars 10 digits 0 = n ∧ n ≤ limit := by
  unfold readNat
  split
  · rename_i empty
    refine ⟨fun h => (by cases h), fun ⟨_, digits, split, _, present, _⟩ => ?_⟩
    exact absurd (List.append_eq_nil_iff.mp (split.symm.trans empty)).2 present
  · rename_i rest signed
    rw [readMagnitude_eq_ok_iff, signed]
    constructor
    · exact fun read => ⟨['+'], rest, rfl, .inr rfl, read⟩
    · intro spelled
      obtain ⟨sign, digits, split, rfl | rfl, read⟩ := spelled
      · -- a plus sign is no digit
        have digit := read.2.1 '+' (by rw [← List.nil_append digits, ← split]; exact .head _)
        cases digit
      · cases split
        exact read
  · rename_i _ unsigned
    rw [readMagnitude_eq_ok_iff]
    constructor
    · exact fun read => ⟨[], _, rfl, .inl rfl, read⟩
    · intro spelled
      obtain ⟨sign, digits, split, rfl | rfl, read⟩ := spelled
      · rw [split]
        exact read
      · exact (unsigned _ split).elim

/-- The digits of a number begin with one, and denote it. -/
theorem readMagnitude_decimal {limit n : Nat} (beyond : IntegerFault) (h : n ≤ limit) :
    readMagnitude limit beyond (decimal n) = .ok n := by
  have digits : ∀ c ∈ decimal n, c.isDigit = true := fun _ => isDigit_of_mem_decimal
  have value : Nat.ofDigitChars 10 (decimal n) 0 = n := Nat.ofDigitChars_ten_toDigits
  exact readMagnitude_eq_ok_iff.mpr ⟨Nat.toDigits_ne_nil, digits, value, h⟩

/-- The digits of a number begin with one. -/
theorem decimal_head (n : Nat) : ∃ c cs, decimal n = c :: cs ∧ c.isDigit = true := by
  cases hd : decimal n with
  | nil => exact absurd hd Nat.toDigits_ne_nil
  | cons c cs => exact ⟨c, cs, rfl, isDigit_of_mem_decimal (hd ▸ List.mem_cons_self)⟩

/-- They begin with no sign. -/
theorem decimal_eq_cons (n : Nat) : ∃ c cs, decimal n = c :: cs ∧ c ≠ '+' ∧ c ≠ '-' := by
  obtain ⟨c, cs, hd, digit⟩ := decimal_head n
  refine ⟨c, cs, hd, ?_, ?_⟩
  · rintro rfl
    exact absurd digit (by decide)
  · rintro rfl
    exact absurd digit (by decide)

/-- **The digits of a number are read as that number.** -/
theorem readNat_decimal {limit n : Nat} (h : n ≤ limit) :
    readNat limit (String.ofList (decimal n)) = .ok n := by
  have read := readMagnitude_decimal .tooLarge h
  exact readNat_eq_ok_iff.mpr
    ⟨[], decimal n, String.toList_ofList, .inl rfl, readMagnitude_eq_ok_iff.mp read⟩

/-- **A number with its sign is read as that number**, if it is in the range of a signed word. -/
theorem readInt_decimalInt {limit : Nat} {n : Int} (low : -(limit + 1 : Int) ≤ n)
    (high : n ≤ limit) : readInt limit (String.ofList (decimalInt n)) = .ok n := by
  rw [readInt, String.toList_ofList]
  cases n with
  | ofNat n =>
    have within : n ≤ limit := Int.ofNat_le.mp high
    have read := readMagnitude_decimal .tooLarge within
    obtain ⟨c, cs, hd, plus, minus⟩ := decimal_eq_cons n
    rw [hd] at read
    rw [decimalInt, hd]
    split
    · rename_i hnil
      cases hnil
    · rename_i hplus
      exact absurd (List.cons.inj hplus).1 plus
    · rename_i hminus
      exact absurd (List.cons.inj hminus).1 minus
    · rw [read]
      rfl
  | negSucc n =>
    have within : n + 1 ≤ limit + 1 := by omega
    have read := readMagnitude_decimal .tooSmall within
    rw [decimalInt]
    simp only [read]
    rfl

/-- **Numbers that are written alike are the same.** -/
theorem decimalInt_injective {m n : Int} (same : decimalInt m = decimalInt n) : m = n := by
  have first : readInt (m.natAbs + n.natAbs) (String.ofList (decimalInt m)) = .ok m :=
    readInt_decimalInt (by omega) (by omega)
  have second : readInt (m.natAbs + n.natAbs) (String.ofList (decimalInt n)) = .ok n :=
    readInt_decimalInt (by omega) (by omega)
  rw [same, second] at first
  exact (Except.ok.inj first).symm

theorem decimal_injective {m n : Nat} (same : decimal m = decimal n) : m = n := by
  rw [← @Nat.ofDigitChars_ten_toDigits m, ← decimal, same]
  exact Nat.ofDigitChars_ten_toDigits

/-- Leading zeros do not change what digits denote. -/
theorem ofDigitChars_padded (width n : Nat) : Nat.ofDigitChars 10 (padded width n) 0 = n := by
  rw [padded, Nat.ofDigitChars_append, Nat.ofDigitChars_replicate_zero, Nat.mul_zero]
  exact Nat.ofDigitChars_ten_toDigits

/-- **So that numbers with the same digits are the same.** -/
theorem padded_injective {width m n : Nat} (same : padded width m = padded width n) : m = n := by
  rw [← ofDigitChars_padded width m, same, ofDigitChars_padded]

/-- A number that is small enough has the digits of the width. -/
theorem length_padded {width n : Nat} (positive : 0 < width) (small : n < 10 ^ width) :
    (padded width n).length = width := by
  have few : (decimal n).length ≤ width :=
    (Nat.length_toDigits_le_iff (by decide) positive).mpr small
  rw [padded, List.length_append, List.length_replicate]
  exact Nat.sub_add_cancel few

/-- Behind a number of a fixed width the text goes on in one way only. -/
theorem padded_append_inj {width m n : Nat} {rest others : List Char} (positive : 0 < width)
    (hm : m < 10 ^ width) (hn : n < 10 ^ width)
    (same : padded width m ++ rest = padded width n ++ others) : m = n ∧ rest = others := by
  have length : (padded width m).length = (padded width n).length := by
    rw [length_padded positive hm, length_padded positive hn]
  obtain ⟨digits, left⟩ := List.append_inj same length
  exact ⟨padded_injective digits, left⟩

end ControlPlane.Text
