import Mathlib.Algebra.Order.Field.Power
import Mathlib.Data.Rat.Cast.Order
import Mathlib.Tactic.FieldSimp
import Mathlib.Tactic.Linarith
import Mathlib.Tactic.Positivity
import Mathlib.Tactic.Ring
import ControlPlane.Number.Binary64

/-!
# How far rounding moves a number

The arithmetic of `Binary64` is on natural numbers; here it is read as that of the quotients they
stand for:

* `roundQuotient_error`, `roundQuotient_eq` -- a quotient moves by a half at most, and the whole
  number that is nearer than that is the one that is found;
* `lastBit_bounds` -- a quotient has 53 bits from its last bit on, unless that is the last of all;
* `Binary64.nearest_spec` -- **a quotient below `2 ^ 1024` has a nearest binary fraction**, which is
  away from it by half of its last bit at most.
-/

namespace ControlPlane

/-! ## 1. Whole numbers -/

section Quotients

variable {num den : Nat}

/-- A quotient is its whole part and a remainder. -/
theorem quotient_eq (positive : 0 < den) :
    (num : ℚ) / den = (num / den : Nat) + ((num % den : Nat) : ℚ) / den := by
  have nonzero : (den : ℚ) ≠ 0 := Nat.cast_ne_zero.mpr (Nat.ne_of_gt positive)
  have parts : ((den * (num / den) + num % den : Nat) : ℚ) = num := by rw [Nat.div_add_mod]
  rw [Nat.cast_add, Nat.cast_mul] at parts
  field_simp
  linarith

/-- **A quotient moves by a half at most.** -/
theorem roundQuotient_error (positive : 0 < den) :
    |(roundQuotient num den : ℚ) - num / den| ≤ 1 / 2 := by
  have denPos : (0 : ℚ) < den := Nat.cast_pos.mpr positive
  have low : (0 : ℚ) ≤ ((num % den : Nat) : ℚ) / den := by positivity
  have high : ((num % den : Nat) : ℚ) / den ≤ 1 := by
    rw [div_le_one denPos, Nat.cast_le]
    exact (Nat.mod_lt num positive).le
  have down : 2 * (num % den) ≤ den → ((num % den : Nat) : ℚ) / den ≤ 1 / 2 := by
    intro h
    rw [div_le_div_iff₀ denPos (by norm_num)]
    exact_mod_cast (by omega : num % den * 2 ≤ 1 * den)
  have up : den ≤ 2 * (num % den) → (1 : ℚ) / 2 ≤ ((num % den : Nat) : ℚ) / den := by
    intro h
    rw [div_le_div_iff₀ (by norm_num) denPos]
    exact_mod_cast (by omega : 1 * den ≤ num % den * 2)
  rw [quotient_eq positive, roundQuotient, abs_le]
  split
  · rename_i below
    have near := down (by omega)
    constructor <;> linarith
  · split
    · rename_i above
      have near := up (by omega)
      push_cast
      constructor <;> linarith
    · -- a tie, from which both neighbours are equally far
      have lower := down (by omega)
      have upper := up (by omega)
      split
      · constructor <;> linarith
      · push_cast
        constructor <;> linarith

/-- **The whole number that is nearer than a half is the one that is found.** -/
theorem roundQuotient_eq (positive : 0 < den) {n : Nat}
    (near : |(n : ℚ) - num / den| < 1 / 2) : roundQuotient num den = n := by
  have error : |(roundQuotient num den : ℚ) - num / den| ≤ 1 / 2 := roundQuotient_error positive
  rw [abs_le] at error
  rw [abs_lt] at near
  have less : (roundQuotient num den : ℚ) < n + 1 := by linarith
  have more : (n : ℚ) < roundQuotient num den + 1 := by linarith
  have less' : roundQuotient num den < n + 1 := by exact_mod_cast less
  have more' : n < roundQuotient num den + 1 := by exact_mod_cast more
  omega

end Quotients

/-! ## 2. Powers of two -/

/-- A power of two as the two parts that it multiplies a quotient with. -/
theorem two_zpow_eq (e : Int) : (2 : ℚ) ^ e = 2 ^ e.toNat / 2 ^ (-e).toNat := by
  obtain positive | negative := Int.le_total 0 e
  · have none : (-e).toNat = 0 := by omega
    rw [none, pow_zero, div_one, ← zpow_natCast, Int.toNat_of_nonneg positive]
  · have none : e.toNat = 0 := by omega
    have same : ((-e).toNat : Int) = -e := Int.toNat_of_nonneg (by omega)
    rw [none, pow_zero, one_div, ← zpow_natCast, same, zpow_neg, inv_inv]

/-- A number is between two neighbouring powers of two. -/
theorem log2_bounds {n : Nat} (positive : 0 < n) :
    (2 : ℚ) ^ (n.log2 : Int) ≤ n ∧ (n : ℚ) < 2 ^ ((n.log2 : Int) + 1) := by
  have low := Nat.log2_self_le (Nat.ne_of_gt positive)
  have high := Nat.lt_log2_self (n := n)
  constructor
  · rw [zpow_natCast]
    exact_mod_cast low
  · rw [← Nat.cast_succ, zpow_natCast]
    exact_mod_cast high

namespace Binary64

/-! ## 3. Binary fractions -/

/-- The value of a binary fraction. -/
def value (x : Binary64) : ℚ := x.mantissa * 2 ^ x.exponent

/-- Its quotient is its value. -/
theorem quotient_value (x : Binary64) : (x.quotient.1 : ℚ) / x.quotient.2 = x.value := by
  simp only [quotient, value, Nat.cast_mul, Nat.cast_pow, Nat.pow_eq, two_zpow_eq x.exponent]
  push_cast
  ring

theorem quotient_pos (x : Binary64) : 0 < x.quotient.2 := Nat.pow_pos (by decide)

section Nearest

variable {num den : Nat}

/-- The quotient, scaled so that its last bit is one. -/
theorem scaled_quotient (positive : 0 < den) (e : Int) :
    ((num * Nat.pow 2 (-e).toNat : Nat) : ℚ) / (den * Nat.pow 2 e.toNat : Nat) =
      num / den / 2 ^ e := by
  have nonzero : (den : ℚ) ≠ 0 := Nat.cast_ne_zero.mpr (Nat.ne_of_gt positive)
  rw [two_zpow_eq]
  simp only [Nat.cast_mul, Nat.pow_eq, Nat.cast_pow, Nat.cast_ofNat]
  field_simp

/-- The test for the leading bit. -/
theorem leading_iff (positive : 0 < den) (k : Int) :
    den * Nat.pow 2 k.toNat ≤ num * Nat.pow 2 (-k).toNat ↔ (2 : ℚ) ^ k ≤ num / den := by
  have denPos : (0 : ℚ) < den := Nat.cast_pos.mpr positive
  rw [two_zpow_eq, div_le_div_iff₀ (by positivity) denPos, ← Nat.cast_le (α := ℚ)]
  simp only [Nat.cast_mul, Nat.pow_eq, Nat.cast_pow, Nat.cast_ofNat]
  rw [mul_comm (den : ℚ)]

/-- A quotient is within a factor of two of that of the leading bits. -/
theorem leading_bounds (present : 0 < num) (positive : 0 < den) {k : Int}
    (same : (num.log2 : Int) - den.log2 = k) :
    (2 : ℚ) ^ (k - 1) ≤ num / den ∧ (num : ℚ) / den < 2 ^ (k + 1) := by
  have denPos : (0 : ℚ) < den := Nat.cast_pos.mpr positive
  obtain ⟨numLow, numHigh⟩ := log2_bounds present
  obtain ⟨denLow, denHigh⟩ := log2_bounds positive
  constructor
  · rw [le_div_iff₀ denPos]
    calc (2 : ℚ) ^ (k - 1) * den ≤ 2 ^ (k - 1) * 2 ^ ((den.log2 : Int) + 1) := by gcongr
      _ = 2 ^ (num.log2 : Int) := by rw [← zpow_add₀ (by norm_num)]; congr 1; omega
      _ ≤ num := numLow
  · rw [div_lt_iff₀ denPos]
    calc (num : ℚ) < 2 ^ ((num.log2 : Int) + 1) := numHigh
      _ = 2 ^ (k + 1) * 2 ^ (den.log2 : Int) := by
        rw [← zpow_add₀ (by norm_num)]; congr 1; omega
      _ ≤ 2 ^ (k + 1) * den := by gcongr

/-- **A quotient has 53 bits from its last bit on**, unless that is the last bit of all. -/
theorem lastBit_bounds (present : 0 < num) (positive : 0 < den) :
    -1074 ≤ lastBit num den ∧ (num : ℚ) / den < 2 ^ (lastBit num den + 53) ∧
      (lastBit num den = -1074 ∨ (2 : ℚ) ^ (lastBit num den + 52) ≤ num / den) := by
  generalize same : (num.log2 : Int) - den.log2 = k
  obtain ⟨low, high⟩ := leading_bounds present positive same
  -- the last bit of those that are kept, before the end of the range is looked at
  obtain ⟨e, chosen, above, below⟩ : ∃ e : Int,
      lastBit num den = (if e < -1074 then -1074 else e) ∧ (num : ℚ) / den < 2 ^ (e + 53) ∧
        (2 : ℚ) ^ (e + 52) ≤ num / den := by
    have up : k - 52 + 53 = k + 1 ∧ k - 52 + 52 = k := by omega
    have down : k - 53 + 53 = k ∧ k - 53 + 52 = k - 1 := by omega
    by_cases leading : (2 : ℚ) ^ k ≤ num / den
    · refine ⟨k - 52, ?_, ?_, ?_⟩
      · simp only [lastBit, same, if_pos ((leading_iff positive k).mpr leading)]
      · rwa [up.1]
      · rwa [up.2]
    · refine ⟨k - 53, ?_, ?_, ?_⟩
      · simp only [lastBit, same, if_neg (mt (leading_iff positive k).mp leading)]
      · rw [down.1]
        exact lt_of_not_ge leading
      · rwa [down.2]
  rw [chosen]
  split
  · rename_i beyond
    refine ⟨le_refl _, above.trans ?_, .inl rfl⟩
    exact zpow_lt_zpow_right₀ (by norm_num) (by omega)
  · rename_i within
    exact ⟨by omega, above, .inr below⟩

/-- A mantissa of 53 bits and a power of two do not reach a greater one. -/
theorem mantissa_within {m power top : Nat} (bits : m ≤ 2 ^ 53) (room : 53 + power < top) :
    ¬ Nat.pow 2 top ≤ m * Nat.pow 2 power := by
  refine Nat.not_le.mpr ?_
  calc m * 2 ^ power ≤ 2 ^ 53 * 2 ^ power := Nat.mul_le_mul_right _ bits
    _ = 2 ^ (53 + power) := (Nat.pow_add 2 53 power).symm
    _ < 2 ^ top := Nat.pow_lt_pow_right (by decide) room

/-- **A quotient that is not too large has a nearest binary fraction**: its last bit is that of the
    quotient, and it is away from it by half of that bit at most. -/
theorem nearest_spec (present : 0 < num) (positive : 0 < den)
    (small : (num : ℚ) / den < 2 ^ (1023 : Int)) :
    ∃ x, nearest num den = some x ∧ |x.value - num / den| ≤ 2 ^ lastBit num den / 2 := by
  obtain ⟨_, above, below⟩ := lastBit_bounds present positive
  generalize same : lastBit num den = e at *
  generalize rounded : roundQuotient (num * Nat.pow 2 (-e).toNat) (den * Nat.pow 2 e.toNat) = m
  have bit : (0 : ℚ) < 2 ^ e := by positivity
  have error : |(m : ℚ) - num / den / 2 ^ e| ≤ 1 / 2 := by
    rw [← scaled_quotient positive, ← rounded]
    exact roundQuotient_error (Nat.mul_pos positive (Nat.pow_pos (by decide)))
  -- there are 53 bits, and one more if all of them are set and the number is rounded up
  have bits : m ≤ 2 ^ 53 := by
    have scaled : (num : ℚ) / den / 2 ^ e < 2 ^ 53 := by
      rw [div_lt_iff₀ bit, ← zpow_natCast, ← zpow_add₀ (by norm_num), Int.add_comm]
      exact above
    have near := (abs_le.mp error).2
    have less : (m : ℚ) < 2 ^ 53 + 1 := by linarith
    exact Nat.lt_succ_iff.mp (by exact_mod_cast less)
  have room : 53 + e.toNat < 1024 := by
    obtain last | leading := below
    · omega
    · have less := leading.trans_lt small
      rw [zpow_lt_zpow_iff_right₀ (by norm_num)] at less
      omega
  refine ⟨⟨m, e⟩, ?_, ?_⟩
  · unfold nearest
    generalize 1024 = top at room ⊢
    simp only [if_neg (Nat.ne_of_gt present), same, rounded, if_neg (mantissa_within bits room)]
  · calc |(m : ℚ) * 2 ^ e - num / den| = |(m : ℚ) - num / den / 2 ^ e| * 2 ^ e := by
          rw [← abs_of_pos bit, ← abs_mul, abs_of_pos bit, sub_mul, div_mul_cancel₀ _ bit.ne']
      _ ≤ 1 / 2 * 2 ^ e := by gcongr
      _ = 2 ^ e / 2 := by ring

end Nearest

end Binary64

end ControlPlane
