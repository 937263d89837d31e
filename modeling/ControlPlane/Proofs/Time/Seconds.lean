import ControlPlane.CommandLine.Invocation
import ControlPlane.Proofs.Number.Binary64
import ControlPlane.Proofs.Text.Decimal

/-!
# Seconds are read to the nanosecond

A number of seconds is rounded twice, to 53 bits and to nanoseconds. Below `2 ^ 23` seconds the first
rounding moves it by less than half a nanosecond, so that the second one moves it back:

* `Numeral.written`, `Numeral.value` -- digits with a point or none, and the number they denote;
* `Numeral.read_written` -- they are read as that number;
* `Seconds.ofBinary_nearest` -- **a number of nanoseconds is left as it is by both roundings**;
* `readTimeout_written` -- **a timeout with nine places at most is read exactly**.
-/

namespace ControlPlane

open Text

/-! ## 1. Numerals -/

namespace Numeral

/-- Digits, and a point with more digits if there are any. -/
def written (whole places : List Char) : String :=
  String.ofList (whole ++ if places.isEmpty then [] else '.' :: places)

/-- The number that they denote. -/
def value (whole places : List Char) : ℚ :=
  Nat.ofDigitChars 10 whole 0 + Nat.ofDigitChars 10 places 0 / 10 ^ places.length

/-- It is the number that all digits write, less so many powers of ten. -/
theorem value_eq (whole places : List Char) :
    value whole places = (Nat.ofDigitChars 10 (whole ++ places) 0 : ℚ) / 10 ^ places.length := by
  have all : Nat.ofDigitChars 10 (whole ++ places) 0 =
      10 ^ places.length * Nat.ofDigitChars 10 whole 0 + Nat.ofDigitChars 10 places 0 := by
    rw [Nat.ofDigitChars_append, Nat.ofDigitChars_eq_ofDigitChars_zero]
  rw [value, all]
  push_cast
  field_simp

/-- The digits in front of something else are taken. -/
theorem takeDigits_append {cs rest : List Char} (digits : ∀ c ∈ cs, c.isDigit = true)
    (stops : ∀ c ∈ rest.head?, digit? c = none) :
    takeDigits (cs ++ rest) = (cs.map fun c => c.toNat - '0'.toNat, rest) := by
  induction cs with
  | nil =>
    cases rest with
    | nil => rfl
    | cons c rest => simp only [List.nil_append, takeDigits, stops c rfl, List.map_nil]
  | cons c cs ih =>
    rw [List.forall_mem_cons] at digits
    simp only [List.cons_append, takeDigits, digit?_of_isDigit digits.1, ih digits.2, List.map_cons]

/-- So are those that nothing follows. -/
theorem takeDigits_eq {cs : List Char} (digits : ∀ c ∈ cs, c.isDigit = true) :
    takeDigits cs = (cs.map fun c => c.toNat - '0'.toNat, []) := by
  have taken : takeDigits (cs ++ []) = _ := takeDigits_append digits fun _ h => by cases h
  rwa [List.append_nil] at taken

theorem ofDigits_map (cs : List Char) :
    ofDigits (cs.map fun c => c.toNat - '0'.toNat) = Nat.ofDigitChars 10 cs 0 := by
  rw [ofDigits, List.foldl_map]
  rfl

section Written

variable {whole places : List Char}

/-- **The digits are read as one number**, with the places behind the point as a power of ten. -/
theorem readDecimal_written (digits : ∀ c ∈ whole ++ places, c.isDigit = true)
    (present : whole ≠ []) :
    readDecimal (written whole places).toList =
      some (.decimal (Nat.ofDigitChars 10 (whole ++ places) 0) (-(places.length : Int))) := by
  have split := List.forall_mem_append.mp digits
  have nonempty : ((whole ++ places).map fun c => c.toNat - '0'.toNat).isEmpty = false := by
    rw [List.isEmpty_map, List.isEmpty_eq_false_iff]
    exact List.append_ne_nil_of_left_ne_nil present _
  rw [written, String.toList_ofList]
  cases places with
  | nil =>
    rw [List.append_nil] at nonempty
    simp only [List.isEmpty_nil, if_true, List.append_nil, readDecimal, takeDigits_eq split.1,
      nonempty, Bool.false_eq_true, if_false, ofDigits_map, List.length_nil]
  | cons c cs =>
    have point : ∀ d ∈ ('.' :: c :: cs).head?, digit? d = none := by
      rintro d ⟨⟩
      decide
    simp only [List.isEmpty_cons, Bool.false_eq_true, if_false, readDecimal,
      takeDigits_append split.1 point, takeDigits_eq split.2, ← List.map_append, nonempty,
      ofDigits_map, List.length_map]

/-- **The text is read as that number**, without a sign. -/
theorem read_written (digits : ∀ c ∈ whole ++ places, c.isDigit = true) (present : whole ≠ []) :
    read (written whole places) =
      .ok (false, .decimal (Nat.ofDigitChars 10 (whole ++ places) 0) (-(places.length : Int))) := by
  have number := readDecimal_written digits present
  obtain ⟨c, cs, rfl⟩ := List.exists_cons_of_ne_nil present
  have chars : ∃ rest, (written (c :: cs) places).toList = c :: rest := by
    rw [written, String.toList_ofList]
    exact ⟨_, rfl⟩
  obtain ⟨rest, chars⟩ := chars
  have digit : c.isDigit = true := digits c List.mem_cons_self
  have unsigned : c ≠ '+' ∧ c ≠ '-' := by
    constructor <;>
    · rintro rfl
      exact absurd digit (by decide)
  have text : (written (c :: cs) places).isEmpty = false := by
    have nonempty : written (c :: cs) places ≠ "" := by
      intro empty
      rw [empty] at chars
      cases chars
    simpa using nonempty
  rw [chars] at number
  rw [read, chars]
  split
  rename_i negative unsignedChars sign
  split at sign
  · rename_i plus
    exact absurd (List.cons.inj plus).1 unsigned.1
  · rename_i minus
    exact absurd (List.cons.inj minus).1 unsigned.2
  · cases sign
    simp only [text, Bool.false_eq_true, if_false, number]

end Written

end Numeral

/-! ## 2. Seconds -/

namespace Seconds

section Nearest

variable {num den : Nat}

/-- **Below `2 ^ 23` the last bit is worth less than a nanosecond**: the nearest binary fraction is
    away by `2 ^ -31` at most. -/
theorem nearest_below (positive : 0 < den) (below : (num : ℚ) / den < 2 ^ 23) :
    ∃ x, Binary64.nearest num den = some x ∧ |x.value - num / den| ≤ 2 ^ (-31 : Int) := by
  obtain rfl | present := Nat.eq_zero_or_pos num
  · refine ⟨⟨0, 0⟩, rfl, ?_⟩
    rw [Binary64.value, Nat.cast_zero, zero_mul, zero_div, sub_zero, abs_zero]
    positivity
  · have small : (num : ℚ) / den < 2 ^ (1023 : Int) :=
      below.trans_le (zpow_le_zpow_right₀ (by norm_num) (by decide : (23 : Int) ≤ 1023))
    obtain ⟨x, found, error⟩ := Binary64.nearest_spec present positive small
    refine ⟨x, found, error.trans ?_⟩
    have bit : Binary64.lastBit num den ≤ -30 := by
      obtain ⟨_, _, last | leading⟩ := Binary64.lastBit_bounds present positive
      · omega
      · have less : (2 : ℚ) ^ (Binary64.lastBit num den + 52) < 2 ^ (23 : Int) :=
          leading.trans_lt below
        rw [zpow_lt_zpow_iff_right₀ (by norm_num)] at less
        omega
    have power := zpow_le_zpow_right₀ (by norm_num : (1 : ℚ) ≤ 2) bit
    calc (2 : ℚ) ^ Binary64.lastBit num den / 2 ≤ 2 ^ (-30 : Int) / 2 :=
          div_le_div_of_nonneg_right power (by norm_num)
      _ = 2 ^ (-31 : Int) := by norm_num

/-- **A whole number of nanoseconds is left as it is by both roundings.** -/
theorem ofBinary_nearest {nanos : Nat} (positive : 0 < den) (below : (num : ℚ) / den < 2 ^ 23)
    (whole : (nanos : ℚ) = num / den * 10 ^ 9) :
    ∃ x, Binary64.nearest num den = some x ∧ ofBinary x = .ok ⟨nanos⟩ := by
  obtain ⟨x, found, error⟩ := nearest_below positive below
  refine ⟨x, found, ?_⟩
  have denPos : (0 : ℚ) < x.quotient.2 := Nat.cast_pos.mpr x.quotient_pos
  have bounds := abs_le.mp error
  norm_num at bounds
  have fits : ¬ (maxWord64 + 1) * x.quotient.2 ≤ x.quotient.1 := by
    have less : x.value < 2 ^ 64 := by linarith
    rw [← x.quotient_value, div_lt_iff₀ denPos] at less
    exact Nat.not_le.mpr (by exact_mod_cast less)
  have near : |(nanos : ℚ) - (x.quotient.1 * Duration.perSecond : Nat) / x.quotient.2| < 1 / 2 := by
    have value : ((x.quotient.1 * Duration.perSecond : Nat) : ℚ) / x.quotient.2 =
        x.value * 10 ^ 9 := by
      rw [← x.quotient_value, Duration.perSecond]
      push_cast
      ring
    rw [value, whole, abs_lt]
    constructor <;> linarith
  rw [ofBinary, if_neg fits, Binary64.scaled, roundQuotient_eq x.quotient_pos near]

end Nearest

end Seconds

/-! ## 3. Timeouts -/

namespace CommandLine

/-- **A timeout is read exactly**: digits, with a point and nine more at most, that denote less than
    `2 ^ 23` seconds are read as just so many nanoseconds as they denote. -/
theorem readTimeout_written {whole places : List Char}
    (digits : ∀ c ∈ whole ++ places, c.isDigit = true) (present : whole ≠ [])
    (few : places.length ≤ 9) (below : Numeral.value whole places < 2 ^ 23) :
    ∃ d, readTimeout (Numeral.written whole places) = .ok d ∧
      (d.nanos : ℚ) = Numeral.value whole places * 10 ^ 9 := by
  have number := Numeral.value_eq whole places
  generalize all : Nat.ofDigitChars 10 (whole ++ places) 0 = n at number
  have quotient : Seconds.decimalQuotient n (-(places.length : Int)) = (n, 10 ^ places.length) := by
    have none : (-(places.length : Int)).toNat = 0 := by omega
    rw [Seconds.decimalQuotient, none, Int.neg_neg, Int.toNat_natCast]
    exact congrArg (·, 10 ^ places.length) (Nat.mul_one n)
  have value : (n : ℚ) / (10 ^ places.length : Nat) = Numeral.value whole places := by
    rw [number, Nat.cast_pow, Nat.cast_ofNat]
  -- the nanoseconds are the digits, filled up to nine places
  have filled : ((n * 10 ^ (9 - places.length) : Nat) : ℚ) =
      n / (10 ^ places.length : Nat) * 10 ^ 9 := by
    have nine : (10 : ℚ) ^ 9 = 10 ^ (9 - places.length) * 10 ^ places.length := by
      rw [← pow_add, Nat.sub_add_cancel few]
    rw [nine]
    push_cast
    field_simp
  obtain ⟨x, found, read⟩ := Seconds.ofBinary_nearest (Nat.pow_pos (by decide)) (value ▸ below) filled
  refine ⟨_, ?_, filled.trans (by rw [value])⟩
  rw [readTimeout, Seconds.read, Numeral.read_written digits present, all]
  simp only [Seconds.ofNumeral, quotient, found, Bool.false_and, Bool.false_eq_true, if_false, read]

/-- The last timeout below `2 ^ 23` seconds with nine places. -/
theorem readTimeout_written_last :
    Numeral.value "8388607".toList "999999999".toList < 2 ^ 23 ∧
      readTimeout "8388607.999999999" = .ok ⟨8388607999999999⟩ := by
  have digits : ∀ c ∈ "8388607".toList ++ "999999999".toList, c.isDigit = true :=
    List.all_eq_true.mp (by decide)
  have value : Numeral.value "8388607".toList "999999999".toList = 8388607999999999 / 10 ^ 9 := by
    have whole : Nat.ofDigitChars 10 "8388607".toList 0 = 8388607 := by decide
    have places : Nat.ofDigitChars 10 "999999999".toList 0 = 999999999 := by decide
    have length : "999999999".toList.length = 9 := rfl
    rw [Numeral.value, whole, places, length]
    norm_num
  have below : Numeral.value "8388607".toList "999999999".toList < 2 ^ 23 := by
    rw [value]
    norm_num
  obtain ⟨⟨nanos⟩, read, exactly⟩ := readTimeout_written digits (by decide) (by decide) below
  have same : nanos = 8388607999999999 := by
    rw [value, div_mul_cancel₀ _ (by norm_num)] at exactly
    exact_mod_cast exactly
  rw [same] at read
  exact ⟨below, read⟩

/-- From `2 ^ 23` seconds on a nanosecond may be lost or gained. -/
example : readTimeout "8388608.000000001" = .ok ⟨8388608000000002⟩ := by decide +kernel

end CommandLine

end ControlPlane
