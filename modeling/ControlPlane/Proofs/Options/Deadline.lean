import ControlPlane.CallOptions
import ControlPlane.Proofs.Text.Decimal

/-!
# What is left of a deadline when it is written

A deadline is written in the finest unit that takes eight digits at most, and what is below the unit
is lost.

* `fit_eq_some`, `fit_eq_none` -- the unit that is chosen, and when there is none;
* `Deadline.limit`, `write_eq_none_iff` -- **the spans that cannot be written are those from
  `10 ^ 8` hours on**;
* `Deadline.kept`, `kept_of_write` -- the span that is read back from what was written: **never more
  than the span, and less by less than a unit**;
* `Counted`, `States` -- a span counted in the finest unit, and the texts that state a span, apart
  from writing and reading;
* `counted_of_write`, `read_eq_some_iff` -- **what is written and what is read are these.**
-/

namespace ControlPlane.Deadline

open Text

/-! ## 1. The unit -/

/-- **The unit that fits is the finest one** of which the span counts few enough, and the count is
    that of whole units. -/
theorem fit_eq_some {nanos count : Nat} {letter : Char} {available : List (Char × Nat)}
    (ascending : available.Pairwise fun finer coarser => finer.2 < coarser.2)
    (h : fit nanos available = some (count, letter)) :
    ∃ unit, (letter, unit) ∈ available ∧ count = nanos / unit ∧ count ≤ maxCount ∧
      ∀ u ∈ available, u.2 < unit → maxCount < nanos / u.2 := by
  induction available with
  | nil => cases h
  | cons first rest ih =>
    obtain ⟨letter', finest⟩ := first
    obtain ⟨longer, ascending⟩ := List.pairwise_cons.mp ascending
    rw [fit] at h
    split at h
    · rename_i fits
      cases h
      refine ⟨finest, List.mem_cons_self, rfl, fits, fun u hu shorter => ?_⟩
      rcases List.mem_cons.mp hu with rfl | hu
      · exact absurd shorter (Nat.lt_irrefl _)
      · exact absurd shorter (Nat.not_lt.mpr (Nat.le_of_lt (longer u hu)))
    · rename_i exceeds
      obtain ⟨unit, member, whole, few, finer⟩ := ih ascending h
      refine ⟨unit, List.mem_cons_of_mem _ member, whole, few, fun u hu shorter => ?_⟩
      rcases List.mem_cons.mp hu with rfl | hu
      · exact Nat.lt_of_not_le exceeds
      · exact finer u hu shorter

theorem units_ascending : units.Pairwise fun finer coarser => finer.2 < coarser.2 := by
  unfold units
  decide

/-- No unit fits if the span counts too many of each. -/
theorem fit_eq_none {nanos : Nat} {available : List (Char × Nat)} :
    fit nanos available = none ↔ ∀ u ∈ available, maxCount < nanos / u.2 := by
  induction available with
  | nil => simp [fit]
  | cons first rest ih =>
    obtain ⟨letter, unit⟩ := first
    rw [fit, List.forall_mem_cons]
    by_cases fits : nanos / unit ≤ maxCount
    · rw [if_pos fits]
      exact ⟨fun h => (Option.some_ne_none _ h).elim, fun h => absurd h.1 (Nat.not_lt.mpr fits)⟩
    · rw [if_neg fits, ih]
      exact ⟨fun h => ⟨Nat.lt_of_not_le fits, h⟩, And.right⟩

/-! ## 2. Spans that cannot be written -/

/-- The longest unit is an hour. -/
theorem unit_bounds {u : Char × Nat} (h : u ∈ units) : 0 < u.2 ∧ u.2 ≤ 3600000000000 := by
  simp only [units, List.mem_cons, List.not_mem_nil, or_false] at h
  rcases h with rfl | rfl | rfl | rfl | rfl | rfl <;> omega

/-- The first span that cannot be written, in nanoseconds: `10 ^ 8` hours. -/
def limit : Nat := (maxCount + 1) * 3600000000000

/-- **From the limit on a span cannot be written**, and only from there on. -/
theorem write_eq_none_iff {d : Duration} : write d = none ↔ limit ≤ d.nanos := by
  rw [write, Option.map_eq_none_iff, fit_eq_none]
  constructor
  · intro exceeds
    have hour : ('H', 3600000000000) ∈ units := by simp [units]
    have hours : maxCount < d.nanos / 3600000000000 := exceeds _ hour
    exact (Nat.le_div_iff_mul_le (unit_bounds hour).1).mp hours
  · intro long u hu
    obtain ⟨positive, short⟩ := unit_bounds hu
    exact (Nat.le_div_iff_mul_le positive).mpr
      (Nat.le_trans (Nat.mul_le_mul_left _ short) long)

/-! ## 3. What is read back -/

/-- The letters of the units are different. -/
theorem lookup_unit {letter : Char} {unit : Nat} (h : (letter, unit) ∈ units) :
    units.lookup letter = some unit := by
  simp only [units, List.mem_cons, List.not_mem_nil, or_false, Prod.mk.injEq] at h
  rcases h with ⟨rfl, rfl⟩ | ⟨rfl, rfl⟩ | ⟨rfl, rfl⟩ | ⟨rfl, rfl⟩ | ⟨rfl, rfl⟩ | ⟨rfl, rfl⟩ <;> rfl

/-- A count with the letter of its unit is read as so many units. -/
theorem read_counted {letter : Char} {unit count : Nat} (known : (letter, unit) ∈ units)
    (few : count ≤ maxCount) :
    read (String.ofList (decimal count ++ [letter])) = some ⟨count * unit⟩ := by
  have digits : (decimal count).length ≤ 8 :=
    (Nat.length_toDigits_le_iff (by decide) (by decide)).mpr (Nat.lt_succ_of_le few)
  have word : count ≤ maxWord64 := Nat.le_trans few (by decide)
  rw [read, String.toList_ofList, List.reverse_append, List.reverse_singleton,
    List.singleton_append]
  simp only [lookup_unit known, List.length_reverse, List.reverse_reverse, readNat_decimal word,
    if_neg (Nat.not_lt.mpr digits)]

/-- The span that is left of a span when it is written. -/
def kept (d : Duration) : Option Duration := (write d).bind read

/-- **What is written is read back**, as the span without its part of a unit. -/
theorem kept_of_write {d : Duration} {text : String} (h : write d = some text) :
    ∃ w unit, kept d = some w ∧ read text = some w ∧ w.nanos ≤ d.nanos ∧
      d.nanos < w.nanos + unit ∧ ∃ letter, (letter, unit) ∈ units := by
  have written := h
  rw [write, Option.map_eq_some_iff] at h
  obtain ⟨⟨count, letter⟩, fits, rfl⟩ := h
  obtain ⟨unit, known, rfl, few, _⟩ := fit_eq_some units_ascending fits
  have positive : 0 < unit := (unit_bounds known).1
  have back := read_counted known few
  refine ⟨⟨d.nanos / unit * unit⟩, unit, ?_, back, Nat.div_mul_le_self _ _, ?_, letter, known⟩
  · rw [kept, written, Option.bind_some]
    exact back
  · exact Nat.lt_div_mul_add positive

/-! ## 4. Spans that are counted, texts that state one -/

/-- **A span counted for the wire**: in the finest unit of which it has at most eight digits, from
    nanoseconds to hours. What is below the unit is lost. -/
def Counted (d w : Duration) : Prop :=
  ∃ unit ∈ [1, 1000, 1000000, 1000000000, 60000000000, 3600000000000],
    d.nanos / unit ≤ 99999999 ∧
    (∀ finer ∈ [1, 1000, 1000000, 1000000000, 60000000000, 3600000000000], finer < unit →
      99999999 < d.nanos / finer) ∧
    w.nanos = d.nanos / unit * unit

/-- **A text that states a span**: at most eight digits, of which a plus sign takes the place of
    one, and the letter of a unit. -/
def States (text : String) (w : Duration) : Prop :=
  ∃ sign digits letter unit, text.toList = sign ++ digits ++ [letter] ∧
    (sign = [] ∨ sign = ['+']) ∧ digits ≠ [] ∧ (∀ c ∈ digits, c.isDigit = true) ∧
    (sign ++ digits).length ≤ 8 ∧
    (letter, unit) ∈ [('n', 1), ('u', 1000), ('m', 1000000), ('S', 1000000000),
      ('M', 60000000000), ('H', 3600000000000)] ∧
    w.nanos = Nat.ofDigitChars 10 digits 0 * unit

/-- A span is counted in one way. -/
theorem Counted.unique {d w v : Duration} (h : Counted d w) (k : Counted d v) : v = w := by
  obtain ⟨unit, member, few, finer, hw⟩ := h
  obtain ⟨unit', member', few', finer', hv⟩ := k
  have same : unit' = unit := by
    rcases Nat.lt_trichotomy unit' unit with less | same | more
    · exact absurd few' (Nat.not_le.mpr (finer unit' member' less))
    · exact same
    · exact absurd few (Nat.not_le.mpr (finer' unit member more))
  subst same
  exact congrArg Duration.mk (hv.trans hw.symm)

/-- **What is written is read back as the span counted.** -/
theorem counted_of_write {d : Duration} {text : String} (h : write d = some text) :
    ∃ w, read text = some w ∧ Counted d w := by
  rw [write, Option.map_eq_some_iff] at h
  obtain ⟨⟨count, letter⟩, fits, rfl⟩ := h
  obtain ⟨unit, known, rfl, few, finer⟩ := fit_eq_some units_ascending fits
  have listed : unit ∈ units.map Prod.snd := List.mem_map_of_mem known
  refine ⟨_, read_counted known few, unit, listed, few, ?_, rfl⟩
  intro shorter member less
  obtain ⟨u, hu, rfl⟩ : ∃ u ∈ units, u.2 = shorter := List.mem_map.mp member
  exact finer u hu less

/-- A letter is looked up among the units. -/
theorem lookup_unit_iff {letter : Char} {unit : Nat} :
    units.lookup letter = some unit ↔ (letter, unit) ∈ units := by
  refine ⟨fun h => ?_, lookup_unit⟩
  obtain ⟨before, after, split, _⟩ := List.lookup_eq_some_iff.mp h
  rw [split]
  exact List.mem_append_right before List.mem_cons_self

/-- **The texts that are read are those that state a span**, and they are read as that span. -/
theorem read_eq_some_iff {text : String} {w : Duration} :
    read text = some w ↔ States text w := by
  constructor
  · intro h
    rw [read] at h
    split at h
    · cases h
    · rename_i letter reversed split
      have chars : text.toList = reversed.reverse ++ [letter] := by
        rw [← List.reverse_reverse text.toList, split, List.reverse_cons]
      split at h
      · cases h
      · rename_i unit known
        split at h
        · cases h
        · rename_i short
          split at h
          · cases h
          · rename_i count number
            cases h
            obtain ⟨sign, digits, split, signed, some, digit, rfl, _⟩ :=
              readNat_eq_ok_iff.mp number
            rw [String.toList_ofList] at split
            refine ⟨sign, digits, letter, unit, ?_, signed, some, digit, ?_,
              lookup_unit_iff.mp known, rfl⟩
            · rw [chars, split]
            · rw [← split, List.length_reverse]
              exact Nat.le_of_not_lt short
  · intro states
    obtain ⟨sign, digits, letter, unit, split, signed, some, digit, short, known, value⟩ := states
    have few : Nat.ofDigitChars 10 digits 0 ≤ maxWord64 := by
      have less := ofDigitChars_lt digit 0
      have length : digits.length ≤ 8 := by
        rw [List.length_append] at short
        omega
      have most : 10 ^ digits.length ≤ 10 ^ 8 := Nat.pow_le_pow_right (by decide) length
      unfold maxWord64
      omega
    have number : readNat maxWord64 (String.ofList (sign ++ digits)) =
        .ok (Nat.ofDigitChars 10 digits 0) :=
      readNat_eq_ok_iff.mpr
        ⟨sign, digits, String.toList_ofList, signed, some, digit, rfl, few⟩
    rw [read, split, List.reverse_append, List.reverse_singleton, List.singleton_append]
    simp only [lookup_unit_iff.mpr known, List.length_reverse, if_neg (Nat.not_lt.mpr short),
      List.reverse_reverse, number, ← value]

end ControlPlane.Deadline
