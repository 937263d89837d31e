import Mathlib.Algebra.Ring.Nat
import ControlPlane.Time.Calendar

/-!
# Days and dates

* `daysBeforeYear_succ` -- a year is as long as its months together;
* `yearOfDay_spec` -- **a day lies in its year**;
* `monthOfDay_spec` -- a day of a year lies in one of its months;
* `Date.Valid`, `Date.valid_ofDay` -- **the date of a day is one of the calendar**;
* `Date.dayNumber`, `Date.dayNumber_ofDay` -- **and has the number of the day**;
* `Date.passed`, `Date.passed_eq` -- which is the number of the days before it, counted.
-/

namespace ControlPlane.Calendar

/-! ## 1. Years -/

/-- A year is as long as its months together. -/
theorem daysBeforeYear_succ (year : Int) :
    daysBeforeYear (year + 1) = daysBeforeYear year + (monthLengths year).sum := by
  have length : ((monthLengths year).sum : Int) = if isLeap year then 366 else 365 := by
    rw [monthLengths]
    split <;> rfl
  rw [length, daysBeforeYear, daysBeforeYear]
  by_cases leap : isLeap year = true
  · rw [if_pos leap]
    simp only [isLeap, Bool.and_eq_true, Bool.or_eq_true, beq_iff_eq, bne_iff_ne] at leap
    omega
  · rw [if_neg leap]
    simp only [isLeap, Bool.and_eq_true, Bool.or_eq_true, beq_iff_eq, bne_iff_ne] at leap
    omega

/-- **A day lies in its year**: the mean year is off by one at most. -/
theorem yearOfDay_spec (day : Int) :
    daysBeforeYear (yearOfDay day) ≤ day ∧ day < daysBeforeYear (yearOfDay day + 1) := by
  have early : daysBeforeYear (400 * day / 146097 - 1) ≤ day := by
    rw [daysBeforeYear]
    omega
  have late : day < daysBeforeYear (400 * day / 146097 + 1 + 1) := by
    rw [daysBeforeYear]
    omega
  simp only [yearOfDay]
  split
  · rename_i less
    rw [Int.sub_add_cancel]
    exact ⟨early, less⟩
  · rename_i least
    split
    · rename_i more
      exact ⟨more, late⟩
    · rename_i within
      exact ⟨Int.not_lt.mp least, Int.not_le.mp within⟩

/-- The year of a day lies between the years of two others. -/
theorem yearOfDay_within {day first last : Int} (low : daysBeforeYear first ≤ day)
    (high : day < daysBeforeYear (last + 1)) :
    first ≤ yearOfDay day ∧ yearOfDay day ≤ last := by
  obtain ⟨least, less⟩ := yearOfDay_spec day
  simp only [daysBeforeYear] at low high least less
  omega

/-! ## 2. Months -/

/-- **A day of a year lies in one of its months**, as many days behind the months before it. -/
theorem monthOfDay_spec {lengths : List Nat} (month : Nat) {index : Nat}
    (within : index < lengths.sum) :
    ∃ before length day, lengths[before]? = some length ∧ day < length ∧
      index = (lengths.take before).sum + day ∧
        monthOfDay month lengths index = (month + before, day + 1) := by
  induction lengths generalizing month index with
  | nil => exact absurd within (Nat.not_lt_zero index)
  | cons length rest ih =>
    rw [List.sum_cons] at within
    rw [monthOfDay]
    split
    · rename_i here
      exact ⟨0, length, index, rfl, here, (Nat.zero_add index).symm, rfl⟩
    · have later : index - length < rest.sum := by omega
      obtain ⟨before, long, day, place, small, sum, found⟩ := ih (month + 1) later
      refine ⟨before + 1, long, day, place, small, ?_, ?_⟩
      · rw [List.take_succ_cons, List.sum_cons]
        omega
      · rw [found, Nat.add_right_comm, Nat.add_assoc]

/-! ## 3. Dates -/

namespace Date

/-- **A date of the calendar**: one of twelve months, and a day that the month has in that year. -/
def Valid (d : Date) : Prop :=
  ∃ before length, (monthLengths d.year)[before]? = some length ∧ d.month = before + 1 ∧
    1 ≤ d.day ∧ d.day ≤ length

/-- The number of a date: the days of the years and of the months before it, and those of its
    month. -/
def dayNumber (d : Date) : Int :=
  daysBeforeYear d.year + ((monthLengths d.year).take (d.month - 1)).sum + (d.day - 1)

theorem ofDay_spec (day : Int) :
    (Date.ofDay day).Valid ∧ (Date.ofDay day).dayNumber = day := by
  obtain ⟨least, less⟩ := yearOfDay_spec day
  rw [daysBeforeYear_succ] at less
  have within : (day - daysBeforeYear (yearOfDay day)).toNat <
      (monthLengths (yearOfDay day)).sum := by
    omega
  obtain ⟨before, length, d, place, small, sum, found⟩ := monthOfDay_spec 1 within
  have date : Date.ofDay day = ⟨yearOfDay day, 1 + before, d + 1⟩ := by
    simp only [Date.ofDay, found]
  rw [date]
  refine ⟨⟨before, length, place, Nat.add_comm 1 before, Nat.succ_pos d, small⟩, ?_⟩
  simp only [dayNumber, Nat.add_sub_cancel_left]
  omega

/-- **The date of a day is one of the calendar.** -/
theorem valid_ofDay (day : Int) : (Date.ofDay day).Valid := (ofDay_spec day).1

/-- **The date of a day has the number of the day.** -/
theorem dayNumber_ofDay (day : Int) : (Date.ofDay day).dayNumber = day := (ofDay_spec day).2

/-- A month has two digits, and so has a day. -/
theorem Valid.bounds {d : Date} (valid : d.Valid) : d.month ≤ 12 ∧ d.day ≤ 31 := by
  obtain ⟨before, length, place, month, _, most⟩ := valid
  have twelve : (monthLengths d.year).length = 12 := rfl
  have few : before < 12 := by
    rw [← twelve]
    exact (List.getElem?_eq_some_iff.mp place).1
  have long : length ≤ 31 := by
    have member : length ∈ monthLengths d.year := List.mem_of_getElem? place
    have all : ∀ n ∈ monthLengths d.year, n ≤ 31 := by
      rw [monthLengths]
      split <;> decide
    exact all length member
  omega

/-! ## 4. Counting -/

/-- The days before a date from the start of the year 0 on, counted: those of each year before its
    own, those of each month before its own, and those before it in its month. -/
def passed (d : Date) : Nat :=
  ((List.range d.year.toNat).map fun year : Nat => (monthLengths year).sum).sum +
    ((monthLengths d.year).take (d.month - 1)).sum + (d.day - 1)

/-- The days before a year are those of each year before it. -/
theorem daysBeforeYear_eq_sum (n : Nat) :
    daysBeforeYear n = ((List.range n).map fun year : Nat => (monthLengths year).sum).sum := by
  induction n with
  | zero => rfl
  | succ n ih =>
    rw [List.range_succ, List.map_append, List.sum_append, List.map_singleton,
      List.sum_singleton, Int.natCast_add _ (monthLengths n).sum, ← ih]
    exact daysBeforeYear_succ n

/-- **The number of a date is that of the days before it.** -/
theorem passed_eq {d : Date} (valid : d.Valid) (from_zero : 0 ≤ d.year) :
    (d.passed : Int) = d.dayNumber := by
  obtain ⟨_, _, _, _, first, _⟩ := valid
  have years := daysBeforeYear_eq_sum d.year.toNat
  rw [Int.toNat_of_nonneg from_zero] at years
  rw [passed, dayNumber, years]
  omega

end Date

end ControlPlane.Calendar
