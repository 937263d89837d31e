import ControlPlane.Proofs.Text.Decimal
import ControlPlane.Proofs.Time.Calendar
import ControlPlane.Time.Instant

/-!
# Instants are told apart by their text

Inside the years 0 to 9999 each part of the text has a width of its own, so that the text is cut into
its parts in one way only:

* `Instant.Dated` -- an instant of those years; `Instant.dated_ofParts` -- the instants of some seconds;
* `Instant.eq_of_parts` -- the date, the time of day and the fraction are all there is to an instant;
* `Instant.fractionChars_injective` -- the digits of a fraction;
* `Instant.text_injective` -- **instants with the same text are the same.**
-/

namespace ControlPlane.Instant

open Text Calendar

/-! ## 1. Parts -/

/-- **An instant of the years 0 to 9999.** -/
def Dated (i : Instant) : Prop := 0 ≤ i.date.year ∧ i.date.year ≤ 9999

/-- The instants of the years 1 to 9999, by their seconds. -/
theorem dated_ofParts {seconds nanos : Int} (first : -62135596800 ≤ seconds)
    (last : seconds ≤ 253402300799) (positive : 0 ≤ nanos) (subsecond : nanos < 1000000000) :
    (ofParts seconds nanos).Dated := by
  have same : (ofParts seconds nanos).seconds = seconds := by
    simp only [Instant.seconds, ofParts]
    omega
  have low : daysBeforeYear 0 ≤ seconds / 86400 + epochDay := by
    simp only [daysBeforeYear, epochDay]
    omega
  have high : seconds / 86400 + epochDay < daysBeforeYear (9999 + 1) := by
    simp only [daysBeforeYear, epochDay]
    omega
  simp only [Dated, date, same, Date.ofDay]
  exact yearOfDay_within low high

theorem subsecond_lt (i : Instant) : i.subsecond < 1000000000 := by
  rw [subsecond]
  omega

theorem secondOfDay_lt (i : Instant) : i.secondOfDay < 86400 := by
  rw [secondOfDay]
  omega

/-- **The date, the time of day and the fraction are all there is to an instant.** -/
theorem eq_of_parts {i j : Instant} (date : i.date = j.date)
    (second : i.secondOfDay = j.secondOfDay) (fraction : i.subsecond = j.subsecond) : i = j := by
  have day := congrArg Date.dayNumber date
  rw [Instant.date, Instant.date, Date.dayNumber_ofDay, Date.dayNumber_ofDay] at day
  obtain ⟨m⟩ := i
  obtain ⟨n⟩ := j
  simp only [secondOfDay, subsecond, seconds] at day second fraction
  have same : m = n := by omega
  rw [same]

/-! ## 2. Digits -/

theorem yearChars_eq {year : Int} (low : 0 ≤ year) (high : year ≤ 9999) :
    yearChars year = padded 4 year.toNat := by
  rw [yearChars, if_neg (Int.not_lt.mpr high), if_neg (Int.not_lt.mpr low)]

/-- The digits of a fraction: none, or three, six or nine behind a point. -/
theorem fractionChars_cases {n : Nat} (small : n < 1000000000) :
    (n = 0 ∧ fractionChars n = []) ∨
      ∃ width m, (width = 3 ∨ width = 6 ∨ width = 9) ∧ m < 10 ^ width ∧
        n = m * 10 ^ (9 - width) ∧ fractionChars n = '.' :: padded width m := by
  rw [fractionChars]
  split
  · rename_i zero
    exact .inl ⟨zero, rfl⟩
  · split
    · exact .inr ⟨3, n / 1000000, .inl rfl, by omega, by omega, rfl⟩
    · split
      · exact .inr ⟨6, n / 1000, .inr (.inl rfl), by omega, by omega, rfl⟩
      · exact .inr ⟨9, n, .inr (.inr rfl), small, (Nat.mul_one n).symm, rfl⟩

/-- **Fractions with the same digits are the same.** -/
theorem fractionChars_injective {m n : Nat} (hm : m < 1000000000) (hn : n < 1000000000)
    (same : fractionChars m = fractionChars n) : m = n := by
  obtain ⟨rfl, first⟩ | ⟨width, a, known, small, rfl, first⟩ := fractionChars_cases hm
  · obtain ⟨rfl, _⟩ | ⟨width, b, _, _, _, second⟩ := fractionChars_cases hn
    · rfl
    · rw [first, second] at same
      cases same
  · obtain ⟨_, second⟩ | ⟨width', b, known', small', rfl, second⟩ := fractionChars_cases hn
    · rw [first, second] at same
      cases same
    · rw [first, second] at same
      have digits := (List.cons.inj same).2
      have width : width = width' := by
        have length := congrArg List.length digits
        rwa [length_padded (by omega) small, length_padded (by omega) small'] at length
      subst width
      rw [padded_injective digits]

/-! ## 3. Texts -/

/-- Behind two digits and a mark the text goes on in one way only. -/
theorem two_digits {mark : Char} {m n : Nat} {rest others : List Char} (hm : m < 100) (hn : n < 100)
    (same : mark :: (padded 2 m ++ rest) = mark :: (padded 2 n ++ others)) :
    m = n ∧ rest = others :=
  padded_append_inj (by decide) hm hn (List.cons.inj same).2

theorem chars_injective {i j : Instant} (hi : i.Dated) (hj : j.Dated) (same : i.chars = j.chars) :
    i = j := by
  obtain ⟨li, ui⟩ := hi
  obtain ⟨lj, uj⟩ := hj
  obtain ⟨mi, di⟩ : i.date.month ≤ 12 ∧ i.date.day ≤ 31 := (Date.valid_ofDay _).bounds
  obtain ⟨mj, dj⟩ : j.date.month ≤ 12 ∧ j.date.day ≤ 31 := (Date.valid_ofDay _).bounds
  have si := i.secondOfDay_lt
  have sj := j.secondOfDay_lt
  simp only [chars, List.append_assoc, List.cons_append, yearChars_eq li ui, yearChars_eq lj uj]
    at same
  -- the parts are cut off one by one
  obtain ⟨year, same⟩ := padded_append_inj (by decide) (by omega) (by omega) same
  obtain ⟨month, same⟩ := two_digits (by omega) (by omega) same
  obtain ⟨day, same⟩ := two_digits (by omega) (by omega) same
  obtain ⟨hour, same⟩ := two_digits (by omega) (by omega) same
  obtain ⟨minute, same⟩ := two_digits (by omega) (by omega) same
  obtain ⟨second, same⟩ := two_digits (by omega) (by omega) same
  have fraction := fractionChars_injective i.subsecond_lt j.subsecond_lt
    (List.append_cancel_right same)
  have date : i.date = j.date := by
    have years : i.date.year = j.date.year := by omega
    show (⟨i.date.year, i.date.month, i.date.day⟩ : Date) = ⟨j.date.year, j.date.month, j.date.day⟩
    rw [years, month, day]
  exact eq_of_parts date (by omega) fraction

/-- **Instants with the same text are the same.** -/
theorem text_injective {i j : Instant} (hi : i.Dated) (hj : j.Dated) (same : i.text = j.text) :
    i = j :=
  chars_injective hi hj (String.ofList_injective same)

end ControlPlane.Instant
