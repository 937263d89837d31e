import ControlPlane.Proofs.Text.Pieces
import ControlPlane.Proofs.Time.Instant

/-!
# The text of an instant is read back

The text of an instant is read here as anyone reads a date and a time of day, and counted from the
start of 1970 by the calendar:

* `Stamp` -- a date, a time of day and a fraction of a second; `Stamp.Valid` -- one that exists;
* `Stamp.read?` -- **the reader**: numbers of a fixed width with their marks between them, and a
  fraction of three, six or nine digits or none;
* `Stamp.seconds`, `Stamp.nanos` -- the time from the start of 1970;
* `Instant.read_chars` -- **the text of an instant of the years 0 to 9999 is read as a stamp that
  exists, has no digit too many, and is that instant.**
-/

namespace ControlPlane

open Text Calendar

/-! ## 1. Stamps -/

/-- A date, a time of day, and the fraction of a second that some digits write. -/
structure Stamp where
  date : Date
  hour : Nat
  minute : Nat
  second : Nat
  /-- How many digits the fraction has. -/
  places : Nat
  /-- The number that they write. -/
  fraction : Nat
  deriving DecidableEq, Repr

namespace Stamp

/-- A day of the calendar and a time of the day. -/
structure Valid (s : Stamp) : Prop where
  date : s.date.Valid
  hour : s.hour < 24
  minute : s.minute < 60
  second : s.second < 60

/-- The seconds from the start of 1970: the days since, counted, and the time of the day. -/
def seconds (s : Stamp) : Int :=
  86400 * ((s.date.passed : Int) - (⟨1970, 1, 1⟩ : Date).passed) + 3600 * s.hour + 60 * s.minute +
    s.second

/-- The nanoseconds beyond the second. -/
def nanos (s : Stamp) : Nat := s.fraction * 10 ^ (9 - s.places)

/-- The numbers of digits that a fraction may have. -/
def widths : List Nat := [0, 3, 6, 9]

/-- The fraction has one of these numbers of digits, and no smaller one would do. -/
structure Shortest (s : Stamp) : Prop where
  known : s.places ∈ widths
  needed : ∀ fewer ∈ widths, fewer < s.places → ∀ n, n * 10 ^ (9 - fewer) ≠ s.nanos

/-! ## 2. Reading -/

/-- Reads a number of a fixed width. -/
def number? (width : Nat) (chars : List Char) : Option (Nat × List Char) :=
  let digits := chars.take width
  if digits.length = width ∧ digits.all Char.isDigit then
    some (Nat.ofDigitChars 10 digits 0, chars.drop width)
  else none

/-- Reads a mark. -/
def mark? (mark : Char) : List Char → Option (List Char)
  | [] => none
  | c :: rest => if c = mark then some rest else none

/-- Reads a fraction, if there is one: a point, and three, six or nine digits. -/
def fraction? : List Char → Option ((Nat × Nat) × List Char)
  | '.' :: rest =>
    let digits := rest.takeWhile Char.isDigit
    if digits.length ∈ [3, 6, 9] then
      some ((digits.length, Nat.ofDigitChars 10 digits 0), rest.dropWhile Char.isDigit)
    else none
  | rest => some ((0, 0), rest)

/-- **Reads a stamp**: `YYYY-MM-DDThh:mm:ss`, a fraction or none, and `Z`. -/
def read? (chars : List Char) : Option Stamp := do
  let (year, chars) ← number? 4 chars
  let chars ← mark? '-' chars
  let (month, chars) ← number? 2 chars
  let chars ← mark? '-' chars
  let (day, chars) ← number? 2 chars
  let chars ← mark? 'T' chars
  let (hour, chars) ← number? 2 chars
  let chars ← mark? ':' chars
  let (minute, chars) ← number? 2 chars
  let chars ← mark? ':' chars
  let (second, chars) ← number? 2 chars
  let ((places, fraction), chars) ← fraction? chars
  if chars = ['Z'] then some ⟨⟨year, month, day⟩, hour, minute, second, places, fraction⟩ else none

theorem isDigit_padded (width n : Nat) : ∀ c ∈ padded width n, c.isDigit = true := by
  intro c member
  rcases List.mem_append.mp member with zero | digit
  · rw [List.eq_of_mem_replicate zero]
    rfl
  · exact isDigit_of_mem_decimal digit

/-- **A number that is padded to a width is read.** -/
theorem number?_padded {width n : Nat} (positive : 0 < width) (small : n < 10 ^ width)
    (rest : List Char) : number? width (padded width n ++ rest) = some (n, rest) := by
  have length := length_padded positive small
  have digits : (padded width n ++ rest).take width = padded width n := List.take_left' length
  have behind : (padded width n ++ rest).drop width = rest := List.drop_left' length
  have all : (padded width n).all Char.isDigit = true :=
    List.all_eq_true.mpr (isDigit_padded width n)
  simp only [number?, digits, behind, length, all, and_self, if_true, ofDigitChars_padded]

theorem mark?_self (mark : Char) (rest : List Char) : mark? mark (mark :: rest) = some rest :=
  if_pos rfl

/-- **A fraction is read with as many digits as it has.** -/
theorem fraction?_point {width n : Nat} (known : width ∈ [3, 6, 9]) (small : n < 10 ^ width)
    {rest : List Char} (stops : Stops Char.isDigit rest) :
    fraction? ('.' :: padded width n ++ rest) = some ((width, n), rest) := by
  have widths : ∀ w ∈ [3, 6, 9], 0 < w := by decide
  have positive : 0 < width := widths width known
  have digits : (padded width n ++ rest).takeWhile Char.isDigit = padded width n :=
    takeWhile_run (isDigit_padded width n) stops
  have behind : (padded width n ++ rest).dropWhile Char.isDigit = rest := by
    have whole := List.takeWhile_append_dropWhile (p := Char.isDigit) (l := padded width n ++ rest)
    rw [digits] at whole
    exact List.append_cancel_left whole
  simp only [List.cons_append, fraction?, digits, behind, length_padded positive small,
    if_pos known, ofDigitChars_padded]

end Stamp

namespace Instant

open Stamp

/-! ## 3. The text -/

/-- **The digits of a fraction are read, and there are no more of them than it needs.** -/
theorem fraction?_fractionChars {n : Nat} (small : n < 1000000000) {rest : List Char}
    (stops : Stops Char.isDigit rest) (pointless : ∀ behind, rest ≠ '.' :: behind) :
    ∃ places fraction, fraction? (fractionChars n ++ rest) = some ((places, fraction), rest) ∧
      fraction * 10 ^ (9 - places) = n ∧ places ∈ widths ∧
      ∀ fewer ∈ widths, fewer < places → ∀ m, m * 10 ^ (9 - fewer) ≠ n := by
  have fewer_cases : ∀ {fewer : Nat}, fewer ∈ widths →
      fewer = 0 ∨ fewer = 3 ∨ fewer = 6 ∨ fewer = 9 := by
    intro fewer known
    simpa only [widths, List.mem_cons, List.not_mem_nil, or_false] using known
  rw [fractionChars]
  by_cases none : n = 0
  · refine ⟨0, 0, ?_, (Nat.zero_mul _).trans none.symm, by decide,
      fun fewer _ less => absurd less (Nat.not_lt_zero _)⟩
    rw [if_pos none, List.nil_append]
    unfold fraction?
    split
    · exact absurd rfl (pointless _)
    · rfl
  · rw [if_neg none]
    by_cases millis : n % 1000000 = 0
    · rw [if_pos millis]
      refine ⟨3, n / 1000000, fraction?_point (by decide) (by omega) stops, by omega, by decide, ?_⟩
      intro fewer known less m same
      rcases fewer_cases known with rfl | rfl | rfl | rfl <;> omega
    · rw [if_neg millis]
      by_cases micros : n % 1000 = 0
      · rw [if_pos micros]
        refine ⟨6, n / 1000, fraction?_point (by decide) (by omega) stops, by omega, by decide, ?_⟩
        intro fewer known less m same
        rcases fewer_cases known with rfl | rfl | rfl | rfl <;> omega
      · rw [if_neg micros]
        refine ⟨9, n, fraction?_point (by decide) small stops, by omega, by decide, ?_⟩
        intro fewer known less m same
        rcases fewer_cases known with rfl | rfl | rfl | rfl <;> omega

/-- The stamp of an instant, with a fraction that was read. -/
def stamp (i : Instant) (places fraction : Nat) : Stamp :=
  ⟨i.date, i.secondOfDay / 3600, i.secondOfDay / 60 % 60, i.secondOfDay % 60, places, fraction⟩

theorem valid_stamp (i : Instant) (places fraction : Nat) : (i.stamp places fraction).Valid := by
  have second := i.secondOfDay_lt
  refine ⟨Date.valid_ofDay _, ?_, ?_, ?_⟩
  · show i.secondOfDay / 3600 < 24
    omega
  · show i.secondOfDay / 60 % 60 < 60
    omega
  · show i.secondOfDay % 60 < 60
    omega

/-- The days from the start of 1970 to the day of an instant. -/
theorem passed_date {i : Instant} (dated : i.Dated) :
    (i.date.passed : Int) - (⟨1970, 1, 1⟩ : Date).passed = i.seconds / 86400 := by
  have day := Date.passed_eq (Date.valid_ofDay (i.seconds / 86400 + epochDay)) dated.1
  rw [Date.dayNumber_ofDay] at day
  have epoch : ((⟨1970, 1, 1⟩ : Date).passed : Int) = epochDay :=
    Date.passed_eq ⟨0, 31, rfl, rfl, by decide, by decide⟩ (by decide)
  rw [date, day, epoch]
  omega

/-- **The stamp of an instant is as many seconds from the start of 1970 as the instant.** -/
theorem seconds_stamp {i : Instant} (dated : i.Dated) (places fraction : Nat) :
    (i.stamp places fraction).seconds = i.seconds := by
  have time : (i.secondOfDay : Int) = i.seconds % 86400 := by
    rw [secondOfDay]
    omega
  simp only [Stamp.seconds, stamp, passed_date dated]
  omega

/-- **The text of an instant is read as its stamp.** -/
theorem read?_chars {i : Instant} (dated : i.Dated) {places fraction : Nat}
    (read : fraction? (fractionChars i.subsecond ++ ['Z']) = some ((places, fraction), ['Z'])) :
    read? i.chars = some (i.stamp places fraction) := by
  obtain ⟨low, high⟩ := dated
  obtain ⟨month, day⟩ : i.date.month ≤ 12 ∧ i.date.day ≤ 31 := (Date.valid_ofDay _).bounds
  have second := i.secondOfDay_lt
  have year : (i.date.year.toNat : Int) = i.date.year := Int.toNat_of_nonneg low
  simp only [read?, chars, List.append_assoc, List.cons_append, yearChars_eq low high]
  rw [number?_padded (by decide) (by omega)]
  simp only [Option.bind_eq_bind, Option.bind_some, mark?_self]
  rw [number?_padded (by decide) (by omega)]
  simp only [Option.bind_some, mark?_self]
  rw [number?_padded (by decide) (by omega)]
  simp only [Option.bind_some, mark?_self]
  rw [number?_padded (by decide) (by omega)]
  simp only [Option.bind_some, mark?_self]
  rw [number?_padded (by decide) (by omega)]
  simp only [Option.bind_some, mark?_self]
  rw [number?_padded (by decide) (by omega)]
  simp only [Option.bind_some, read, if_true, year]
  rfl

/-- **The text of an instant of the years 0 to 9999 is read as a stamp that exists**, with no digit
    more than it needs, and that is as many seconds and nanoseconds from the start of 1970. -/
theorem read_chars {i : Instant} (dated : i.Dated) :
    ∃ s, read? i.chars = some s ∧ s.Valid ∧ s.Shortest ∧ s.seconds = i.seconds ∧
      s.nanos = i.subsecond := by
  have stops : Stops Char.isDigit ['Z'] := .cons rfl []
  obtain ⟨places, fraction, read, nanos, known, needed⟩ :=
    fraction?_fractionChars i.subsecond_lt stops (fun _ same => by cases same)
  have shortest : (i.stamp places fraction).Shortest := by
    refine ⟨known, fun fewer among less m same => needed fewer among less m ?_⟩
    exact same.trans nanos
  exact ⟨i.stamp places fraction, read?_chars dated read, i.valid_stamp places fraction, shortest,
    seconds_stamp dated places fraction, nanos⟩

end Instant

end ControlPlane
