import Mathlib.Data.List.Chain
import ControlPlane.Proofs.Options.Metadata

/-!
# How much a written deadline loses

Each unit is at most a thousand times as long as the one before it, and a unit is passed over only
if the span has `10 ^ 8` of it. So the unit that is chosen is a hundred thousandth of the span at
most, but for the finest one, which loses nothing:

* `Fine`, `fit_fine` -- a unit that is short enough for a span, and **that the one chosen is**;
* `loss_of_fine` -- what is lost when a span is counted in such a unit;
* `Denotes`, `write_denotes` -- the written form with the span it denotes, and **that a span below
  the limit has one, with that loss**;
* `CallOptions.metadata_of_deadline` -- what options with a deadline give.
-/

namespace ControlPlane

namespace Deadline

open Text

/-! ## 1. The unit that is chosen -/

/-- **A unit that is short enough for a span**: the finest one or, for spans that it cannot count, a
    hundred thousandth of the span at most. -/
def Fine (nanos unit : Nat) : Prop := unit = 1 ∨ (maxCount < nanos ∧ 100000 * unit ≤ nanos)

/-- Units each of which is a thousand times as long as the one before it at most. -/
def Ladder : List (Char × Nat) → Prop :=
  List.IsChain fun finer coarser => 0 < finer.2 ∧ coarser.2 ≤ 1000 * finer.2

theorem ladder_units : Ladder units := by
  unfold Ladder units
  decide

/-- A span that has too many of a unit is long enough for the next one. -/
theorem fine_next {nanos unit next : Nat} (positive : 0 < unit) (close : next ≤ 1000 * unit)
    (exceeds : ¬ nanos / unit ≤ maxCount) : Fine nanos next := by
  have many : (maxCount + 1) * unit ≤ nanos :=
    (Nat.le_div_iff_mul_le positive).mp (Nat.lt_of_not_le exceeds)
  unfold maxCount at many
  refine .inr ⟨?_, ?_⟩
  · unfold maxCount
    omega
  · omega

/-- **The unit that is chosen is short enough**, if the first one is. -/
theorem fit_fine {nanos count : Nat} {letter : Char} {available : List (Char × Nat)}
    (ladder : Ladder available) (fine : ∀ u ∈ available.head?, Fine nanos u.2)
    (h : fit nanos available = some (count, letter)) :
    ∃ unit, (letter, unit) ∈ available ∧ count = nanos / unit ∧ count ≤ maxCount ∧
      Fine nanos unit := by
  induction available with
  | nil => cases h
  | cons first rest ih =>
    obtain ⟨close, ladder⟩ := List.isChain_cons.mp ladder
    rw [fit] at h
    split at h
    · rename_i fits
      cases h
      exact ⟨first.2, List.mem_cons_self, rfl, fits, fine first rfl⟩
    · rename_i exceeds
      have next : ∀ u ∈ rest.head?, Fine nanos u.2 := fun u hu =>
        fine_next (close u hu).1 (close u hu).2 exceeds
      obtain ⟨unit, member, chosen⟩ := ih ladder next h
      exact ⟨unit, List.mem_cons_of_mem _ member, chosen⟩

/-- **A span that is counted in such a unit gets no longer**, and shorter by a hundred thousandth at
    most; one that the finest unit can count stays as it is. -/
theorem loss_of_fine {nanos unit : Nat} (positive : 0 < unit) (fine : Fine nanos unit) :
    let left := nanos / unit * unit
    left ≤ nanos ∧ 100000 * (nanos - left) ≤ nanos ∧ (nanos ≤ maxCount → left = nanos) := by
  intro left
  have less : left ≤ nanos := Nat.div_mul_le_self nanos unit
  have near : nanos < left + unit := Nat.lt_div_mul_add positive
  rcases fine with rfl | ⟨long, short⟩
  · omega
  · exact ⟨less, by omega, fun few => absurd few (Nat.not_le.mpr long)⟩

/-! ## 2. What is written -/

/-- **A written deadline and the span it denotes**: one to eight digits and the letter of a unit. -/
def Denotes (text : String) (w : Duration) : Prop :=
  ∃ digits letter unit, text.toList = digits ++ [letter] ∧ 1 ≤ digits.length ∧ digits.length ≤ 8 ∧
    (∀ c ∈ digits, c.isDigit = true) ∧ (letter, unit) ∈ units ∧
    w.nanos = Nat.ofDigitChars 10 digits 0 * unit

/-- A count with the letter of its unit denotes so many units. -/
theorem denotes_counted {letter : Char} {unit count : Nat} (known : (letter, unit) ∈ units)
    (few : count ≤ maxCount) :
    Denotes (String.ofList (decimal count ++ [letter])) ⟨count * unit⟩ := by
  have value : Nat.ofDigitChars 10 (decimal count) 0 = count := Nat.ofDigitChars_ten_toDigits
  refine ⟨decimal count, letter, unit, String.toList_ofList, ?_, ?_, fun c hc => ?_, known, ?_⟩
  · exact List.length_pos_iff.mpr Nat.toDigits_ne_nil
  · exact (Nat.length_toDigits_le_iff (by decide) (by decide)).mpr (Nat.lt_succ_of_le few)
  · exact isDigit_of_mem_decimal hc
  · rw [value]

/-- **A span below the limit is written**, and what is read back is no longer than the span, and
    shorter by a hundred thousandth at most. -/
theorem write_denotes {d : Duration} (short : d.nanos < limit) :
    ∃ text w, write d = some text ∧ Denotes text w ∧ read text = some w ∧
      w.nanos ≤ d.nanos ∧ 100000 * (d.nanos - w.nanos) ≤ d.nanos ∧
      (d.nanos ≤ maxCount → w = d) := by
  cases written : write d with
  | none => exact absurd (write_eq_none_iff.mp written) (Nat.not_le.mpr short)
  | some text =>
    rw [write, Option.map_eq_some_iff] at written
    obtain ⟨⟨count, letter⟩, fits, rfl⟩ := written
    have finest : ∀ u ∈ units.head?, Fine d.nanos u.2 := fun u hu => by
      cases hu
      exact .inl rfl
    obtain ⟨unit, known, rfl, few, fine⟩ := fit_fine ladder_units finest fits
    obtain ⟨less, near, whole⟩ := loss_of_fine (unit_bounds known).1 fine
    exact ⟨_, ⟨d.nanos / unit * unit⟩, rfl, denotes_counted known few, read_counted known few, less,
      near, fun small => congrArg Duration.mk (whole small)⟩

end Deadline

/-! ## 3. Options with a deadline -/

/-- What replaces the values of a key leaves the other keys as they are. -/
theorem Metadata.values_replace_of_ne (m : Metadata) {key other : String} (different : other ≠ key)
    (value : String) : (m.replace key value).values other = m.values other := by
  have others : (m.entries.filter fun entry => entry.1 != key).filter
      (fun entry => entry.1 == other) = m.entries.filter fun entry => entry.1 == other := by
    rw [List.filter_filter]
    refine List.filter_congr fun entry _ => ?_
    by_cases h : entry.1 = other
    · simp [h, different]
    · simp [h]
  have apart : (key == other) = false := beq_eq_false_iff_ne.mpr different.symm
  simp only [values, replace, erase, push, List.filter_append, others, List.filter_cons, apart,
    Bool.false_eq_true, if_false, List.filter_nil, List.append_nil]

namespace CallOptions

/-- **The deadline of options on the wire.** The headers are valid, and the deadline is of less than
    `10 ^ 8` hours. There is one value of its key then, whatever the headers put there, and the
    other keys hold what they hold without a deadline.

    That value has one to eight digits and the letter of a unit. The span that it denotes is no
    longer than the deadline, and shorter by a hundred thousandth of it at most. Up to
    `99999999` nanoseconds it is the deadline itself. -/
theorem metadata_of_deadline {o : CallOptions} {d : Duration}
    (valid : ∀ header ∈ o.headers, Valid header) (timeout : o.timeout = some d)
    (short : d.nanos < Deadline.limit) :
    ∃ bare m text w,
      (⟨o.headers, none⟩ : CallOptions).metadata = .ok bare ∧
      o.metadata = .ok m ∧
      m.values Deadline.key = [text] ∧
      (∀ key, key ≠ Deadline.key → m.values key = bare.values key) ∧
      Deadline.Denotes text w ∧
      Deadline.read text = some w ∧
      w.nanos ≤ d.nanos ∧
      100000 * (d.nanos - w.nanos) ≤ d.nanos ∧
      (d.nanos ≤ 99999999 → w = d) := by
  obtain ⟨text, w, written, denotes, read, less, near, whole⟩ := Deadline.write_denotes short
  have bare := metadata_eq_ok_iff.mpr ⟨valid, rfl⟩
  have full : o.metadata = .ok ((⟨o.headers.map pair⟩ : Metadata).replace Deadline.key text) := by
    simp only [metadata, readHeaders_eq_ok_iff.mpr ⟨valid, rfl⟩, timeout, withDeadline, written]
  exact ⟨_, _, text, w, bare, full, Metadata.values_replace _ _ _,
    fun key other => Metadata.values_replace_of_ne _ other text, denotes, read, less, near, whole⟩

/-- A deadline of 1.23 seconds and some nanoseconds, with headers that state two others. -/
theorem deadline_beside_headers :
    let o : CallOptions :=
      ⟨[("GRPC-Timeout", "5S"), ("x-tenant", "acme"), ("grpc-timeout", "1H")], some ⟨1234567890⟩⟩
    ∃ m w, o.metadata = .ok m ∧ m.values "grpc-timeout" = ["1234567u"] ∧
      m.values "x-tenant" = ["acme"] ∧ Deadline.read "1234567u" = some w ∧
      w.nanos ≤ 1234567890 ∧ 100000 * (1234567890 - w.nanos) ≤ 1234567890 := by
  intro o
  have valid : ∀ header ∈ o.headers, Valid header := by
    simp only [o, List.forall_mem_cons]
    exact ⟨⟨⟨_, rfl⟩, rfl⟩, ⟨⟨_, rfl⟩, rfl⟩, ⟨⟨_, rfl⟩, rfl⟩, fun _ h => (by cases h)⟩
  obtain ⟨_, m, text, w, _, full, one, _, _, read, less, near, _⟩ :=
    metadata_of_deadline valid rfl (by decide)
  have made : o.metadata = .ok ⟨[("x-tenant", "acme"), ("grpc-timeout", "1234567u")]⟩ := by rfl
  rw [made] at full
  cases full
  have same : ["1234567u"] = [text] := one
  cases same
  exact ⟨_, w, made, rfl, rfl, read, less, near⟩

end CallOptions

end ControlPlane
