import ControlPlane.CallOptions

/-!
# Headers as metadata

Headers are taken all or none. The letter case of a key does not matter for what it holds, and the
order of headers matters within one key only:

* `Metadata.lower`, `key?_eq` -- the key a text stands for is the text in lower case;
* `Metadata.insertSorted_comm` -- pairs of different keys find their places in either order;
* `CallOptions.Valid`, `CallOptions.Rejects` -- the headers that give a pair, and **the fault of one
  that gives none**: its key is looked at before its value;
* `readHeaders_eq_ok_iff`, `readHeaders_eq_error_iff` -- what headers give in a row;
* `CallOptions.Shuffled` -- headers with those of different keys in another order;
* `metadata_of_headers` -- what options without a deadline give.
-/

namespace ControlPlane

/-! ## 1. Keys -/

namespace Metadata

/-- A text in lower case. -/
def lower (text : String) : String := String.ofList (text.toList.map Char.toLower)

/-- **The key a text stands for is that text in lower case.** -/
theorem key?_eq {text key : String} (h : key? text = some key) : key = lower text := by
  simp only [key?] at h
  split at h
  · cases h
  · split at h
    · cases h
    · exact (Option.some.inj h).symm

/-- A pair goes before those of later keys, whichever of them comes first. -/
theorem insertSorted_before {a b : String × String} (less : a.1 ≤ b.1) (other : ¬ b.1 ≤ a.1)
    (entries : List (String × String)) :
    insertSorted a (insertSorted b entries) = insertSorted b (insertSorted a entries) := by
  induction entries with
  | nil => simp only [insertSorted, less, other, if_true, if_false]
  | cons e rest ih =>
    by_cases hb : b.1 ≤ e.1
    · have ha : a.1 ≤ e.1 := String.le_trans less hb
      simp only [insertSorted, ha, hb, less, other, if_true, if_false]
    · by_cases ha : a.1 ≤ e.1
      · simp only [insertSorted, ha, hb, other, if_true, if_false]
      · simp only [insertSorted, ha, hb, if_false, ih]

/-- **Pairs of different keys find their places in either order.** -/
theorem insertSorted_comm {a b : String × String} (different : a.1 ≠ b.1)
    (entries : List (String × String)) :
    insertSorted a (insertSorted b entries) = insertSorted b (insertSorted a entries) := by
  rcases String.le_total a.1 b.1 with less | less
  · exact insertSorted_before less (fun h => different (String.le_antisymm less h)) entries
  · exact (insertSorted_before less (fun h => different (String.le_antisymm h less)) entries).symm

end Metadata

/-! ## 2. Headers -/

namespace CallOptions

open Metadata (lower key? isValue)

/-- A header that gives a pair: its key and its value are valid. -/
def Valid (header : String × String) : Prop :=
  (∃ key, key? header.1 = some key) ∧ isValue header.2 = true

/-- **The fault of a header that gives none**, about the key as it is written. A key that is not
    valid comes before the value, whatever that is. -/
def Rejects (header : String × String) (fault : OptionFault) : Prop :=
  (key? header.1 = none ∧ fault = .invalidKey header.1) ∨
    ((∃ key, key? header.1 = some key) ∧ isValue header.2 = false ∧
      fault = .invalidValue header.1)

/-- The pair of a header. -/
def pair (header : String × String) : String × String := (lower header.1, header.2)

theorem readHeader_of_valid {header : String × String} (h : Valid header) :
    readHeader header = .ok (pair header) := by
  obtain ⟨⟨key, found⟩, value⟩ := h
  simp only [readHeader, found, value, if_true, pair, Metadata.key?_eq found]

theorem readHeader_of_rejects {header : String × String} {fault : OptionFault}
    (h : Rejects header fault) : readHeader header = .error fault := by
  rcases h with ⟨missing, rfl⟩ | ⟨⟨key, found⟩, value, rfl⟩
  · simp only [readHeader, missing]
  · simp only [readHeader, found, value, Bool.false_eq_true, if_false]

/-- A header gives a pair or has a fault. -/
theorem valid_or_rejects (header : String × String) :
    Valid header ∨ ∃ fault, Rejects header fault := by
  cases found : key? header.1 with
  | none => exact .inr ⟨_, .inl ⟨found, rfl⟩⟩
  | some key =>
    cases value : isValue header.2 with
    | true => exact .inl ⟨⟨key, found⟩, value⟩
    | false => exact .inr ⟨_, .inr ⟨⟨key, found⟩, value, rfl⟩⟩

theorem Rejects.not_valid {header : String × String} {fault : OptionFault}
    (h : Rejects header fault) : ¬ Valid header := by
  rintro ⟨⟨key, found⟩, value⟩
  rcases h with ⟨missing, _⟩ | ⟨_, wrong, _⟩
  · rw [found] at missing
    cases missing
  · rw [value] at wrong
    cases wrong

/-- The valid headers are those that are read. -/
theorem valid_iff_read {header : String × String} :
    Valid header ↔ ∃ entry, readHeader header = .ok entry := by
  refine ⟨fun h => ⟨_, readHeader_of_valid h⟩, fun ⟨entry, read⟩ => ?_⟩
  refine (valid_or_rejects header).resolve_right fun ⟨fault, rejects⟩ => ?_
  rw [readHeader_of_rejects rejects] at read
  cases read

section Rows

variable {header : String × String} {rest : List (String × String)}

theorem readHeaders_cons_of_valid (h : Valid header) :
    readHeaders (header :: rest) = (readHeaders rest).map (pair header :: ·) := by
  rw [readHeaders, readHeader_of_valid h]

theorem readHeaders_cons_of_rejects {fault : OptionFault} (h : Rejects header fault) :
    readHeaders (header :: rest) = .error fault := by
  rw [readHeaders, readHeader_of_rejects h]

end Rows

/-- **Headers are read if all of them are valid**, and give their pairs in order. -/
theorem readHeaders_eq_ok_iff {headers entries : List (String × String)} :
    readHeaders headers = .ok entries ↔
      (∀ header ∈ headers, Valid header) ∧ entries = headers.map pair := by
  induction headers generalizing entries with
  | nil => simp [readHeaders, eq_comm]
  | cons header rest ih =>
    rw [List.forall_mem_cons, List.map_cons]
    rcases valid_or_rejects header with valid | ⟨fault, rejects⟩
    · rw [readHeaders_cons_of_valid valid]
      constructor
      · intro h
        cases read : readHeaders rest with
        | error fault =>
          rw [read] at h
          cases h
        | ok others =>
          rw [read] at h
          cases h
          obtain ⟨all, rfl⟩ := ih.mp read
          exact ⟨⟨valid, all⟩, rfl⟩
      · rintro ⟨⟨_, all⟩, rfl⟩
        rw [ih.mpr ⟨all, rfl⟩]
        rfl
    · rw [readHeaders_cons_of_rejects rejects]
      exact ⟨fun h => (by cases h), fun h => absurd h.1.1 rejects.not_valid⟩

/-- **Otherwise the first that is not valid decides the fault**, whatever follows it. -/
theorem readHeaders_eq_error_iff {headers : List (String × String)} {fault : OptionFault} :
    readHeaders headers = .error fault ↔
      ∃ before bad after, headers = before ++ bad :: after ∧
        (∀ header ∈ before, Valid header) ∧ Rejects bad fault := by
  constructor
  · intro failed
    induction headers with
    | nil => cases failed
    | cons header rest ih =>
      rcases valid_or_rejects header with valid | ⟨fault', rejects⟩
      · rw [readHeaders_cons_of_valid valid] at failed
        cases read : readHeaders rest with
        | ok entries =>
          rw [read] at failed
          cases failed
        | error fault' =>
          rw [read] at failed
          cases failed
          obtain ⟨before, bad, after, rfl, all, rejects⟩ := ih read
          exact ⟨header :: before, bad, after, rfl, List.forall_mem_cons.mpr ⟨valid, all⟩, rejects⟩
      · rw [readHeaders_cons_of_rejects rejects] at failed
        cases failed
        exact ⟨[], header, rest, rfl, fun _ member => (by cases member), rejects⟩
  · rintro ⟨before, bad, after, rfl, all, rejects⟩
    induction before with
    | nil => exact readHeaders_cons_of_rejects rejects
    | cons header before ih =>
      obtain ⟨valid, others⟩ := List.forall_mem_cons.mp all
      rw [List.cons_append, readHeaders_cons_of_valid valid, ih others]
      rfl

/-! ## 3. Headers in another order -/

/-- **Headers with those of different keys in another order.** Two that follow each other may change
    places if their keys differ in more than the letter case, and so on. -/
inductive Shuffled : List (String × String) → List (String × String) → Prop where
  | same (headers : List (String × String)) : Shuffled headers headers
  | swap {headers before after : List (String × String)} {a b : String × String}
      (different : lower a.1 ≠ lower b.1) (others : Shuffled headers (before ++ a :: b :: after)) :
      Shuffled headers (before ++ b :: a :: after)

/-- What headers give for a key, in any letter case. -/
def given (headers : List (String × String)) (key : String) : List String :=
  (headers.filter fun header => lower header.1 == key).map Prod.snd

theorem values_pairs (headers : List (String × String)) (key : String) :
    (⟨headers.map pair⟩ : Metadata).values key = given headers key := by
  simp only [Metadata.values, List.filter_map, List.map_map]
  rfl

namespace Shuffled

variable {headers written : List (String × String)}

theorem valid_iff (h : Shuffled headers written) :
    (∀ header ∈ written, Valid header) ↔ ∀ header ∈ headers, Valid header := by
  induction h with
  | same => exact Iff.rfl
  | swap _ _ ih =>
    rw [← ih]
    simp only [List.forall_mem_append, List.forall_mem_cons]
    rw [and_left_comm (a := Valid _)]

theorem given_eq (h : Shuffled headers written) (key : String) :
    given written key = given headers key := by
  induction h with
  | same => rfl
  | @swap before after a b different _ ih =>
    rw [← ih]
    simp only [given, List.filter_append, List.filter_cons, beq_iff_eq]
    by_cases ha : lower a.1 = key
    · have hb : lower b.1 ≠ key := fun hb => different (ha.trans hb.symm)
      simp only [ha, hb, if_true, if_false]
    · simp only [ha, if_false]

theorem sorted_eq (h : Shuffled headers written) :
    (⟨written.map pair⟩ : Metadata).sorted = (⟨headers.map pair⟩ : Metadata).sorted := by
  induction h with
  | same => rfl
  | @swap before after a b different _ ih =>
    have apart : (pair b).1 ≠ (pair a).1 := different.symm
    rw [← ih]
    simp only [Metadata.sorted, List.map_append, List.map_cons, List.foldr_append, List.foldr_cons,
      Metadata.insertSorted_comm apart]

end Shuffled

/-! ## 4. Options without a deadline -/

section Without

variable {headers : List (String × String)}

theorem metadata_eq_ok_iff {m : Metadata} :
    (⟨headers, none⟩ : CallOptions).metadata = .ok m ↔
      (∀ header ∈ headers, Valid header) ∧ m = ⟨headers.map pair⟩ := by
  unfold metadata
  cases read : readHeaders headers with
  | error fault =>
    refine ⟨fun h => (by cases h), fun ⟨valid, _⟩ => ?_⟩
    rw [readHeaders_eq_ok_iff.mpr ⟨valid, rfl⟩] at read
    cases read
  | ok entries =>
    obtain ⟨valid, rfl⟩ := readHeaders_eq_ok_iff.mp read
    exact ⟨fun h => by cases h; exact ⟨valid, rfl⟩, fun h => by rw [h.2]; rfl⟩

theorem metadata_eq_error_iff {fault : OptionFault} :
    (⟨headers, none⟩ : CallOptions).metadata = .error fault ↔
      ∃ before bad after, headers = before ++ bad :: after ∧
        (∀ header ∈ before, Valid header) ∧ Rejects bad fault := by
  rw [← readHeaders_eq_error_iff]
  unfold metadata
  cases readHeaders headers with
  | error fault' => exact ⟨fun h => by cases h; rfl, fun h => by cases h; rfl⟩
  | ok entries => exact ⟨fun h => (by cases h), fun h => (by cases h)⟩

end Without

/-- **Headers become metadata, all or none.** Options without a deadline give metadata if and only
    if each header has a valid key and a valid value. A key then holds what the headers give for it
    in any letter case, in their order, and there is no other key. Headers of different keys may
    change places: the metadata is the same.

    Otherwise the first header that is not valid decides the fault, whatever stands behind it: that
    of its key, as it is written, if the key is not valid, and else that of its value. -/
theorem metadata_of_headers (headers : List (String × String)) :
    let read := (⟨headers, none⟩ : CallOptions).metadata
    ((∃ m, read = .ok m) ↔ ∀ header ∈ headers, Valid header) ∧
    (∀ m, read = .ok m →
      (∀ key, m.values key = given headers key) ∧
      (∀ entry ∈ m.entries, ∃ header ∈ headers, Metadata.lower header.1 = entry.1) ∧
      ∀ written, Shuffled headers written →
        ∃ m', (⟨written, none⟩ : CallOptions).metadata = .ok m' ∧
          (∀ key, m'.values key = m.values key) ∧ m'.sorted = m.sorted) ∧
    ∀ fault, read = .error fault ↔
      ∃ before bad after, headers = before ++ bad :: after ∧
        (∀ header ∈ before, Valid header) ∧ Rejects bad fault := by
  intro read
  refine ⟨⟨fun ⟨m, h⟩ => (metadata_eq_ok_iff.mp h).1,
    fun valid => ⟨_, metadata_eq_ok_iff.mpr ⟨valid, rfl⟩⟩⟩, fun m h => ?_,
    fun fault => metadata_eq_error_iff⟩
  obtain ⟨valid, rfl⟩ := metadata_eq_ok_iff.mp h
  refine ⟨values_pairs headers, fun entry member => ?_, fun written shuffled => ?_⟩
  · obtain ⟨header, from_headers, rfl⟩ := List.mem_map.mp member
    exact ⟨header, from_headers, rfl⟩
  · have still := shuffled.valid_iff.mpr valid
    refine ⟨_, metadata_eq_ok_iff.mpr ⟨still, rfl⟩, fun key => ?_, shuffled.sorted_eq⟩
    rw [values_pairs, values_pairs, shuffled.given_eq]

/-- A key in two letter cases; a value and a key that are not valid, the value first. -/
example :
    (((⟨[("X-Id", "1"), ("a", "x"), ("x-iD", "2")], none⟩ : CallOptions).metadata.toOption.map
      fun m => m.values "x-id") = some ["1", "2"]) ∧
    (⟨[("a", "x"), ("V", "\n"), ("bad key", "y")], none⟩ : CallOptions).metadata =
      .error (.invalidValue "V") := ⟨by decide, by rfl⟩

end CallOptions

end ControlPlane
