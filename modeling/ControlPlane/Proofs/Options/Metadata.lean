import ControlPlane.Client.Fault
import ControlPlane.Proofs.Options.Deadline
import ControlPlane.Proofs.Options.Headers

/-!
# What options may give

* `readHeaders_fault` -- headers have faults of their own;
* `CallOptions.Overlong` -- **the options whose deadline cannot be written**: their headers are all
  valid, and their deadline is at the limit or beyond;
* `metadata_eq_tooLong_iff` -- **these, and no others, have that fault**;
* `OptionFault.status?_eq` -- every other fault is a status, with its wording;
* `metadata_of_timeout`, `values_replace` -- the deadline of options is the one value of its key.
-/

namespace ControlPlane

/-! ## 1. Metadata -/

/-- A key holds what replaced its values, and nothing else. -/
theorem Metadata.values_replace (m : Metadata) (key value : String) :
    (m.replace key value).values key = [value] := by
  have none : (m.entries.filter fun entry => entry.1 != key).filter (fun entry => entry.1 == key) =
      [] := by
    rw [List.filter_filter]
    refine List.filter_eq_nil_iff.mpr fun entry _ => ?_
    simp
  simp only [values, replace, erase, push, List.filter_append, none, List.nil_append]
  simp

/-! ## 2. Faults -/

/-- A fault other than that of a deadline has a status. -/
theorem OptionFault.status?_eq {fault : OptionFault} (h : fault ≠ .deadlineTooLong) :
    fault.status? = some ⟨.invalidArgument, fault.message, none⟩ := by
  cases fault with
  | invalidKey => rfl
  | invalidValue => rfl
  | deadlineTooLong => exact absurd rfl h

/-- **Options fail with a status**, unless their deadline is too long. -/
theorem CallFault.ofOptions_eq {fault : OptionFault} (h : fault ≠ .deadlineTooLong) :
    CallFault.ofOptions fault = .status ⟨.invalidArgument, fault.message, none⟩ := by
  rw [ofOptions, OptionFault.status?_eq h]

namespace CallOptions

/-- Headers that are not valid have a fault of their own. -/
theorem readHeaders_fault {headers : List (String × String)} {fault : OptionFault}
    (h : readHeaders headers = .error fault) : fault ≠ .deadlineTooLong := by
  obtain ⟨_, _, _, _, _, ⟨_, rfl⟩ | ⟨_, _, rfl⟩⟩ := readHeaders_eq_error_iff.mp h
  · exact OptionFault.noConfusion
  · exact OptionFault.noConfusion

/-- Headers are read if each of them is. -/
theorem readHeaders_ok_iff {headers : List (String × String)} :
    (∃ entries, readHeaders headers = .ok entries) ↔
      ∀ header ∈ headers, ∃ entry, readHeader header = .ok entry := by
  simp only [readHeaders_eq_ok_iff, ← valid_iff_read, exists_and_left, exists_eq, and_true]

/-! ## 3. Options -/

/-- **Options whose deadline cannot be written**, and whose headers are all valid: a header that is
    not is found first. -/
def Overlong (o : CallOptions) : Prop :=
  (∀ header ∈ o.headers, ∃ entry, readHeader header = .ok entry) ∧
    ∃ d, o.timeout = some d ∧ Deadline.limit ≤ d.nanos

/-- **These, and no others, are too long.** -/
theorem metadata_eq_tooLong_iff {o : CallOptions} :
    o.metadata = .error .deadlineTooLong ↔ o.Overlong := by
  unfold metadata Overlong
  rw [← readHeaders_ok_iff]
  cases read : readHeaders o.headers with
  | error fault =>
    have own := readHeaders_fault read
    constructor
    · intro h
      cases h
      exact absurd rfl own
    · rintro ⟨⟨_, h⟩, _⟩
      cases h
  | ok entries =>
    simp only
    cases timeout : o.timeout with
    | none =>
      constructor
      · intro h
        cases h
      · rintro ⟨_, _, h, _⟩
        cases h
    | some d =>
      rw [withDeadline]
      cases written : Deadline.write d with
      | none =>
        have long := Deadline.write_eq_none_iff.mp written
        exact ⟨fun _ => ⟨⟨entries, rfl⟩, d, rfl, long⟩, fun _ => rfl⟩
      | some text =>
        constructor
        · intro h
          cases h
        · rintro ⟨_, d', hd, long⟩
          cases hd
          rw [Deadline.write_eq_none_iff.mpr long] at written
          cases written

/-- **The deadline of options is the one value of its key**, in its written form. -/
theorem metadata_of_timeout {o : CallOptions} {metadata : Metadata} {d : Duration}
    (timeout : o.timeout = some d) (valid : o.metadata = .ok metadata) :
    ∃ text, Deadline.write d = some text ∧ metadata.values Deadline.key = [text] := by
  unfold CallOptions.metadata at valid
  cases read : readHeaders o.headers with
  | error fault =>
    rw [read] at valid
    cases valid
  | ok entries =>
    rw [read, timeout] at valid
    simp only [withDeadline] at valid
    cases written : Deadline.write d with
    | none =>
      rw [written] at valid
      cases valid
    | some text =>
      rw [written] at valid
      cases valid
      exact ⟨text, rfl, Metadata.values_replace _ _ _⟩

end CallOptions

end ControlPlane
