import ControlPlane.Client.Session
import ControlPlane.Proofs.Options.Metadata

/-!
# What the transport does to a call

What reaches the server of a call, and how long the call may take, said of the options themselves:

* `Withheld`, `Delivers` -- the keys whose values stay behind, and metadata that have lost these and
  nothing else;
* `delivers_delivered` -- **such are the metadata that a session delivers**;
* `CallOptions.Allows` -- the span that options allow a call for its exchange: their timeout as it
  is counted for the wire, or what their headers state;
* `deadlineOf_eq_some_iff` -- **that is the deadline of a session**; `timely_iff`, `late_iff` -- an
  answer in time and one that is late, to the nanosecond.
-/

namespace ControlPlane

/-! ## 1. Metadata -/

/-- **The keys whose values stay behind**: those that the transport keeps to itself, those that
    speak of one connection, and those that the first value of `connection` names, if that is
    ASCII. -/
def Withheld (m : Metadata) (key : String) : Prop :=
  key ∈ ["te", "content-type", "grpc-message", "grpc-message-type", "grpc-status", "user-agent",
    "connection", "keep-alive", "proxy-connection", "transfer-encoding", "upgrade"] ∨
  ∃ value, (m.values "connection").head? = some value ∧ (∀ c ∈ value.toList, c.toNat < 128) ∧
    ∃ name ∈ value.toList.splitOn ',', Metadata.key? (Text.trim (String.ofList name)) = some key

/-- **Metadata as they reach the server**: every key has its values, in their order, but for those
    that stay behind, which have none. -/
structure Delivers (m sent : Metadata) : Prop where
  kept : ∀ key, ¬ Withheld m key → sent.values key = m.values key
  dropped : ∀ key, Withheld m key → sent.values key = []

theorem mem_listedKeys {value key : String} :
    key ∈ listedKeys value ↔ (∀ c ∈ value.toList, c.toNat < 128) ∧
      ∃ name ∈ value.toList.splitOn ',', Metadata.key? (Text.trim (String.ofList name)) = some key := by
  unfold listedKeys
  split
  · rename_i ascii
    simp only [List.all_eq_true, decide_eq_true_eq] at ascii
    rw [List.mem_filterMap]
    exact ⟨fun listed => ⟨ascii, listed⟩, And.right⟩
  · rename_i other
    simp only [List.all_eq_true, decide_eq_true_eq] at other
    exact ⟨fun h => (by cases h), fun h => absurd h.1 other⟩

theorem withheld_iff {m : Metadata} {key : String} :
    Withheld m key ↔ key ∈ reservedKeys ++ connectionKeys m := by
  have listed : key ∈ (m.values "connection").head?.elim [] listedKeys ↔
      ∃ value, (m.values "connection").head? = some value ∧ key ∈ listedKeys value := by
    cases (m.values "connection").head? with
    | none => exact ⟨fun h => (by cases h), fun ⟨_, h, _⟩ => (by cases h)⟩
    | some value => exact ⟨fun h => ⟨value, rfl, h⟩, fun ⟨_, first, h⟩ => by cases first; exact h⟩
  unfold Withheld connectionKeys
  rw [← List.append_assoc, List.mem_append, listed]
  simp only [mem_listedKeys]
  exact Iff.rfl

/-- What is left without some keys are the values of the others. -/
theorem Metadata.values_without (m : Metadata) (keys : List String) (key : String) :
    (m.without keys).values key = if key ∈ keys then [] else m.values key := by
  unfold values without
  rw [List.filter_filter]
  split
  · rename_i member
    rw [List.filter_eq_nil_iff.mpr, List.map_nil]
    intro entry _
    simp only [Bool.and_eq_true, beq_iff_eq, Bool.not_eq_true', not_and, Bool.not_eq_false]
    intro same
    exact List.contains_iff_mem.mpr (same ▸ member)
  · rename_i other
    refine congrArg _ (List.filter_congr fun entry _ => ?_)
    by_cases same : entry.1 = key
    · simp [same, other]
    · simp [same]

/-- **The metadata that a session delivers are such.** -/
theorem delivers_delivered (m : Metadata) : Delivers m (delivered m) where
  kept key other := by
    rw [delivered, Metadata.values_without, if_neg fun h => other (withheld_iff.mpr h)]
  dropped key stays := by
    rw [delivered, Metadata.values_without, if_pos (withheld_iff.mp stays)]

/-- A key of the transport, one that a value of `connection` names, and one that is kept. -/
example :
    let sent := delivered
      ⟨[("te", "x"), ("a", "1"), ("connection", "close, b"), ("b", "2"), ("a", "3")]⟩
    sent.values "a" = ["1", "3"] ∧ sent.values "b" = [] ∧ sent.values "te" = [] := by
  decide +kernel

/-! ## 2. Deadlines -/

/-- **The span that options allow a call for its exchange**: the timeout as it is counted for the
    wire; without a timeout, what the first of the headers states that name the deadline, in any
    letter case. -/
def CallOptions.Allows (o : CallOptions) (w : Duration) : Prop :=
  (∃ d, o.timeout = some d ∧ Deadline.Counted d w) ∨
    (o.timeout = none ∧ ∃ text, (CallOptions.given o.headers "grpc-timeout").head? = some text ∧
      Deadline.States text w)

/-- A timer that counts milliseconds is not behind a span that has passed. -/
theorem Duration.ticks_le_iff {w : Duration} {delay : Nat} :
    w.ticks ≤ delay ↔ w.nanos ≤ delay * 1000000 := by
  unfold ticks
  omega

/-- It waits for a part of a millisecond in full. -/
theorem Duration.le_ticks_iff {w : Duration} {delay : Nat} :
    delay ≤ w.ticks ↔ delay * 1000000 < w.nanos + 1000000 := by
  unfold ticks
  omega

namespace Session

open Duration (ticks_le_iff)

section Deadlines

variable {o : CallOptions} {metadata : Metadata}

/-- The metadata of options state the span that these allow. -/
theorem stated_iff (valid : o.metadata = .ok metadata) {w : Duration} :
    (metadata.values Deadline.key).head?.bind Deadline.read = some w ↔ o.Allows w := by
  obtain ⟨headers, timeout⟩ := o
  cases timeout with
  | none =>
    obtain ⟨_, rfl⟩ := CallOptions.metadata_eq_ok_iff.mp valid
    rw [CallOptions.values_pairs, Option.bind_eq_some_iff]
    simp only [Deadline.read_eq_some_iff]
    constructor
    · exact fun stated => .inr ⟨rfl, stated⟩
    · intro allowed
      rcases allowed with ⟨d, timeout, _⟩ | ⟨_, stated⟩
      · cases timeout
      · exact stated
  | some d =>
    obtain ⟨text, written, values⟩ := CallOptions.metadata_of_timeout rfl valid
    obtain ⟨v, read, counted⟩ := Deadline.counted_of_write written
    rw [values, List.head?_cons, Option.bind_some, read]
    constructor
    · intro same
      cases same
      exact .inl ⟨d, rfl, counted⟩
    · intro allowed
      rcases allowed with ⟨d', timeout, counted'⟩ | ⟨timeout, _⟩
      · cases timeout
        exact congrArg some (counted'.unique counted)
      · cases timeout

/-- **The deadline of an exchange is the span that the options allow**, as a timer waits for it. -/
theorem deadlineOf_eq_some_iff (valid : o.metadata = .ok metadata) {n : Nat} :
    deadlineOf metadata = some n ↔ ∃ w, o.Allows w ∧ w.ticks = n := by
  rw [deadlineOf, Option.map_eq_some_iff]
  simp only [stated_iff valid]

/-- **An answer is in time** if it comes before all of the span has passed. -/
theorem timely_iff (valid : o.metadata = .ok metadata) {delay : Nat} :
    (∀ n, deadlineOf metadata = some n → delay < n) ↔
      ∀ w, o.Allows w → delay * 1000000 < w.nanos := by
  simp only [deadlineOf_eq_some_iff valid, ← Nat.not_le, ← ticks_le_iff]
  constructor
  · exact fun timely w allowed => timely _ ⟨w, allowed, rfl⟩
  · intro timely n stated
    obtain ⟨w, allowed, rfl⟩ := stated
    exact timely w allowed

/-- **It is late** otherwise. -/
theorem late_iff (valid : o.metadata = .ok metadata) {delay : Nat} :
    (∃ n, deadlineOf metadata = some n ∧ n ≤ delay) ↔
      ∃ w, o.Allows w ∧ w.nanos ≤ delay * 1000000 := by
  simp only [deadlineOf_eq_some_iff valid, ← ticks_le_iff]
  constructor
  · intro h
    obtain ⟨n, ⟨w, allowed, rfl⟩, late⟩ := h
    exact ⟨w, allowed, late⟩
  · intro h
    obtain ⟨w, allowed, late⟩ := h
    exact ⟨_, ⟨w, allowed, rfl⟩, late⟩

end Deadlines

end Session

end ControlPlane
