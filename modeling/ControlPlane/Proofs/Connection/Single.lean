import ControlPlane.Proofs.Connection.Accounts

/-!
# A single caller

* `Connection.Single` -- **everything a single caller may get**, each with when it does: a
  connection that is there is shared; without one the next dial is started, and it connects or fails
  in time, goes on behind the deadline, or never ends;
* `channelWithin_single` -- **a single caller gets one of these**, and the connection behind it is
  as they say;
* `Single.kept`, `Single.made`, `Single.dials` -- a connection that is there is kept, who is granted
  one has it, and without one a dial is started;
* `Single.never`, `Single.dialler` -- who waits for a dial that never ends gets nothing, and the
  dials are taken in order.
-/

namespace ControlPlane.Connection

/-- **What a single caller gets, and the connection behind it.** A dial is in time if it ends within
    the deadline, if there is one. -/
inductive Single (c : Connection) (deadline : Option Duration) : Access → Connection → Prop where
  /-- The connection is there. -/
  | shared (made : c.connected = true) : Single c deadline .granted c
  /-- The dial makes the connection in time. -/
  | connected (unmade : c.connected = false) (succeeds : c.dialler.next.1.outcome = .connects)
      (timely : ∀ d, deadline = some d → c.dialler.next.1.delay ≤ d.ticks) :
      Single c deadline .granted { c.begun with connected := true }
  /-- The dial fails in time. -/
  | refused {reason : String} (unmade : c.connected = false)
      (fails : c.dialler.next.1.outcome = .fails reason)
      (timely : ∀ d, deadline = some d → c.dialler.next.1.delay ≤ d.ticks) :
      Single c deadline (.denied (Status.unreachable reason)) c.begun
  /-- The dial has not ended when the deadline passes. -/
  | abandoned {d : Duration} (unmade : c.connected = false) (limited : deadline = some d)
      (late : NotBefore (d.ticks + 1) (c.dialler.next.1.endsAt 0)) :
      Single c deadline (.denied (timedOut d)) c.begun
  /-- The dial never ends, and there is no deadline. -/
  | endless (unmade : c.connected = false) (unlimited : deadline = none)
      (hangs : c.dialler.next.1.outcome = .hangs) : Single c deadline .never c.begun

/-- A dial that does not outlast a deadline ends, and in time. -/
theorem ends_of_timely {dial : Dial} {d : Duration}
    (h : ¬ NotBefore (d.ticks + 1) (dial.endsAt 0)) :
    dial.endsAt 0 = some dial.delay ∧ dial.delay ≤ d.ticks := by
  have ends : ∃ stop, dial.endsAt 0 = some stop := by
    cases he : dial.endsAt 0 with
    | none => exact absurd (he ▸ fun s hs => nomatch hs) h
    | some stop => exact ⟨stop, rfl⟩
  obtain ⟨stop, he⟩ := ends
  have delay : stop = dial.delay := by
    unfold Dial.endsAt at he
    split at he
    · cases he
    · exact (Option.some.inj he).symm.trans (Nat.zero_add _)
    · exact (Option.some.inj he).symm.trans (Nat.zero_add _)
  subst delay
  refine ⟨he, Nat.le_of_not_lt fun late => h fun s hs => ?_⟩
  rw [he] at hs
  cases hs
  exact late

/-- What a caller that dials is underway to. -/
theorem underway_single {c : Connection} (unmade : c.connected = false)
    (deadline : Option Duration) :
    Single c deadline (c.begun.underway c.dialler.next.1 0 deadline).access
      (c.begun.underway c.dialler.next.1 0 deadline).connection := by
  by_cases late : ∃ d, deadline = some d ∧ NotBefore (d.ticks + 1) (c.dialler.next.1.endsAt 0)
  · obtain ⟨d, rfl, late⟩ := late
    rw [underway_of_late late]
    exact .abandoned unmade rfl late
  · have timely : ∀ d, deadline = some d → c.dialler.next.1.delay ≤ d.ticks := fun d hd =>
      (ends_of_timely fun h => late ⟨d, hd, h⟩).2
    cases outcome : c.dialler.next.1.outcome with
    | connects =>
      have ends : c.dialler.next.1.endsAt 0 = some c.dialler.next.1.delay := by
        rw [Dial.endsAt, outcome]
        exact congrArg some (Nat.zero_add _)
      rw [underway_of_connects timely ends outcome]
      exact .connected unmade outcome timely
    | fails reason =>
      have ends : c.dialler.next.1.endsAt 0 = some c.dialler.next.1.delay := by
        rw [Dial.endsAt, outcome]
        exact congrArg some (Nat.zero_add _)
      rw [underway_of_fails timely ends outcome]
      exact .refused unmade outcome timely
    | hangs =>
      cases deadline with
      | none =>
        unfold underway
        rw [outcome]
        exact .endless unmade rfl outcome
      | some d =>
        obtain ⟨ends, _⟩ := ends_of_timely fun h => late ⟨d, rfl, h⟩
        rw [Dial.endsAt, outcome] at ends
        cases ends

/-- **A single caller gets one of these.** -/
theorem channelWithin_single (c : Connection) (deadline : Option Duration) :
    Single c deadline (c.channelWithin deadline).1 (c.channelWithin deadline).2.2 := by
  have now : ∀ d, deadline = some d → 0 ≤ d.ticks := fun d _ => Nat.zero_le d.ticks
  cases made : c.connected with
  | true =>
    have turn := turn_of_connected made now
    have access : (c.channelWithin deadline).1 = .granted := congrArg Passage.access turn
    have connection : (c.channelWithin deadline).2.2 = c := congrArg Passage.connection turn
    rw [access, connection]
    exact .shared made
  | false =>
    have turn := turn_of_unmade made now
    have access : (c.channelWithin deadline).1 =
        (c.begun.underway c.dialler.next.1 0 deadline).access := congrArg Passage.access turn
    have connection : (c.channelWithin deadline).2.2 =
        (c.begun.underway c.dialler.next.1 0 deadline).connection :=
      congrArg Passage.connection turn
    rw [access, connection]
    exact underway_single made deadline

section Outcomes

variable {c c' : Connection} {deadline : Option Duration} {access : Access}

/-- A connection that is there is kept. -/
theorem Single.kept (h : Single c deadline access c') (made : c.connected = true) : c' = c := by
  cases h with
  | shared => rfl
  | connected unmade => rw [made] at unmade; cases unmade
  | refused unmade => rw [made] at unmade; cases unmade
  | abandoned unmade => rw [made] at unmade; cases unmade
  | endless unmade => rw [made] at unmade; cases unmade

/-- Who is granted a connection has it. -/
theorem Single.made (h : Single c deadline .granted c') : c'.connected = true := by
  cases h with
  | shared made => exact made
  | connected => rfl

/-- Without a connection the next dial is started. -/
theorem Single.dials (h : Single c deadline access c') (unmade : c.connected = false) :
    c'.dials = c.dials + 1 := by
  cases h with
  | shared made => rw [made] at unmade; cases unmade
  | connected => rfl
  | refused => rfl
  | abandoned => rfl
  | endless => rfl

/-- Without a connection and without a deadline, a dial that never ends is waited for. -/
theorem Single.never (h : Single c deadline access c') (unmade : c.connected = false)
    (unlimited : deadline = none) (hangs : c.dialler.next.1.outcome = .hangs) :
    access = .never := by
  cases h with
  | shared made => rw [made] at unmade; cases unmade
  | connected _ succeeds => rw [hangs] at succeeds; cases succeeds
  | refused _ fails => rw [hangs] at fails; cases fails
  | abandoned _ limited => rw [unlimited] at limited; cases limited
  | endless => rfl

/-- The dials that are left are those behind the ones that were started. -/
theorem Single.dialler {d : Dialler} (h : Single c deadline access c')
    (left : c.dialler = d.later c.dials) : c'.dialler = d.later c'.dials := by
  have begun : c.begun.dialler = d.later c.begun.dials := by
    simp only [begun, Dialler.later_succ, left]
  cases h with
  | shared => exact left
  | connected => exact begun
  | refused => exact begun
  | abandoned => exact begun
  | endless => exact begun

end Outcomes

end ControlPlane.Connection
