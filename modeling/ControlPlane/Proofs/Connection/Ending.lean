import ControlPlane.Proofs.Connection.Outlook

/-!
# Every caller gets its result

* `Slot.Stuck` -- a caller without a deadline has met a dial that never ends;
* `Regular.progress` -- **otherwise something can happen as long as a caller is not done**, and it
  uses up some work, or some of the time that the dial in progress has left;
* `Regular.ends` -- hence all callers are done some day, or a caller is stuck;
* `Run.accesses_eq`, `Run.connection_eq` -- **when all are done, they have got what `join` says**;
* `stuck_iff` -- a caller can be stuck exactly if `join` lets one wait for ever.
-/

namespace ControlPlane

/-! ## 1. Work and time left -/

namespace Caller

/-- A caller without a deadline dials, and the dial never ends. -/
def Stuck (x : Caller) : Prop :=
  ∃ dial since, x.phase = .dialling dial since ∧ dial.outcome = .hangs ∧ x.deadline = none

/-- How many steps a caller has before it. -/
def work (x : Caller) : Nat :=
  match x.phase with
  | .waiting => 2
  | .dialling _ _ => 1
  | .done _ => 0

/-- How long a dial goes on: up to its end or, if it has none, up to the deadline. -/
def left (x : Caller) (t : Nat) : Nat :=
  match x.phase with
  | .waiting | .done _ => 0
  | .dialling dial since =>
    match dial.endsAt since, x.deadline with
    | some stop, _ => stop - t
    | none, some d => d.ticks - t
    | none, none => 0

theorem work_pos {x : Caller} (h : ¬ x.Done) : 0 < x.work := by
  unfold work
  cases hp : x.phase with
  | waiting => exact Nat.two_pos
  | dialling dial since => exact Nat.one_pos
  | done fate => exact absurd ⟨fate, hp⟩ h

/-- Time that passes is time that is not left. -/
theorem left_lt {x : Caller} {t : Nat} (h : x.HoldsOn t) (moves : ¬ x.Stuck) :
    x.left (t + 1) < x.left t := by
  obtain ⟨dial, since, hp, runs, waits⟩ := h
  simp only [left, hp]
  cases hs : dial.endsAt since with
  | some stop =>
    have := runs stop hs
    simp only
    omega
  | none =>
    cases hd : x.deadline with
    | some d =>
      have : ¬ d.ticks ≤ t := fun late => waits ⟨d, hd, late⟩
      simp only
      omega
    | none =>
      refine absurd ⟨dial, since, hp, ?_, hd⟩ moves
      unfold Dial.endsAt at hs
      cases ho : dial.outcome with
      | hangs => rfl
      | connects => rw [ho] at hs; cases hs
      | fails reason => rw [ho] at hs; cases hs

end Caller

/-- Nobody that is done waits for ever. -/
theorem Fate.access_ne_never (fate : Fate) : fate.access ≠ .never := by
  cases fate <;> exact fun h => nomatch h

namespace Slot

/-- A caller is stuck. -/
def Stuck (g : Slot) : Prop := ∃ x ∈ g.callers, x.Stuck

/-- How many steps all callers have before them. -/
def work (g : Slot) : Nat := g.callers.foldr (fun x others => x.work + others) 0

/-- How long the dial in progress goes on. -/
def left (g : Slot) : Nat :=
  match g.callers.find? Caller.isDialling with
  | some x => x.left g.clock
  | none => 0

section Work

variable {g : Slot} {before after : List Caller} {x y : Caller} {c : Connection} {t : Nat}

/-- A caller that comes forward takes work away. -/
theorem work_lt (here : g.callers = before ++ x :: after) (less : y.work < x.work) :
    work ⟨c, t, before ++ y :: after⟩ < g.work := by
  unfold work
  rw [here]
  clear here
  induction before with
  | nil =>
    simp only [List.nil_append, List.foldr_cons]
    omega
  | cons z before ih =>
    simp only [List.cons_append, List.foldr_cons] at ih ⊢
    omega

/-- While time passes, the one that dials has less time left. -/
theorem Regular.left_lt (hg : g.Regular) (taken : g.Taken) (moves : ¬ g.Stuck) :
    left ⟨g.connection, g.clock + 1, g.callers⟩ < g.left := by
  obtain ⟨x, hx, holds⟩ := taken
  have dials : x.isDialling = true := by
    obtain ⟨dial, since, hp, _⟩ := holds
    exact Caller.dialling_of_phase hp
  have found : g.callers.find? Caller.isDialling = some x := by
    cases hf : g.callers.find? Caller.isDialling with
    | none =>
      rw [List.find?_eq_none] at hf
      exact absurd dials (hf x hx)
    | some y =>
      exact congrArg some
        (hg.dialling_unique hx (List.mem_of_find?_eq_some hf) dials (List.find?_some hf))
  simp only [left, found]
  exact Caller.left_lt holds fun stuck => moves ⟨x, hx, stuck⟩

end Work

/-! ## 2. Progress -/

/-- One slot is nearer to the end than another one. -/
def Nearer (k g : Slot) : Prop := k.work < g.work ∨ k.work = g.work ∧ k.left < g.left

section Progress

variable {g : Slot} {x : Caller}

/-- Who can be done now brings the slot nearer to the end. -/
theorem nearer_of_settles {fate : Fate} {c : Connection} (hx : x ∈ g.callers)
    (settles : Settles g x fate c) : ∃ k, Step g k ∧ k.Nearer g := by
  obtain ⟨before, after, here⟩ := List.append_of_mem hx
  exact ⟨_, .settled here settles, .inl (work_lt here (Caller.work_pos settles.undone))⟩

/-- Somebody dials: the dial ends, is abandoned, outlasts a deadline in the queue, or goes on. -/
theorem Regular.progress_dialling (hg : g.Regular) (moves : ¬ g.Stuck) {dial : Dial} {since : Nat}
    (hx : x ∈ g.callers) (dials : x.phase = .dialling dial since) :
    ∃ k, Step g k ∧ k.Nearer g := by
  by_cases ends : dial.endsAt since = some g.clock
  · cases ho : dial.outcome with
    | connects => exact nearer_of_settles hx (.connected dials ends ho)
    | fails reason => exact nearer_of_settles hx (.refused dials ends ho)
    | hangs =>
      unfold Dial.endsAt at ends
      rw [ho] at ends
      cases ends
  have runs : NotBefore (g.clock + 1) (dial.endsAt since) := by
    intro stop hs
    have atLeast := hg.running x hx dial since dials stop hs
    have other : stop ≠ g.clock := fun same => ends (same ▸ hs)
    omega
  by_cases due : x.Due g.clock
  · obtain ⟨d, hd, late⟩ := due
    exact nearer_of_settles hx (.abandoned dials hd late runs)
  have taken : g.Taken := ⟨x, hx, dial, since, dials, runs, due⟩
  by_cases patient : ∀ y ∈ g.callers, y.phase = .waiting → ¬ y.Due g.clock
  · exact ⟨_, .passed taken patient, .inr ⟨rfl, hg.left_lt taken moves⟩⟩
  · obtain ⟨y, hy, waits, d, hd, late⟩ :
        ∃ y ∈ g.callers, y.phase = .waiting ∧ y.Due g.clock := by
      simpa using patient
    exact nearer_of_settles hy (.expired waits hd late taken)

/-- Nobody dials: who waits shares the connection, or the first of those dials. -/
theorem progress_waiting (free : ∀ y ∈ g.callers, y.isDialling = false) (hx : x ∈ g.callers)
    (waits : x.phase = .waiting) : ∃ k, Step g k ∧ k.Nearer g := by
  cases made : g.connection.connected with
  | true => exact nearer_of_settles hx (.shared waits made)
  | false =>
    obtain ⟨y, found⟩ : ∃ y, g.callers.find? (fun z => decide (z.phase = .waiting)) = some y := by
      refine Option.isSome_iff_exists.mp (List.find?_isSome.mpr ⟨x, hx, ?_⟩)
      exact decide_eq_true waits
    obtain ⟨first, before, after, here, others⟩ := List.find?_eq_some_iff_append.mp found
    have waits' := of_decide_eq_true first
    refine ⟨_, .began here waits' made (fun z hz => ?_) free, .inl (work_lt here ?_)⟩
    · simpa using others z hz
    · simp only [Caller.work, waits']
      exact Nat.one_lt_two

/-- **As long as a caller is not done, and none is stuck, something can happen.** -/
theorem Regular.progress (hg : g.Regular) (moves : ¬ g.Stuck) (unfinished : ¬ g.Finished) :
    ∃ k, Step g k ∧ k.Nearer g := by
  obtain ⟨x, hx, undone⟩ : ∃ x ∈ g.callers, ¬ x.Done := by
    simpa [Finished] using unfinished
  by_cases free : ∀ y ∈ g.callers, y.isDialling = false
  · refine progress_waiting free hx (Classical.byContradiction fun busy => undone ?_)
    exact Caller.done_of_quiet busy (free x hx)
  · obtain ⟨y, hy, dialling⟩ : ∃ y ∈ g.callers, y.isDialling = true := by
      simpa using free
    obtain ⟨dial, since, dials⟩ := Caller.isDialling_iff.mp dialling
    exact hg.progress_dialling moves hy dials

end Progress

/-- **All callers are done some day, or one is stuck.** -/
theorem Regular.ends {g : Slot} (hg : g.Regular) : ∃ k, Run g k ∧ (k.Finished ∨ k.Stuck) := by
  by_cases finished : g.Finished
  · exact ⟨g, .stay g, .inl finished⟩
  by_cases stuck : g.Stuck
  · exact ⟨g, .stay g, .inr stuck⟩
  obtain ⟨k, first, nearer⟩ := hg.progress stuck finished
  obtain ⟨l, others, done⟩ := (first.regular hg).ends
  exact ⟨l, .step first others, done⟩
termination_by (g.work, g.left)
decreasing_by
  rcases nearer with less | ⟨same, less⟩
  · exact Prod.Lex.left _ _ less
  · rw [same]
    exact Prod.Lex.right _ less

/-! ## 3. Results -/

section Results

variable {g k : Slot} {deadlines : List (Option Duration)}

/-- When a group comes, its callers will have got what `join` says. -/
theorem Finished.outlook_call (idle : g.Finished) (deadlines : List (Option Duration)) :
    (g.call deadlines).outlook.accesses =
        g.fates.map Fate.access ++ (g.connection.join deadlines).accesses ∧
      (g.call deadlines).outlook.connection = (g.connection.join deadlines).connection := by
  have came := Connection.foresee_new g.connection (some 0) deadlines
  unfold Slot.outlook call Connection.join
  rw [Connection.foresee_append, Connection.foresee_done _ _ idle]
  exact ⟨congrArg _ came.1, came.2⟩

/-- Once all are done, nothing is left to be foreseen. -/
theorem Finished.outlook_eq (done : g.Finished) :
    g.outlook = ⟨g.fates.map Fate.access, g.connection, some g.clock⟩ :=
  Connection.foresee_done g.connection (some g.clock) done

/-- **When all are done, the callers of a group have got what `join` says.** -/
theorem Run.accesses_eq (idle : g.Finished) (run : Run (g.call deadlines) k) (done : k.Finished) :
    k.fates.map Fate.access =
      g.fates.map Fate.access ++ (g.connection.join deadlines).accesses := by
  have same := congrArg Outlook.accesses (run.outlook (idle.regular_call deadlines))
  rw [done.outlook_eq, (idle.outlook_call deadlines).1] at same
  exact same

/-- **So is the connection.** -/
theorem Run.connection_eq (idle : g.Finished) (run : Run (g.call deadlines) k)
    (done : k.Finished) : k.connection = (g.connection.join deadlines).connection := by
  have same := congrArg Outlook.connection (run.outlook (idle.regular_call deadlines))
  rw [done.outlook_eq, (idle.outlook_call deadlines).2] at same
  exact same

/-- A caller that is stuck will wait for ever. -/
theorem Regular.never_of_stuck (hg : g.Regular) (stuck : g.Stuck) :
    .never ∈ g.outlook.accesses := by
  obtain ⟨x, hx, dial, since, dials, hangs, deadline⟩ := stuck
  obtain ⟨before, after, here⟩ := List.append_of_mem hx
  have dialling : x.isDialling = true := Caller.dialling_of_phase dials
  have before_done := hg.done_before here (Caller.dial?_of_dialling dialling)
  have never : (x.passage g.connection (some g.clock)).access = .never := by
    simp only [Caller.passage, dials, Connection.underway, deadline, hangs, Option.filter_none]
  unfold Slot.outlook
  rw [here, Connection.foresee_append, Connection.foresee_done _ _ before_done]
  simp only [Connection.foresee, never]
  exact List.mem_append_right _ List.mem_cons_self

/-- **A caller can be stuck exactly if `join` lets one wait for ever.** -/
theorem stuck_iff (c : Connection) (deadlines : List (Option Duration)) :
    (∃ g, Run (gather c deadlines) g ∧ g.Stuck) ↔ .never ∈ (c.join deadlines).accesses := by
  have start : (gather c deadlines).outlook.accesses = (c.join deadlines).accesses :=
    ((finished_new c).outlook_call deadlines).1
  constructor
  · rintro ⟨g, run, stuck⟩
    have never := (run.regular (regular_gather c deadlines)).never_of_stuck stuck
    rw [run.outlook (regular_gather c deadlines), start] at never
    exact never
  · intro never
    obtain ⟨k, run, done | stuck⟩ := (regular_gather c deadlines).ends
    · have got : k.fates.map Fate.access = (c.join deadlines).accesses :=
        run.accesses_eq (finished_new c) done
      rw [← got, List.mem_map] at never
      obtain ⟨fate, _, hf⟩ := never
      exact absurd hf fate.access_ne_never
    · exact ⟨k, run, stuck⟩

end Results

end Slot

end ControlPlane
