import ControlPlane.Connection

/-!
# The slot of a connection, step by step

A group of callers waits for a connection. Nothing is computed in advance here: a clock runs, dials
end, deadlines pass.

* `Fate`, `Phase`, `Caller`, `Slot` -- what becomes of a caller, how far it is, and all callers with
  the connection and the clock;
* `Slot.new`, `Slot.call`, `Slot.gather` -- a slot before anybody comes, a group that comes, and the
  first group;
* `Slot.Settles` -- **how a caller may be done now**: it shares a connection, its dial ends, or its
  deadline passes;
* `Slot.Step` -- **everything that can happen next**: a caller is done, the first in the queue dials
  when no other one does, or time passes while a dial goes on;
* `Slot.Regular` -- the invariant: nobody dials beside a connection, who comes before a caller that
  has dialled is done, nobody is kept behind a deadline or the end of a dial;
* `Step.regular`, `Run.regular` -- a step keeps it, hence a run does;
* `Regular.dialling_le_one` -- **two dials are never in progress at once**.

A dial that ends at the very time of a deadline is in time: a caller looks at its dial, or for its
turn in the queue, before it looks at the clock, and callers look in their order.
-/

namespace ControlPlane

/-! ## 1. Callers -/

/-- What became of a caller. -/
inductive Fate where
  /-- It shares a connection that was there before its turn. -/
  | shared
  /-- Its deadline passed before its turn. -/
  | expired (deadline : Duration)
  /-- Its own dial, started at a time, made the connection. -/
  | connected (dial : Dial) (since : Nat)
  /-- Its own dial failed. -/
  | refused (dial : Dial) (since : Nat) (reason : String)
  /-- Its deadline passed while its own dial went on. -/
  | abandoned (dial : Dial) (since : Nat) (deadline : Duration)
  deriving DecidableEq

namespace Fate

/-- What a caller gets. -/
def access : Fate → Access
  | .shared | .connected _ _ => .granted
  | .expired d | .abandoned _ _ d => .denied (Connection.timedOut d)
  | .refused _ _ reason => .denied (Status.unreachable reason)

/-- The dial that a caller started, if it started one. -/
def dial? : Fate → Option Dial
  | .shared | .expired _ => none
  | .connected dial _ | .refused dial _ _ | .abandoned dial _ _ => some dial

end Fate

/-- How far a caller is. -/
inductive Phase where
  | waiting
  | dialling (dial : Dial) (since : Nat)
  | done (fate : Fate)
  deriving DecidableEq

/-- A caller: its deadline, counted from the start of its group, and how far it is. -/
structure Caller where
  deadline : Option Duration
  phase : Phase
  deriving DecidableEq

/-- A time does not come before another one; the time `none` never comes. -/
def NotBefore (t : Nat) (time : Option Nat) : Prop := ∀ s, time = some s → t ≤ s

/-- A dial does not end before it starts. -/
theorem Dial.le_of_endsAt {dial : Dial} {since stop : Nat} (h : dial.endsAt since = some stop) :
    since ≤ stop := by
  unfold Dial.endsAt at h
  split at h
  · cases h
  · cases h
    exact Nat.le_add_right _ _
  · cases h
    exact Nat.le_add_right _ _

namespace Caller

/-- A caller that comes just now. -/
def new (deadline : Option Duration) : Caller := ⟨deadline, .waiting⟩

/-- The dial that a caller has started, if it has. -/
def dial? (x : Caller) : Option Dial :=
  match x.phase with
  | .waiting => none
  | .dialling dial _ => some dial
  | .done fate => fate.dial?

/-- What became of a caller, if it is done. -/
def fate? (x : Caller) : Option Fate :=
  match x.phase with
  | .waiting | .dialling _ _ => none
  | .done fate => some fate

/-- Whether a caller dials. -/
def isDialling (x : Caller) : Bool :=
  match x.phase with
  | .dialling _ _ => true
  | .waiting | .done _ => false

def Done (x : Caller) : Prop := ∃ fate, x.phase = .done fate

/-- A caller whose deadline is reached. -/
def Due (x : Caller) (t : Nat) : Prop := ∃ d, x.deadline = some d ∧ d.ticks ≤ t

/-- A caller that dials, and will go on with it: neither has the dial ended at a time nor has the
    deadline been reached. -/
def HoldsOn (x : Caller) (t : Nat) : Prop :=
  ∃ dial since, x.phase = .dialling dial since ∧ NotBefore (t + 1) (dial.endsAt since) ∧ ¬ x.Due t

theorem isDialling_iff {x : Caller} :
    x.isDialling = true ↔ ∃ dial since, x.phase = .dialling dial since := by
  unfold isDialling
  cases x.phase with
  | waiting => simp
  | dialling dial since => simp
  | done fate => simp

theorem dialling_of_phase {x : Caller} {dial : Dial} {since : Nat}
    (h : x.phase = .dialling dial since) : x.isDialling = true :=
  isDialling_iff.mpr ⟨dial, since, h⟩

theorem Done.not_dialling {x : Caller} (h : x.Done) : x.isDialling = false := by
  obtain ⟨fate, hf⟩ := h
  rw [isDialling, hf]

theorem not_done_of_waiting {x : Caller} (h : x.phase = .waiting) : ¬ x.Done := by
  rintro ⟨fate, hf⟩
  rw [h] at hf
  cases hf

theorem not_done_of_dialling {x : Caller} (h : x.isDialling = true) : ¬ x.Done := fun done => by
  rw [done.not_dialling] at h
  cases h

/-- Who neither waits nor dials is done. -/
theorem done_of_quiet {x : Caller} (waits : x.phase ≠ .waiting) (quiet : x.isDialling = false) :
    x.Done := by
  cases hp : x.phase with
  | waiting => exact absurd hp waits
  | dialling dial since => rw [isDialling, hp] at quiet; cases quiet
  | done fate => exact ⟨fate, hp⟩

theorem dial?_of_dialling {x : Caller} (h : x.isDialling = true) : x.dial? ≠ none := by
  obtain ⟨dial, since, hp⟩ := isDialling_iff.mp h
  rw [dial?, hp]
  exact Option.some_ne_none dial

end Caller

/-! ## 2. Steps -/

/-- A connection after its next dial has been started. -/
def Connection.begun (c : Connection) : Connection := ⟨c.dialler.next.2, false, c.dials + 1⟩

/-- The slot of a connection: the connection, the time since the group started, and the callers in
    the order in which they came. -/
structure Slot where
  connection : Connection
  clock : Nat
  callers : List Caller

namespace Slot

/-- All callers are done. -/
def Finished (g : Slot) : Prop := ∀ x ∈ g.callers, x.Done

/-- What became of the callers that are done. -/
def fates (g : Slot) : List Fate := g.callers.filterMap Caller.fate?

/-- The dials that were started, in the order of those who started them. -/
def started (g : Slot) : List Dial := g.callers.filterMap Caller.dial?

/-- The slot of a connection, before anybody comes. -/
def new (c : Connection) : Slot := ⟨c, 0, []⟩

/-- A group of callers comes; time counts from now on. -/
def call (g : Slot) (deadlines : List (Option Duration)) : Slot :=
  ⟨g.connection, 0, g.callers ++ deadlines.map Caller.new⟩

/-- The first group of callers comes to a connection. -/
def gather (c : Connection) (deadlines : List (Option Duration)) : Slot := (new c).call deadlines

theorem finished_new (c : Connection) : (new c).Finished := fun x hx => by cases hx

/-- The slot is taken: somebody dials and goes on with it. -/
def Taken (g : Slot) : Prop := ∃ x ∈ g.callers, x.HoldsOn g.clock

/-- **How a caller may be done now, and what the connection is then.** One that waits shares a
    connection that is there, or its deadline is reached while the slot is taken. One that dials is
    done when its dial ends, or when its deadline is reached and the dial goes on. -/
inductive Settles (g : Slot) (x : Caller) : Fate → Connection → Prop where
  | shared (waits : x.phase = .waiting) (made : g.connection.connected = true) :
      Settles g x .shared g.connection
  | expired {d : Duration} (waits : x.phase = .waiting) (deadline : x.deadline = some d)
      (late : d.ticks ≤ g.clock) (taken : g.Taken) : Settles g x (.expired d) g.connection
  | connected {dial : Dial} {since : Nat} (dials : x.phase = .dialling dial since)
      (ends : dial.endsAt since = some g.clock) (succeeds : dial.outcome = .connects) :
      Settles g x (.connected dial since) { g.connection with connected := true }
  | refused {dial : Dial} {since : Nat} {reason : String} (dials : x.phase = .dialling dial since)
      (ends : dial.endsAt since = some g.clock) (fails : dial.outcome = .fails reason) :
      Settles g x (.refused dial since reason) g.connection
  | abandoned {dial : Dial} {since : Nat} {d : Duration} (dials : x.phase = .dialling dial since)
      (deadline : x.deadline = some d) (late : d.ticks ≤ g.clock)
      (runs : NotBefore (g.clock + 1) (dial.endsAt since)) :
      Settles g x (.abandoned dial since d) g.connection

/-- **What can happen in a slot.** A caller is done. Without a connection the first that waits
    starts the next dial, if nobody dials. Time passes while the slot is taken and no deadline of a
    waiting caller is reached. -/
inductive Step (g : Slot) : Slot → Prop where
  | settled {before after : List Caller} {x : Caller} {fate : Fate} {c : Connection}
      (here : g.callers = before ++ x :: after) (settles : Settles g x fate c) :
      Step g ⟨c, g.clock, before ++ { x with phase := .done fate } :: after⟩
  | began {before after : List Caller} {x : Caller} (here : g.callers = before ++ x :: after)
      (waits : x.phase = .waiting) (unmade : g.connection.connected = false)
      (first : ∀ y ∈ before, y.phase ≠ .waiting)
      (free : ∀ y ∈ g.callers, y.isDialling = false) :
      Step g ⟨g.connection.begun, g.clock,
        before ++ { x with phase := .dialling g.connection.dialler.next.1 g.clock } :: after⟩
  | passed (taken : g.Taken) (patient : ∀ x ∈ g.callers, x.phase = .waiting → ¬ x.Due g.clock) :
      Step g ⟨g.connection, g.clock + 1, g.callers⟩

/-- Steps in a row. -/
inductive Run : Slot → Slot → Prop where
  | stay (g : Slot) : Run g g
  | step {g k l : Slot} (first : Step g k) (others : Run k l) : Run g l

theorem Run.append {g k l : Slot} (h : Run g k) (h' : Run k l) : Run g l := by
  induction h with
  | stay => exact h'
  | step first _ ih => exact .step first (ih h')

section Places

variable {α : Type} {all before after : List α} {x : α}

theorem mem_here (here : all = before ++ x :: after) : x ∈ all := by
  rw [here, List.perm_middle.mem_iff]
  exact List.mem_cons_self

theorem mem_beside (here : all = before ++ x :: after) {y : α} (hy : y ∈ before ++ after) :
    y ∈ all := by
  rw [here, List.perm_middle.mem_iff]
  exact List.mem_cons_of_mem x hy

end Places

section Settling

variable {g : Slot} {x : Caller} {fate : Fate} {c : Connection}

/-- Who is done now was not done before. -/
theorem Settles.undone (h : Settles g x fate c) : ¬ x.Done := by
  cases h with
  | shared waits => exact Caller.not_done_of_waiting waits
  | expired waits => exact Caller.not_done_of_waiting waits
  | connected dials => exact Caller.not_done_of_dialling (Caller.dialling_of_phase dials)
  | refused dials => exact Caller.not_done_of_dialling (Caller.dialling_of_phase dials)
  | abandoned dials => exact Caller.not_done_of_dialling (Caller.dialling_of_phase dials)

/-- A caller is done with the dial that it had started, if any. -/
theorem Settles.dial?_eq (h : Settles g x fate c) : fate.dial? = x.dial? := by
  unfold Caller.dial?
  cases h with
  | shared waits => rw [waits]; rfl
  | expired waits => rw [waits]; rfl
  | connected dials => rw [dials]; rfl
  | refused dials => rw [dials]; rfl
  | abandoned dials => rw [dials]; rfl

/-- Who is done without a dial has waited, and the connection stays as it is: it is shared, or the
    deadline passed while the slot was taken. -/
theorem Settles.of_quiet (h : Settles g x fate c) (quiet : x.isDialling = false) :
    c = g.connection ∧ x.phase = .waiting ∧
      (fate = .shared ∧ g.connection.connected = true ∨
        g.Taken ∧ ∃ d, fate = .expired d ∧ x.deadline = some d ∧ d.ticks ≤ g.clock) := by
  have idle : ∀ dial since, x.phase ≠ .dialling dial since := fun dial since hp => by
    rw [Caller.dialling_of_phase hp] at quiet
    cases quiet
  cases h with
  | shared waits made => exact ⟨rfl, waits, .inl ⟨rfl, made⟩⟩
  | expired waits deadline late taken => exact ⟨rfl, waits, .inr ⟨taken, _, rfl, deadline, late⟩⟩
  | connected dials => exact absurd dials (idle _ _)
  | refused dials => exact absurd dials (idle _ _)
  | abandoned dials => exact absurd dials (idle _ _)

/-- A slot is taken by one that dials. -/
theorem untaken_of_free (free : ∀ y ∈ g.callers, y.isDialling = false) : ¬ g.Taken := by
  rintro ⟨x, hx, dial, since, dials, _⟩
  have quiet := free x hx
  rw [Caller.dialling_of_phase dials] at quiet
  cases quiet

end Settling

/-! ## 3. The invariant -/

/-- **The invariant of a slot.** -/
structure Regular (g : Slot) : Prop where
  /-- Nobody dials beside a connection. -/
  unmade : ∀ x ∈ g.callers, x.isDialling = true → g.connection.connected = false
  /-- Who comes before a caller that has started a dial is done. -/
  ordered : g.callers.Pairwise fun x y => y.dial? ≠ none → x.Done
  /-- Nobody is kept behind a deadline. -/
  timely : ∀ x ∈ g.callers, ¬ x.Done → ∀ d, x.deadline = some d → g.clock ≤ d.ticks
  /-- No dial goes on behind its end. -/
  running : ∀ x ∈ g.callers, ∀ dial since, x.phase = .dialling dial since →
    NotBefore g.clock (dial.endsAt since)

/-- Beside a connection nobody dials. -/
theorem Regular.quiet_of_connected {g : Slot} (hg : g.Regular)
    (made : g.connection.connected = true) : ∀ x ∈ g.callers, x.isDialling = false := by
  intro x hx
  refine Bool.eq_false_iff.mpr fun dials => ?_
  rw [hg.unmade x hx dials] at made
  cases made

section Order

variable {g : Slot} {before after : List Caller} {x : Caller}

/-- Those before a caller that has started a dial are done. -/
theorem Regular.done_before (hg : g.Regular) (here : g.callers = before ++ x :: after)
    (dialled : x.dial? ≠ none) : ∀ y ∈ before, y.Done := by
  have ordered := hg.ordered
  rw [here, List.pairwise_append] at ordered
  exact fun y hy => ordered.2.2 y hy x List.mem_cons_self dialled

/-- Those behind a caller that is not done have not dialled. -/
theorem Regular.undialled_after (hg : g.Regular) (here : g.callers = before ++ x :: after)
    (undone : ¬ x.Done) : ∀ y ∈ after, y.dial? = none := by
  have ordered := hg.ordered
  rw [here, List.pairwise_append, List.pairwise_cons] at ordered
  intro y hy
  refine Classical.byContradiction fun dialled => undone ?_
  exact ordered.2.1.1 y hy dialled

/-- Nobody else dials while a caller does. -/
theorem Regular.alone (hg : g.Regular) (here : g.callers = before ++ x :: after)
    (dials : x.isDialling = true) : ∀ y ∈ before ++ after, y.isDialling = false := by
  intro y hy
  rcases List.mem_append.mp hy with hy | hy
  · exact (hg.done_before here (Caller.dial?_of_dialling dials) y hy).not_dialling
  · refine Bool.eq_false_iff.mpr fun hd => ?_
    exact Caller.dial?_of_dialling hd
      (hg.undialled_after here (Caller.not_done_of_dialling dials) y hy)

/-- **Two dials are never in progress at once.** -/
theorem Regular.dialling_le_one (hg : g.Regular) : g.callers.countP Caller.isDialling ≤ 1 := by
  by_cases none : ∀ x ∈ g.callers, x.isDialling = false
  · rw [List.countP_eq_zero.mpr fun x hx => Bool.eq_false_iff.mp (none x hx)]
    exact Nat.zero_le 1
  · obtain ⟨x, hx, dials⟩ : ∃ x ∈ g.callers, x.isDialling = true := by
      simpa using none
    obtain ⟨before, after, here⟩ := List.append_of_mem hx
    have alone := hg.alone here dials
    have rest : (before ++ after).countP Caller.isDialling = 0 :=
      List.countP_eq_zero.mpr fun y hy => Bool.eq_false_iff.mp (alone y hy)
    rw [List.countP_append] at rest
    rw [here, List.countP_append, List.countP_cons, dials, if_pos rfl]
    omega

/-- The one that dials is known by that. -/
theorem Regular.dialling_unique (hg : g.Regular) {y : Caller} (hx : x ∈ g.callers)
    (hy : y ∈ g.callers) (dials : x.isDialling = true) (dials' : y.isDialling = true) : y = x := by
  obtain ⟨before, after, here⟩ := List.append_of_mem hx
  rw [here, List.perm_middle.mem_iff, List.mem_cons] at hy
  rcases hy with rfl | hy
  · rfl
  · rw [hg.alone here dials y hy] at dials'
    cases dials'

/-- While nobody dials, those before the first that waits are done. -/
theorem done_before_first (here : g.callers = before ++ x :: after)
    (first : ∀ y ∈ before, y.phase ≠ .waiting) (free : ∀ y ∈ g.callers, y.isDialling = false) :
    ∀ y ∈ before, y.Done := fun y hy =>
  Caller.done_of_quiet (first y hy) (free y (mem_beside here (List.mem_append_left after hy)))

end Order

/-- A group that comes when all are done finds a regular slot. -/
theorem Finished.regular_call {g : Slot} (idle : g.Finished) (deadlines : List (Option Duration)) :
    (g.call deadlines).Regular := by
  have came : ∀ x ∈ (g.call deadlines).callers, x.Done ∨ x.phase = .waiting := by
    intro x hx
    rcases List.mem_append.mp hx with hx | hx
    · exact .inl (idle x hx)
    · obtain ⟨d, _, rfl⟩ := List.mem_map.mp hx
      exact .inr rfl
  have quiet : ∀ x ∈ (g.call deadlines).callers, x.isDialling = false := by
    intro x hx
    rcases came x hx with done | waits
    · exact done.not_dialling
    · rw [Caller.isDialling, waits]
  refine ⟨fun x hx dials => ?_, ?_, fun _ _ _ _ _ => Nat.zero_le _, fun x hx _ _ hp => ?_⟩
  · rw [quiet x hx] at dials
    cases dials
  · refine List.pairwise_append.mpr ⟨?_, ?_, fun x hx _ _ _ => idle x hx⟩
    · exact List.pairwise_iff_forall_sublist.mpr fun hs _ => idle _ (hs.subset (by simp))
    · refine List.pairwise_iff_forall_sublist.mpr fun {x y} hs dialled => ?_
      obtain ⟨d, _, rfl⟩ := List.mem_map.mp (hs.subset (by simp) : y ∈ deadlines.map Caller.new)
      exact absurd rfl dialled
  · have dials := quiet x hx
    rw [Caller.isDialling, hp] at dials
    cases dials

theorem regular_gather (c : Connection) (deadlines : List (Option Duration)) :
    (gather c deadlines).Regular :=
  (finished_new c).regular_call deadlines

/-- **A caller that is done leaves the slot regular.** -/
theorem Regular.settle {g : Slot} (hg : g.Regular) {before after : List Caller} {x : Caller}
    {fate : Fate} {c : Connection} (here : g.callers = before ++ x :: after)
    (settles : Settles g x fate c) :
    Regular ⟨c, g.clock, before ++ { x with phase := .done fate } :: after⟩ := by
  have done : ({ x with phase := .done fate } : Caller).Done := ⟨fate, rfl⟩
  -- whoever is not done was there before
  have others : ∀ y ∈ before ++ { x with phase := .done fate } :: after, ¬ y.Done →
      y ∈ before ++ after := by
    intro y hy undone
    rw [List.perm_middle.mem_iff, List.mem_cons] at hy
    rcases hy with rfl | hy
    · exact absurd done undone
    · exact hy
  refine ⟨fun y hy dials => ?_, ?_, fun y hy undone => ?_, fun y hy dial since hp => ?_⟩
  · have hy' := others y hy (Caller.not_done_of_dialling dials)
    cases mine : x.isDialling with
    | true =>
      rw [hg.alone here mine y hy'] at dials
      cases dials
    | false =>
      rw [(settles.of_quiet mine).1]
      exact hg.unmade y (mem_beside here hy') dials
  · have ordered := hg.ordered
    rw [here, List.pairwise_append, List.pairwise_cons] at ordered
    obtain ⟨hb, ⟨_, ha⟩, hc⟩ := ordered
    refine List.pairwise_append.mpr ⟨hb, List.pairwise_cons.mpr ⟨fun _ _ _ => done, ha⟩, ?_⟩
    intro y hy z hz dialled
    rcases List.mem_cons.mp hz with rfl | hz
    · refine hc y hy x List.mem_cons_self ?_
      rw [← settles.dial?_eq]
      exact dialled
    · exact hc y hy z (List.mem_cons_of_mem x hz) dialled
  · exact hg.timely y (mem_beside here (others y hy undone)) undone
  · have dials : y.isDialling = true := Caller.dialling_of_phase hp
    exact hg.running y (mem_beside here (others y hy (Caller.not_done_of_dialling dials))) dial
      since hp

/-- So does one that starts to dial. -/
theorem Regular.begin {g : Slot} (hg : g.Regular) {before after : List Caller} {x : Caller}
    (here : g.callers = before ++ x :: after) (waits : x.phase = .waiting)
    (first : ∀ y ∈ before, y.phase ≠ .waiting) (free : ∀ y ∈ g.callers, y.isDialling = false) :
    Regular ⟨g.connection.begun, g.clock,
      before ++ { x with phase := .dialling g.connection.dialler.next.1 g.clock } :: after⟩ := by
  have undone : ¬ x.Done := Caller.not_done_of_waiting waits
  refine ⟨fun _ _ _ => rfl, ?_, fun y hy hu d hd => ?_, fun y hy dial since hp => ?_⟩
  · have ordered := hg.ordered
    rw [here, List.pairwise_append, List.pairwise_cons] at ordered
    obtain ⟨hb, ⟨_, ha⟩, _⟩ := ordered
    refine List.pairwise_append.mpr ⟨hb, List.pairwise_cons.mpr ⟨fun y hy dialled => ?_, ha⟩,
      fun y hy _ _ _ => done_before_first here first free y hy⟩
    exact absurd (hg.undialled_after here undone y hy) dialled
  · rw [List.perm_middle.mem_iff, List.mem_cons] at hy
    rcases hy with rfl | hy
    · exact hg.timely x (mem_here here) undone d hd
    · exact hg.timely y (mem_beside here hy) hu d hd
  · rw [List.perm_middle.mem_iff, List.mem_cons] at hy
    rcases hy with rfl | hy
    · cases hp
      exact fun stop hs => Dial.le_of_endsAt hs
    · have quiet := free y (mem_beside here hy)
      rw [Caller.isDialling, hp] at quiet
      cases quiet

/-- **A step keeps a slot regular.** -/
theorem Step.regular {g k : Slot} (h : Step g k) (hg : g.Regular) : k.Regular := by
  cases h with
  | settled here settles => exact hg.settle here settles
  | began here waits _ first free => exact hg.begin here waits first free
  | passed taken patient =>
    obtain ⟨x, hx, dial, since, dials, runs, waits⟩ := taken
    have dialling : x.isDialling = true := Caller.dialling_of_phase dials
    refine ⟨hg.unmade, hg.ordered, fun y hy undone d hd => ?_, fun y hy dial' since' hp => ?_⟩
    · refine Nat.lt_of_not_le fun late => ?_
      cases hp : y.phase with
      | waiting => exact patient y hy hp ⟨d, hd, late⟩
      | dialling dial' since' =>
        have same := hg.dialling_unique hx hy dialling (Caller.dialling_of_phase hp)
        exact waits (same ▸ ⟨d, hd, late⟩)
      | done fate => exact undone ⟨fate, hp⟩
    · have same := hg.dialling_unique hx hy dialling (Caller.dialling_of_phase hp)
      rw [same, dials] at hp
      cases hp
      exact runs

/-- **So does a run.** -/
theorem Run.regular {g k : Slot} (h : Run g k) (hg : g.Regular) : k.Regular := by
  induction h with
  | stay => exact hg
  | step first _ ih => exact ih (first.regular hg)

end Slot

end ControlPlane
