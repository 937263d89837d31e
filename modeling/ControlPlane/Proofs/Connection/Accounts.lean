import ControlPlane.Proofs.Connection.Ending
import ControlPlane.Proofs.Connection.Permanence

/-!
# The accounts of a connection

Which dials were started, by whom, and what they led to.

* `Dialler.upcoming`, `Dialler.later` -- the next dials, and what is left behind them;
* `Fate.Fair` -- what became of a caller is true to its deadline and to the dial it started;
* `Slot.Accounted` -- the invariant: the dials that were started are the next ones of the script, in
  the order of the callers, and the connection is there exactly if one of them made it;
* `Step.accounted`, `Run.accounted` -- a step keeps it, hence a run does;
* `started_length` -- **every dial that was started is told as a failure, was abandoned, made the
  connection, or goes on**;
* `Slot.Balanced`, `join_accounts` -- **the accounts of a group of callers**.
-/

namespace ControlPlane

/-! ## 1. Dials to come -/

namespace Dialler

/-- The next dials, a number of them. -/
def upcoming (d : Dialler) : Nat → List Dial
  | 0 => []
  | n + 1 => d.next.1 :: d.next.2.upcoming n

/-- The dials behind a number of dials. -/
def later (d : Dialler) : Nat → Dialler
  | 0 => d
  | n + 1 => d.next.2.later n

theorem upcoming_succ (d : Dialler) (n : Nat) :
    d.upcoming (n + 1) = d.upcoming n ++ [(d.later n).next.1] := by
  induction n generalizing d with
  | zero => rfl
  | succ n ih => exact congrArg (d.next.1 :: ·) (ih d.next.2)

theorem later_succ (d : Dialler) (n : Nat) : d.later (n + 1) = (d.later n).next.2 := by
  induction n generalizing d with
  | zero => rfl
  | succ n ih => exact ih d.next.2

end Dialler

/-! ## 2. Fates -/

/-- Whether a caller is told that the server is unavailable. -/
def Access.isUnavailable : Access → Bool
  | .denied status => status.code = .unavailable
  | .granted | .never => false

namespace Fate

def isRefused : Fate → Bool
  | .refused _ _ _ => true
  | .shared | .expired _ | .connected _ _ | .abandoned _ _ _ => false

def isAbandoned : Fate → Bool
  | .abandoned _ _ _ => true
  | .shared | .expired _ | .connected _ _ | .refused _ _ _ => false

def isConnected : Fate → Bool
  | .connected _ _ => true
  | .shared | .expired _ | .refused _ _ _ | .abandoned _ _ _ => false

/-- A dial ends, and not behind a deadline. -/
def InTime (dial : Dial) (since : Nat) (deadline : Option Duration) : Prop :=
  ∃ stop, dial.endsAt since = some stop ∧ ∀ d, deadline = some d → stop ≤ d.ticks

/-- **What became of a caller is true to its deadline and to its dial.** -/
def Fair (deadline : Option Duration) : Fate → Prop
  | .shared => True
  | .expired d => deadline = some d
  | .connected dial since => dial.outcome = .connects ∧ InTime dial since deadline
  | .refused dial since reason => dial.outcome = .fails reason ∧ InTime dial since deadline
  | .abandoned dial since d => deadline = some d ∧ NotBefore (d.ticks + 1) (dial.endsAt since)

/-- Only who started a dial that failed is told that the server is unavailable. -/
theorem isUnavailable_access (fate : Fate) : fate.access.isUnavailable = fate.isRefused := by
  cases fate <;> rfl

end Fate

/-- A caller is done, with something that it gets. -/
def Caller.DoneWith (x : Caller) (fate : Fate) (access : Access) : Prop :=
  x.phase = .done fate ∧ fate.access = access

/-- A dial of a caller made the connection, or failed and its reason was told, both in time; or the
    caller's deadline came first, and that was told. -/
def Caller.HasOutcome (x : Caller) (dial : Dial) : Prop :=
  ∃ since,
    (x.DoneWith (.connected dial since) .granted ∧ dial.outcome = .connects ∧
      Fate.InTime dial since x.deadline) ∨
    (∃ reason, x.DoneWith (.refused dial since reason)
        (.denied ⟨.unavailable, "Failed to connect: '" ++ reason ++ "'", none⟩) ∧
      dial.outcome = .fails reason ∧ Fate.InTime dial since x.deadline) ∨
    (∃ d, x.DoneWith (.abandoned dial since d)
        (.denied ⟨.deadlineExceeded, "Failed to connect within " ++ d.text, none⟩) ∧
      x.deadline = some d ∧ NotBefore (d.ticks + 1) (dial.endsAt since))

/-! ## 3. The invariant -/

namespace Slot

/-- **The accounts of a slot** at which a connection `c` was before anybody came. -/
structure Accounted (c : Connection) (g : Slot) : Prop where
  /-- The dials that were started are counted, -/
  dials : g.connection.dials = c.dials + g.started.length
  /-- are the next ones of the script, in the order of the callers, -/
  script : g.started = c.dialler.upcoming g.started.length
  /-- and the dials behind them are still to come. -/
  dialler : g.connection.dialler = c.dialler.later g.started.length
  /-- The connection was there before, or one caller's dial made it. -/
  made : g.connection.connected.toNat = c.connected.toNat + g.fates.countP Fate.isConnected
  /-- Only a connection that is there is shared. -/
  shared : .shared ∈ g.fates → g.connection.connected = true
  fair : ∀ x ∈ g.callers, ∀ fate, x.phase = .done fate → fate.Fair x.deadline

section Lists

variable {g : Slot} {before after : List Caller} {x : Caller} {c : Connection} {t : Nat}

theorem fates_of_undone (here : g.callers = before ++ x :: after) (undone : ¬ x.Done) :
    g.fates = before.filterMap Caller.fate? ++ after.filterMap Caller.fate? := by
  have none : x.fate? = none := by
    unfold Caller.fate?
    cases hp : x.phase with
    | waiting => rfl
    | dialling dial since => rfl
    | done fate => exact absurd ⟨fate, hp⟩ undone
  rw [fates, here, List.filterMap_append, List.filterMap_cons, none]

theorem fates_settled (fate : Fate) :
    fates ⟨c, t, before ++ { x with phase := .done fate } :: after⟩ =
      before.filterMap Caller.fate? ++ fate :: after.filterMap Caller.fate? := by
  rw [fates, List.filterMap_append, List.filterMap_cons]
  rfl

/-- Who starts to dial is not done yet. -/
theorem fates_begun (here : g.callers = before ++ x :: after) (undone : ¬ x.Done) (dial : Dial)
    (since : Nat) : fates ⟨c, t, before ++ { x with phase := .dialling dial since } :: after⟩ =
      g.fates := by
  rw [fates_of_undone here undone, fates, List.filterMap_append, List.filterMap_cons]
  rfl

/-- Who is done has started what it had started before. -/
theorem started_settled (here : g.callers = before ++ x :: after) {fate : Fate}
    (same : fate.dial? = x.dial?) :
    started ⟨c, t, before ++ { x with phase := .done fate } :: after⟩ = g.started := by
  have mine : ({ x with phase := .done fate } : Caller).dial? = x.dial? := same
  rw [started, started, here, List.filterMap_append, List.filterMap_append, List.filterMap_cons,
    List.filterMap_cons, mine]

/-- A dial that is started comes behind those of the callers before. -/
theorem started_begun (here : g.callers = before ++ x :: after) (waits : x.phase = .waiting)
    (undialled : ∀ y ∈ after, y.dial? = none) (dial : Dial) (since : Nat) :
    started ⟨c, t, before ++ { x with phase := .dialling dial since } :: after⟩ =
      g.started ++ [dial] := by
  have mine : x.dial? = none := by rw [Caller.dial?, waits]
  have others : after.filterMap Caller.dial? = [] := List.filterMap_eq_nil_iff.mpr undialled
  rw [started, started, here, List.filterMap_append, List.filterMap_append, List.filterMap_cons,
    List.filterMap_cons, mine, others, List.append_nil]
  rfl

/-- Who comes just now is not done, -/
theorem fates_call (g : Slot) (deadlines : List (Option Duration)) :
    (g.call deadlines).fates = g.fates := by
  have none : (deadlines.map Caller.new).filterMap Caller.fate? = [] :=
    List.filterMap_eq_nil_iff.mpr fun x hx => by
      obtain ⟨d, _, rfl⟩ := List.mem_map.mp hx
      rfl
  rw [fates, call, List.filterMap_append, none, List.append_nil, fates]

/-- and has not dialled. -/
theorem started_call (g : Slot) (deadlines : List (Option Duration)) :
    (g.call deadlines).started = g.started := by
  have none : (deadlines.map Caller.new).filterMap Caller.dial? = [] :=
    List.filterMap_eq_nil_iff.mpr fun x hx => by
      obtain ⟨d, _, rfl⟩ := List.mem_map.mp hx
      rfl
  rw [started, call, List.filterMap_append, none, List.append_nil, started]

end Lists

section Accounts

variable {c : Connection} {g k : Slot}

theorem accounted_new (c : Connection) : Accounted c (new c) where
  dials := rfl
  script := rfl
  dialler := rfl
  made := rfl
  shared := fun h => by cases h
  fair := fun x hx => by cases hx

theorem Accounted.call (hg : Accounted c g) (deadlines : List (Option Duration)) :
    Accounted c (g.call deadlines) := by
  refine ⟨?_, ?_, ?_, ?_, ?_, fun x hx fate hf => ?_⟩
  · rw [started_call]; exact hg.dials
  · rw [started_call]; exact hg.script
  · rw [started_call]; exact hg.dialler
  · rw [fates_call]; exact hg.made
  · rw [fates_call]; exact hg.shared
  · rcases List.mem_append.mp hx with hx | hx
    · exact hg.fair x hx fate hf
    · obtain ⟨d, _, rfl⟩ := List.mem_map.mp hx
      cases hf

section Settling

variable {before after : List Caller} {x : Caller} {fate : Fate} {c' : Connection}

/-- A caller is done as its dial and its deadline want it. -/
theorem Settles.fair (settles : Settles g x fate c')
    (timely : ∀ d, x.deadline = some d → g.clock ≤ d.ticks) : fate.Fair x.deadline := by
  cases settles with
  | shared => trivial
  | expired _ deadline => exact deadline
  | connected _ ends succeeds => exact ⟨succeeds, g.clock, ends, timely⟩
  | refused _ ends fails => exact ⟨fails, g.clock, ends, timely⟩
  | @abandoned dial since d _ deadline late runs =>
    exact ⟨deadline, fun stop hs => Nat.le_trans (Nat.succ_le_succ late) (runs stop hs)⟩

/-- A caller that is done leaves the dials to come as they are. -/
theorem Settles.dials_eq (settles : Settles g x fate c') :
    c'.dials = g.connection.dials ∧ c'.dialler = g.connection.dialler := by
  cases settles <;> exact ⟨rfl, rfl⟩

/-- Afterwards the connection is there if it was before or the caller's dial made it. -/
theorem Settles.made (settles : Settles g x fate c')
    (unmade : x.isDialling = true → g.connection.connected = false) :
    c'.connected.toNat = g.connection.connected.toNat + fate.isConnected.toNat := by
  cases settles with
  | shared => rfl
  | expired => rfl
  | connected dials =>
    rw [unmade (Caller.dialling_of_phase dials)]
    rfl
  | refused => rfl
  | abandoned => rfl

theorem Settles.connected_of_connected (settles : Settles g x fate c')
    (made : g.connection.connected = true) : c'.connected = true := by
  cases settles with
  | connected => rfl
  | shared => exact made
  | expired => exact made
  | refused => exact made
  | abandoned => exact made

/-- **A caller that is done leaves the accounts in order.** -/
theorem Accounted.settle (hg : Accounted c g) (regular : g.Regular)
    (here : g.callers = before ++ x :: after) (settles : Settles g x fate c') :
    Accounted c ⟨c', g.clock, before ++ { x with phase := .done fate } :: after⟩ := by
  have hx : x ∈ g.callers := mem_here here
  have same := settles.dial?_eq
  refine ⟨?_, ?_, ?_, ?_, fun hs => ?_, fun y hy fate' hf => ?_⟩
  · rw [started_settled here same, ← hg.dials]
    exact settles.dials_eq.1
  · rw [started_settled here same]
    exact hg.script
  · rw [started_settled here same, ← hg.dialler]
    exact settles.dials_eq.2
  · have made := hg.made
    rw [fates_of_undone here settles.undone, List.countP_append] at made
    have one : (if fate.isConnected = true then 1 else 0) = fate.isConnected.toNat := by
      cases fate.isConnected <;> rfl
    rw [fates_settled, List.countP_append, List.countP_cons, one]
    refine (settles.made (regular.unmade x hx)).trans ?_
    omega
  · have shared := hg.shared
    rw [fates_of_undone here settles.undone] at shared
    rw [fates_settled, List.perm_middle.mem_iff, List.mem_cons] at hs
    rcases hs with rfl | hs
    · cases settles with
      | shared _ made => exact made
    · exact settles.connected_of_connected (shared hs)
  · simp only [List.perm_middle.mem_iff, List.mem_cons] at hy
    rcases hy with rfl | hy
    · cases hf
      exact settles.fair (regular.timely x hx settles.undone)
    · exact hg.fair y (mem_beside here hy) fate' hf

/-- So does one that starts to dial. -/
theorem Accounted.begin (hg : Accounted c g) (regular : g.Regular)
    (here : g.callers = before ++ x :: after) (waits : x.phase = .waiting)
    (unmade : g.connection.connected = false) :
    Accounted c ⟨g.connection.begun, g.clock,
      before ++ { x with phase := .dialling g.connection.dialler.next.1 g.clock } :: after⟩ := by
  have undone := Caller.not_done_of_waiting waits
  have undialled := regular.undialled_after here undone
  refine ⟨?_, ?_, ?_, ?_, fun hs => ?_, fun y hy fate hf => ?_⟩
  · rw [started_begun here waits undialled, List.length_append, ← Nat.add_assoc, ← hg.dials]
    rfl
  · rw [started_begun here waits undialled, List.length_append, List.length_singleton,
      Dialler.upcoming_succ, ← hg.dialler, ← hg.script]
  · rw [started_begun here waits undialled, List.length_append, List.length_singleton,
      Dialler.later_succ, ← hg.dialler]
    rfl
  · have made := hg.made
    rw [unmade] at made
    rw [fates_begun here undone]
    exact made
  · rw [fates_begun here undone] at hs
    rw [hg.shared hs] at unmade
    cases unmade
  · simp only [List.perm_middle.mem_iff, List.mem_cons] at hy
    rcases hy with rfl | hy
    · cases hf
    · exact hg.fair y (mem_beside here hy) fate hf

end Settling

/-- **A step keeps the accounts.** -/
theorem Step.accounted (h : Step g k) (regular : g.Regular) (hg : Accounted c g) :
    Accounted c k := by
  cases h with
  | settled here settles => exact hg.settle regular here settles
  | began here waits unmade => exact hg.begin regular here waits unmade
  | passed => exact ⟨hg.dials, hg.script, hg.dialler, hg.made, hg.shared, hg.fair⟩

/-- **So does a run.** -/
theorem Run.accounted (h : Run g k) (regular : g.Regular) (hg : Accounted c g) :
    Accounted c k := by
  induction h with
  | stay => exact hg
  | step first _ ih => exact ih (first.regular regular) (first.accounted regular hg)

/-- **Every dial that was started was told as a failure, was abandoned, made the connection, or
    goes on.** -/
theorem started_length (g : Slot) :
    g.started.length = g.fates.countP Fate.isRefused + g.fates.countP Fate.isAbandoned +
      g.fates.countP Fate.isConnected + g.callers.countP Caller.isDialling := by
  unfold started fates
  induction g.callers with
  | nil => rfl
  | cons x xs ih =>
    obtain ⟨deadline, phase⟩ := x
    rw [List.filterMap_cons, List.filterMap_cons, List.countP_cons]
    cases phase with
    | waiting => exact ih
    | dialling dial since =>
      simp only [Caller.dial?, Caller.fate?, Caller.isDialling, List.length_cons, ih, if_true]
      omega
    | done fate =>
      simp only [Caller.dial?, Caller.fate?, Caller.isDialling, List.countP_cons]
      cases fate <;>
        simp [Fate.dial?, Fate.isRefused, Fate.isAbandoned, Fate.isConnected, ih] <;> omega

end Accounts

/-! ## 4. Groups -/

/-- **The accounts of a group of callers that are all done.** -/
structure Balanced (c : Connection) (deadlines : List (Option Duration)) (g : Slot) : Prop where
  /-- Every caller is at its place with one fate, -/
  callers : g.callers.map Caller.deadline = deadlines ∧
    g.callers.map Caller.phase = g.fates.map Phase.done
  /-- and this is what it gets. -/
  accesses : (c.join deadlines).accesses = g.fates.map Fate.access
  connection : (c.join deadlines).connection = g.connection
  /-- Who has started a dial gets the connection or the reason of the failure, unless its deadline
      comes first. -/
  dialled : ∀ x ∈ g.callers, ∀ dial, x.dial? = some dial → x.HasOutcome dial
  /-- Who is told of a failure has started that dial, is told its reason, and its deadline did not
      come first. -/
  told : ∀ x ∈ g.callers, ∀ fate, x.phase = .done fate → fate.access.isUnavailable = true →
    ∃ dial since reason, fate = .refused dial since reason ∧
      fate.access = .denied ⟨.unavailable, "Failed to connect: '" ++ reason ++ "'", none⟩ ∧
      dial.outcome = .fails reason ∧ Fate.InTime dial since x.deadline
  /-- Only fates with a dial use one up: a deadline that passes in the queue uses none. -/
  started : g.started = g.fates.filterMap Fate.dial?
  /-- A dial is told as a failure, abandoned, or makes the connection. -/
  dials : g.connection.dials = c.dials + (c.join deadlines).accesses.countP Access.isUnavailable +
    g.fates.countP Fate.isAbandoned + (!c.connected && g.connection.connected).toNat
  /-- Without a connection nobody gets one. -/
  refused : g.connection.connected = false → .granted ∉ (c.join deadlines).accesses

section Groups

variable {c : Connection} {g : Slot} {deadlines : List (Option Duration)}

/-- Callers that are done have one fate each, -/
theorem phases_of_done {xs : List Caller} (done : ∀ x ∈ xs, x.Done) :
    xs.map Caller.phase = (xs.filterMap Caller.fate?).map Phase.done := by
  induction xs with
  | nil => rfl
  | cons x xs ih =>
    obtain ⟨fate, hf⟩ := done x List.mem_cons_self
    have mine : x.fate? = some fate := by rw [Caller.fate?, hf]
    rw [List.map_cons, List.filterMap_cons, mine, List.map_cons, hf,
      ih fun y hy => done y (List.mem_cons_of_mem x hy)]

/-- and have started the dials of their fates. -/
theorem dials_of_done {xs : List Caller} (done : ∀ x ∈ xs, x.Done) :
    xs.filterMap Caller.dial? = (xs.filterMap Caller.fate?).filterMap Fate.dial? := by
  induction xs with
  | nil => rfl
  | cons x xs ih =>
    obtain ⟨fate, hf⟩ := done x List.mem_cons_self
    have mine : x.fate? = some fate := by rw [Caller.fate?, hf]
    have dial : x.dial? = fate.dial? := by rw [Caller.dial?, hf]
    rw [List.filterMap_cons, List.filterMap_cons, mine, List.filterMap_cons, dial,
      ih fun y hy => done y (List.mem_cons_of_mem x hy)]

/-- A caller that is done after a dial of its own was told how it ended, or its deadline came
    first. -/
theorem Accounted.dialled (hg : Accounted c g) {x : Caller} (hx : x ∈ g.callers) (done : x.Done)
    {dial : Dial} (dialled : x.dial? = some dial) : x.HasOutcome dial := by
  obtain ⟨fate, hf⟩ := done
  have fair := hg.fair x hx fate hf
  rw [Caller.dial?, hf] at dialled
  cases fate with
  | shared => cases dialled
  | expired d => cases dialled
  | connected dial' since =>
    cases dialled
    exact ⟨since, .inl ⟨⟨hf, rfl⟩, fair⟩⟩
  | refused dial' since reason =>
    cases dialled
    exact ⟨since, .inr (.inl ⟨reason, ⟨hf, rfl⟩, fair⟩)⟩
  | abandoned dial' since d =>
    cases dialled
    exact ⟨since, .inr (.inr ⟨d, ⟨hf, rfl⟩, fair⟩)⟩

/-- **When all callers of a group are done, its accounts balance.** -/
theorem Run.balanced (run : Run (gather c deadlines) g) (done : g.Finished) :
    g.Balanced c deadlines := by
  have hg : Accounted c g :=
    run.accounted (regular_gather c deadlines) ((accounted_new c).call deadlines)
  have accesses : (c.join deadlines).accesses = g.fates.map Fate.access :=
    (run.accesses_eq (finished_new c) done).symm
  have unavailable : (c.join deadlines).accesses.countP Access.isUnavailable =
      g.fates.countP Fate.isRefused := by
    rw [accesses, List.countP_map]
    exact congrArg (g.fates.countP ·) (funext Fate.isUnavailable_access)
  refine ⟨⟨?_, phases_of_done done⟩, accesses, (run.connection_eq (finished_new c) done).symm,
    fun x hx dial => hg.dialled hx (done x hx), fun x hx fate hf told => ?_,
    dials_of_done done, ?_, fun unmade granted => ?_⟩
  · rw [run.deadlines_eq]
    change (deadlines.map Caller.new).map Caller.deadline = deadlines
    rw [List.map_map]
    exact List.map_id deadlines
  · rw [Fate.isUnavailable_access] at told
    have fair := hg.fair x hx fate hf
    cases fate with
    | refused dial since reason => exact ⟨dial, since, reason, rfl, rfl, fair⟩
    | shared => cases told
    | expired => cases told
    | connected => cases told
    | abandoned => cases told
  · have dialling : g.callers.countP Caller.isDialling = 0 :=
      List.countP_eq_zero.mpr fun x hx => by simp [(done x hx).not_dialling]
    have made : (!c.connected && g.connection.connected).toNat =
        g.fates.countP Fate.isConnected := by
      have made := hg.made
      revert made
      cases c.connected <;> cases g.connection.connected <;> intro made <;>
        simp only [Bool.toNat_true, Bool.toNat_false, Bool.not_true, Bool.not_false, Bool.and_true,
          Bool.and_false] at made ⊢ <;> omega
    rw [hg.dials, started_length, dialling, unavailable, made]
    omega
  · rw [accesses, List.mem_map] at granted
    obtain ⟨fate, hf, access⟩ := granted
    cases fate with
    | shared =>
      rw [hg.shared hf] at unmade
      cases unmade
    | connected dial since =>
      have one : 0 < g.fates.countP Fate.isConnected := List.countP_pos_iff.mpr ⟨_, hf, rfl⟩
      have made := hg.made
      rw [unmade, Bool.toNat_false] at made
      omega
    | expired => cases access
    | refused => cases access
    | abandoned => cases access

/-- **With a connection a group gets it at once, and nobody dials.** -/
theorem join_connected (made : c.connected = true) (deadlines : List (Option Duration)) :
    (c.join deadlines).accesses = deadlines.map (fun _ => .granted) ∧
      (c.join deadlines).connection = c := by
  obtain ⟨accesses, connection⟩ := (finished_new c).outlook_call deadlines
  have outlook := (regular_gather c deadlines).outlook_eq made
  rw [gather] at outlook
  rw [outlook] at accesses connection
  refine ⟨?_, connection.symm⟩
  have got : (new c).fates.map Fate.access ++ (c.join deadlines).accesses =
      (deadlines.map Caller.new).map fun x => ((x.fate?).map Fate.access).getD .granted :=
    accesses.symm
  rw [List.map_map] at got
  exact got

end Groups

end Slot

open Slot in
/-- **The accounts of a group of callers.** They all get a result, provided that those without a
    deadline meet dials that end. On the way dials are started in the order of the callers, behind
    none but those that are done; what a caller gets stays; once a dial has made the connection, all
    that still wait share it and no further dial is started. In the end the accounts balance. With a
    connection from the start all get it and nobody dials. -/
theorem join_accounts (c : Connection) (deadlines : List (Option Duration)) :
    ((∀ g, Run (gather c deadlines) g → ¬ g.Stuck) →
      .never ∉ (c.join deadlines).accesses ∧
        ∀ g, Run (gather c deadlines) g → ∃ k, Run g k ∧ k.Finished) ∧
    (∀ g, Run (gather c deadlines) g →
      g.connection.dials = c.dials + g.started.length ∧
      g.started = c.dialler.upcoming g.started.length ∧
      (g.callers.Pairwise fun x y => y.dial? ≠ none → x.Done) ∧
      g.connection.connected.toNat = c.connected.toNat + g.fates.countP Fate.isConnected ∧
      (∀ (k : Slot) (i : Nat) (x : Caller), Run g k → g.callers[i]? = some x →
        ∃ y, k.callers[i]? = some y ∧ x.Onward y) ∧
      (g.connection.connected = true → ∀ k, Run g k → g.Shares k ∧ (k.Finished →
        ∀ (i : Nat) (x : Caller), g.callers[i]? = some x → x.phase = .waiting →
          k.callers[i]? = some { x with phase := .done .shared })) ∧
      (g.Finished → g.Balanced c deadlines)) ∧
    (c.connected = true → (c.join deadlines).accesses = deadlines.map (fun _ => .granted) ∧
      (c.join deadlines).connection = c ∧
        ∀ g, Run (gather c deadlines) g → g.connection = c) := by
  have start := regular_gather c deadlines
  refine ⟨fun moves => ⟨fun never => ?_, fun g run => ?_⟩, fun g run => ?_, fun made => ?_⟩
  · obtain ⟨g, run, stuck⟩ := (stuck_iff c deadlines).mpr never
    exact moves g run stuck
  · obtain ⟨k, others, done | stuck⟩ := (run.regular start).ends
    · exact ⟨k, others, done⟩
    · exact absurd stuck (moves k (run.append others))
  · have regular := run.regular start
    have hg := run.accounted start ((accounted_new c).call deadlines)
    refine ⟨hg.dials, hg.script, regular.ordered, hg.made,
      fun k i x others hx => others.onward hx, fun made k others => ?_, run.balanced⟩
    have shares := others.beside regular made
    exact ⟨shares, fun done i x hx waits => shares.all_shared done hx waits⟩
  · obtain ⟨accesses, connection⟩ := join_connected made deadlines
    exact ⟨accesses, connection, fun g run => (run.beside start made).connection⟩

end ControlPlane
