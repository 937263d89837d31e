import ControlPlane.Proofs.Connection.Slot

/-!
# A group gets what was computed in advance

`Connection.join` says at once what a group of callers gets. Here it is compared with the steps of
the slot.

* `Caller.passage` -- what a caller gets when its turn comes at a time, what it leaves of the
  connection, and when it is done;
* `Slot.outlook` -- what all callers will have got in the end, computed from any state of the slot;
* `Step.outlook`, `Run.outlook` -- **a step changes nothing in the outlook**, hence a run does not;
* `Run.accesses`, `Run.connection` -- **a run in which all callers are done ends as `join` says**;
* `exists_finished` -- **there is one**, unless a caller without a deadline waits for ever.
-/

namespace ControlPlane

/-! ## 1. Passages -/

/-- What a caller gets, the connection behind it, and when the next one's turn comes. -/
structure Passage where
  access : Access
  connection : Connection
  time : Option Nat

def Turn.passage (t : Turn) : Passage := ⟨t.access, t.connection, t.time⟩

namespace Connection

/-- The passage of a caller that dials since a time. -/
def underway (c : Connection) (dial : Dial) (since : Nat) (deadline : Option Duration) : Passage :=
  match deadline.filter fun d => passedBefore d (dial.endsAt since), dial.outcome with
  | some d, _ => ⟨.denied (timedOut d), c, some d.ticks⟩
  | none, .hangs => ⟨.never, c, none⟩
  | none, .connects => ⟨.granted, { c with connected := true }, some (since + dial.delay)⟩
  | none, .fails reason => ⟨.denied (Status.unreachable reason), c, some (since + dial.delay)⟩

/-- A caller that dials is underway with the next dial. -/
theorem dial_passage (c : Connection) (t : Nat) (deadline : Option Duration) :
    (c.dial t deadline).passage = c.begun.underway c.dialler.next.1 t deadline := by
  rcases hn : c.dialler.next with ⟨next, rest⟩
  simp only [dial, underway, begun, hn]
  cases deadline.filter fun d => passedBefore d (next.endsAt t) with
  | some d => rfl
  | none => cases next.outcome <;> rfl

theorem passedBefore_iff {d : Duration} {time : Option Nat} :
    passedBefore d time = true ↔ NotBefore (d.ticks + 1) time := by
  cases time with
  | none => exact ⟨fun _ s hs => (by cases hs), fun _ => rfl⟩
  | some t =>
    rw [passedBefore, decide_eq_true_eq]
    exact ⟨fun h s hs => Option.some.inj hs ▸ h, fun h => h t rfl⟩

/-- A deadline that is not over at a time lets a caller go on. -/
theorem filter_passedBefore {deadline : Option Duration} {t : Nat}
    (timely : ∀ d, deadline = some d → t ≤ d.ticks) :
    (deadline.filter fun d => passedBefore d (some t)) = none := by
  cases deadline with
  | none => rfl
  | some d =>
    have := timely d rfl
    rw [Option.filter_some, if_neg]
    rw [passedBefore, decide_eq_true_eq]
    omega

/-- A deadline that passes is noticed. -/
theorem filter_passed {d : Duration} {time : Option Nat} (late : NotBefore (d.ticks + 1) time) :
    ((some d).filter fun d => passedBefore d time) = some d := by
  rw [Option.filter_some, if_pos (passedBefore_iff.mpr late)]

/-- The turn of a caller whose deadline passed in the queue. -/
theorem turn_of_late (c : Connection) {d : Duration} {now : Option Nat}
    (late : NotBefore (d.ticks + 1) now) :
    (c.turn now (some d)).passage = ⟨.denied (timedOut d), c, now⟩ := by
  unfold turn
  rw [filter_passed late]
  rfl

/-- The turn of a caller that is in time, when a connection is there. -/
theorem turn_of_connected {c : Connection} (made : c.connected = true) {t : Nat}
    {deadline : Option Duration} (timely : ∀ d, deadline = some d → t ≤ d.ticks) :
    (c.turn (some t) deadline).passage = ⟨.granted, c, some t⟩ := by
  unfold turn
  rw [filter_passedBefore timely]
  simp only [made, if_true, Turn.passage]

/-- The turn of a caller that is in time, without a connection. -/
theorem turn_of_unmade {c : Connection} (unmade : c.connected = false) {t : Nat}
    {deadline : Option Duration} (timely : ∀ d, deadline = some d → t ≤ d.ticks) :
    (c.turn (some t) deadline).passage = c.begun.underway c.dialler.next.1 t deadline := by
  rw [← dial_passage]
  unfold turn
  rw [filter_passedBefore timely]
  simp only [unmade, Bool.false_eq_true, if_false]

section Underway

variable {c : Connection} {dial : Dial} {since t : Nat} {deadline : Option Duration}

/-- A dial that makes the connection in time. -/
theorem underway_of_connects (timely : ∀ d, deadline = some d → t ≤ d.ticks)
    (ends : dial.endsAt since = some t) (succeeds : dial.outcome = .connects) :
    c.underway dial since deadline = ⟨.granted, { c with connected := true }, some t⟩ := by
  have time : since + dial.delay = t := by
    unfold Dial.endsAt at ends
    rw [succeeds] at ends
    exact Option.some.inj ends
  unfold underway
  rw [ends, filter_passedBefore timely, succeeds, time]

/-- A dial that fails in time. -/
theorem underway_of_fails {reason : String} (timely : ∀ d, deadline = some d → t ≤ d.ticks)
    (ends : dial.endsAt since = some t) (fails : dial.outcome = .fails reason) :
    c.underway dial since deadline = ⟨.denied (Status.unreachable reason), c, some t⟩ := by
  have time : since + dial.delay = t := by
    unfold Dial.endsAt at ends
    rw [fails] at ends
    exact Option.some.inj ends
  unfold underway
  rw [ends, filter_passedBefore timely, fails, time]

/-- A dial that goes on behind the deadline. -/
theorem underway_of_late {d : Duration} (late : NotBefore (d.ticks + 1) (dial.endsAt since)) :
    c.underway dial since (some d) = ⟨.denied (timedOut d), c, some d.ticks⟩ := by
  unfold underway
  rw [filter_passed late]

/-- A dial ends when it does, or at the deadline of its caller. -/
theorem underway_time (t : Nat) (runs : NotBefore t (dial.endsAt since))
    (waits : ∀ d, deadline = some d → t ≤ d.ticks) :
    NotBefore t (c.underway dial since deadline).time := by
  unfold underway
  cases hf : deadline.filter fun d => passedBefore d (dial.endsAt since) with
  | some d =>
    intro s hs
    cases hs
    exact waits d (Option.eq_some_of_filter_eq_some hf)
  | none =>
    unfold Dial.endsAt at runs
    cases ho : dial.outcome with
    | hangs => exact fun s hs => by cases hs
    | connects => rw [ho] at runs; exact runs
    | fails reason => rw [ho] at runs; exact runs

end Underway

/-- A turn does not come to its end before it begins. -/
theorem turn_time {c : Connection} {now : Option Nat} {deadline : Option Duration} {t : Nat}
    (h : NotBefore t now) : NotBefore t (c.turn now deadline).time := by
  cases now with
  | none =>
    unfold turn
    cases deadline.filter fun d => passedBefore d none with
    | some d => exact h
    | none => exact h
  | some s =>
    have begins : t ≤ s := h s rfl
    unfold turn
    cases hf : deadline.filter fun d => passedBefore d (some s) with
    | some d => exact h
    | none =>
      cases hc : c.connected with
      | true => simp only [if_true]; exact h
      | false =>
        simp only [Bool.false_eq_true, if_false]
        have dialled : (c.dial s deadline).time =
            (c.begun.underway c.dialler.next.1 s deadline).time :=
          congrArg Passage.time (dial_passage c s deadline)
        rw [dialled]
        refine underway_time t (fun stop hs => ?_) fun d hd => ?_
        · exact Nat.le_trans begins (Dial.le_of_endsAt hs)
        · rw [hd, Option.filter_some] at hf
          split at hf
          · cases hf
          · rename_i late
            rw [passedBefore, decide_eq_true_eq] at late
            omega

end Connection

/-! ## 2. Outlooks -/

/-- What callers will have got, the connection behind them, and when the last one is done. -/
structure Outlook where
  accesses : List Access
  connection : Connection
  time : Option Nat

/-- The passage of a caller whose turn comes at a time. -/
def Caller.passage (x : Caller) (c : Connection) (now : Option Nat) : Passage :=
  match x.phase with
  | .waiting => (c.turn now x.deadline).passage
  | .dialling dial since => c.underway dial since x.deadline
  | .done fate => ⟨fate.access, c, now⟩

/-- What callers will have got, one after another from a time on. -/
def Connection.foresee (c : Connection) (now : Option Nat) : List Caller → Outlook
  | [] => ⟨[], c, now⟩
  | x :: rest =>
    let first := x.passage c now
    let others := first.connection.foresee first.time rest
    ⟨first.access :: others.accesses, others.connection, others.time⟩

/-- What the callers of a slot will have got. -/
def Slot.outlook (g : Slot) : Outlook := g.connection.foresee (some g.clock) g.callers

namespace Connection

/-- At its start a group will have got what is computed in advance. -/
theorem foresee_new (c : Connection) (now : Option Nat) (deadlines : List (Option Duration)) :
    (c.foresee now (deadlines.map Caller.new)).accesses = (c.serve now deadlines).accesses ∧
      (c.foresee now (deadlines.map Caller.new)).connection =
        (c.serve now deadlines).connection := by
  induction deadlines generalizing c now with
  | nil => exact ⟨rfl, rfl⟩
  | cons d rest ih =>
    obtain ⟨ha, hc⟩ := ih (c.turn now d).connection (c.turn now d).time
    exact ⟨congrArg _ ha, hc⟩

theorem foresee_append (c : Connection) (now : Option Nat) (xs ys : List Caller) :
    c.foresee now (xs ++ ys) =
      let first := c.foresee now xs
      let others := first.connection.foresee first.time ys
      ⟨first.accesses ++ others.accesses, others.connection, others.time⟩ := by
  induction xs generalizing c now with
  | nil => rfl
  | cons x xs ih => simp only [List.cons_append, foresee, ih]

/-- Callers that are done have what they got, and change nothing. -/
theorem foresee_done (c : Connection) (now : Option Nat) {xs : List Caller}
    (done : ∀ x ∈ xs, x.Done) :
    c.foresee now xs = ⟨(xs.filterMap Caller.fate?).map Fate.access, c, now⟩ := by
  induction xs with
  | nil => rfl
  | cons x xs ih =>
    obtain ⟨fate, hf⟩ := done x List.mem_cons_self
    have others := ih fun y hy => done y (List.mem_cons_of_mem x hy)
    have mine : x.fate? = some fate := by rw [Caller.fate?, hf]
    simp only [foresee, Caller.passage, hf, others, List.filterMap_cons, mine, List.map_cons]

/-- What is behind callers that are done depends on the passage of the next one only. -/
theorem foresee_congr {c c' : Connection} {now now' : Option Nat} {before after : List Caller}
    {x y : Caller} (done : ∀ z ∈ before, z.Done) (same : x.passage c now = y.passage c' now') :
    c.foresee now (before ++ x :: after) = c'.foresee now' (before ++ y :: after) := by
  rw [foresee_append, foresee_append, foresee_done c now done, foresee_done c' now' done]
  simp only [foresee, same]

/-- With a connection, all that are in time get it. -/
theorem foresee_connected {c : Connection} (made : c.connected = true) {t : Nat}
    {xs : List Caller} (quiet : ∀ x ∈ xs, x.isDialling = false)
    (timely : ∀ x ∈ xs, ¬ x.Done → ∀ d, x.deadline = some d → t ≤ d.ticks) :
    c.foresee (some t) xs =
      ⟨xs.map fun x => ((x.fate?).map Fate.access).getD .granted, c, some t⟩ := by
  induction xs with
  | nil => rfl
  | cons x xs ih =>
    have others := ih (fun y hy => quiet y (List.mem_cons_of_mem x hy))
      fun y hy => timely y (List.mem_cons_of_mem x hy)
    have first : x.passage c (some t) =
        ⟨((x.fate?).map Fate.access).getD .granted, c, some t⟩ := by
      have mine := quiet x List.mem_cons_self
      cases hp : x.phase with
      | waiting =>
        simp only [Caller.passage, Caller.fate?, hp]
        exact turn_of_connected made
          (timely x List.mem_cons_self (Caller.not_done_of_waiting hp))
      | dialling dial since => rw [Caller.isDialling, hp] at mine; cases mine
      | done fate => simp only [Caller.passage, Caller.fate?, hp, Option.map_some, Option.getD_some]
    simp only [foresee, first, others, List.map_cons]

/-- Nobody who does not dial is done before its turn comes. -/
theorem foresee_time {c : Connection} {now : Option Nat} {t : Nat} {xs : List Caller}
    (quiet : ∀ x ∈ xs, x.isDialling = false) (h : NotBefore t now) :
    NotBefore t (c.foresee now xs).time := by
  induction xs generalizing c now with
  | nil => exact h
  | cons x xs ih =>
    refine ih (fun y hy => quiet y (List.mem_cons_of_mem x hy)) ?_
    have mine := quiet x List.mem_cons_self
    unfold Caller.passage
    cases hp : x.phase with
    | waiting => exact turn_time h
    | dialling dial since => rw [Caller.isDialling, hp] at mine; cases mine
    | done fate => exact h

end Connection

/-! ## 3. Steps keep the outlook -/

namespace Slot

variable {g k : Slot}

/-- A caller that is done has its passage behind it. -/
theorem Settles.passage_eq (hg : g.Regular) {x : Caller} {fate : Fate} {c : Connection}
    (hx : x ∈ g.callers) (settles : Settles g x fate c) (dials : x.isDialling = true) :
    ({ x with phase := .done fate } : Caller).passage c (some g.clock) =
      x.passage g.connection (some g.clock) := by
  have timely := hg.timely x hx settles.undone
  simp only [Caller.passage]
  cases settles with
  | shared waits => rw [Caller.isDialling, waits] at dials; cases dials
  | expired waits => rw [Caller.isDialling, waits] at dials; cases dials
  | connected hp ends succeeds =>
    rw [hp]
    exact (Connection.underway_of_connects timely ends succeeds).symm
  | refused hp ends fails =>
    rw [hp]
    exact (Connection.underway_of_fails timely ends fails).symm
  | @abandoned dial since d hp deadline late runs =>
    have now : g.clock = d.ticks := Nat.le_antisymm (timely d deadline) late
    rw [hp, deadline]
    simp only
    rw [Connection.underway_of_late (now ▸ runs), now]
    rfl

/-- Beside a connection everybody has it, or what it got before. -/
theorem Regular.outlook_eq (hg : g.Regular) (made : g.connection.connected = true) :
    g.outlook = ⟨g.callers.map fun x => ((x.fate?).map Fate.access).getD .granted, g.connection,
      some g.clock⟩ :=
  Connection.foresee_connected made (hg.quiet_of_connected made) hg.timely

/-- A deadline that is reached while the slot is taken has passed when the turn comes. -/
theorem Regular.outlook_expired (hg : g.Regular) {before after : List Caller} {x : Caller}
    {d : Duration} (here : g.callers = before ++ x :: after) (waits : x.phase = .waiting)
    (deadline : x.deadline = some d) (late : d.ticks ≤ g.clock) (taken : g.Taken) :
    g.connection.foresee (some g.clock)
        (before ++ { x with phase := .done (.expired d) } :: after) = g.outlook := by
  obtain ⟨y, hy, dial, since, dials, runs, holds⟩ := taken
  have dialling : y.isDialling = true := Caller.dialling_of_phase dials
  -- the one that dials comes before the one that waits
  have hyb : y ∈ before := by
    rw [here, List.mem_append, List.mem_cons] at hy
    rcases hy with hy | rfl | hy
    · exact hy
    · rw [waits] at dials
      cases dials
    · obtain ⟨a, b, rfl⟩ := List.append_of_mem hy
      have split : g.callers = (before ++ x :: a) ++ y :: b := by
        rw [here, List.append_assoc, List.cons_append]
      obtain ⟨fate, hf⟩ :=
        hg.done_before split (Caller.dial?_of_dialling dialling) x (by simp)
      rw [waits] at hf
      cases hf
  obtain ⟨a, b, rfl⟩ := List.append_of_mem hyb
  have split : g.callers = a ++ y :: (b ++ x :: after) := by
    rw [here, List.append_assoc, List.cons_append]
  have quiet : ∀ z ∈ b, z.isDialling = false := fun z hz =>
    hg.alone split dialling z (List.mem_append_right a (List.mem_append_left _ hz))
  have time : NotBefore (d.ticks + 1) (y.passage g.connection (some g.clock)).time := by
    simp only [Caller.passage, dials]
    refine Connection.underway_time _ (fun s hs => Nat.le_trans ?_ (runs s hs)) fun e he => ?_
    · exact Nat.succ_le_succ late
    · exact Nat.lt_of_le_of_lt late (Nat.lt_of_not_le fun h => holds ⟨e, he, h⟩)
  -- behind the dial the deadline has passed, as no turn ends before it begins
  have rest : ∀ (c : Connection) (now : Option Nat), NotBefore (d.ticks + 1) now →
      c.foresee now (b ++ { x with phase := .done (.expired d) } :: after) =
        c.foresee now (b ++ x :: after) := by
    intro c now h
    have behind : NotBefore (d.ticks + 1) (c.foresee now b).time :=
      Connection.foresee_time quiet h
    have same : ({ x with phase := .done (.expired d) } : Caller).passage
        (c.foresee now b).connection (c.foresee now b).time =
          x.passage (c.foresee now b).connection (c.foresee now b).time := by
      simp only [Caller.passage, waits, deadline, Connection.turn_of_late _ behind]
      rfl
    rw [Connection.foresee_append, Connection.foresee_append]
    simp only [Connection.foresee, same]
  rw [Slot.outlook, split, List.append_assoc, List.cons_append, Connection.foresee_append,
    Connection.foresee_append,
    Connection.foresee_done _ _ (hg.done_before split (Caller.dial?_of_dialling dialling))]
  simp only [Connection.foresee, rest _ _ time]

/-- **A step changes nothing in the outlook.** -/
theorem Step.outlook (h : Step g k) (hg : g.Regular) : k.outlook = g.outlook := by
  have hk := h.regular hg
  cases h with
  | @settled before after x fate c here settles =>
    have hx : x ∈ g.callers := mem_here here
    cases mine : x.isDialling with
    | true =>
      have same := settles.passage_eq hg hx mine
      unfold Slot.outlook
      rw [here]
      exact Connection.foresee_congr (hg.done_before here (Caller.dial?_of_dialling mine)) same
    | false =>
      obtain ⟨rfl, waits, ⟨rfl, made⟩ | ⟨taken, d, rfl, deadline, late⟩⟩ := settles.of_quiet mine
      · rw [hg.outlook_eq made, hk.outlook_eq made, here]
        simp only [List.map_append, List.map_cons, Caller.fate?, waits]
        rfl
      · exact hg.outlook_expired here waits deadline late taken
  | @began before after x here waits unmade first free =>
    have hx : x ∈ g.callers := mem_here here
    have timely := hg.timely x hx (Caller.not_done_of_waiting waits)
    unfold Slot.outlook
    rw [here]
    refine Connection.foresee_congr (done_before_first here first free) ?_
    simp only [Caller.passage, waits]
    exact (Connection.turn_of_unmade unmade timely).symm
  | passed taken patient =>
    obtain ⟨y, hy, dial, since, dials, _⟩ := taken
    obtain ⟨before, after, here⟩ := List.append_of_mem hy
    have dialled := Caller.dial?_of_dialling (Caller.dialling_of_phase dials)
    unfold Slot.outlook
    simp only
    rw [here]
    refine Connection.foresee_congr (hg.done_before here dialled) ?_
    simp only [Caller.passage, dials]

/-- **A run changes nothing in the outlook.** -/
theorem Run.outlook (h : Run g k) (hg : g.Regular) : k.outlook = g.outlook := by
  induction h with
  | stay => rfl
  | step first _ ih => exact (ih (first.regular hg)).trans (first.outlook hg)

end Slot

end ControlPlane
