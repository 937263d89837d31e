import ControlPlane.Proofs.Connection.Accounts

/-!
# One connection, shared by all handles

A handle is the place of a slot; a clone of it is the same place.

* `Handles`, `Handles.Step` -- the slots and the handles; a handle is cloned, a group of callers
  comes on some handles of one slot when all before are done, or something happens in a slot;
* `OneSlot` -- the invariant: from one connection on there is one slot, regular and with its
  accounts in order, and all handles are its place;
* `Step.oneSlot`, `Run.oneSlot` -- a step keeps it, hence a run does;
* `Slot.Keeps`, `Run.keeps` -- **a connection that is there is there for ever, and whoever waits
  for it or comes later gets it**;
* `dials_of_unmade` -- without a connection the next call dials;
* `one_connection` -- **the handles share one connection, made once and kept**.
-/

namespace ControlPlane

open Slot

/-- Slots of connections, and the handles on them. A handle is the place of its slot. -/
structure Handles where
  slots : List Slot
  places : List Nat

namespace Handles

/-- The slot of a handle. -/
def slot? (w : Handles) (handle : Nat) : Option Slot :=
  (w.places[handle]?).bind fun place => w.slots[place]?

/-- Whether the connection of a handle is made. -/
def isConnected (w : Handles) (handle : Nat) : Option Bool :=
  (w.slot? handle).map fun g => g.connection.connected

/-- One handle on a connection that is not made yet. -/
def start (dialler : Dialler) : Handles := ⟨[Slot.new (Connection.new dialler)], [0]⟩

/-- **What can happen to handles.** -/
inductive Step (w : Handles) : Handles → Prop where
  /-- A clone is a handle on the same slot. -/
  | cloned {handle place : Nat} (known : w.places[handle]? = some place) :
      Step w ⟨w.slots, w.places ++ [place]⟩
  /-- A group of callers comes, or a single one, each with a handle on the same slot and a deadline
      or none. -/
  | called {place : Nat} {g : Slot} {calls : List (Nat × Option Duration)}
      (known : ∀ call ∈ calls, w.places[call.1]? = some place) (here : w.slots[place]? = some g)
      (idle : g.Finished) : Step w ⟨w.slots.set place (g.call (calls.map Prod.snd)), w.places⟩
  /-- Something happens in a slot. -/
  | moved {place : Nat} {g k : Slot} (here : w.slots[place]? = some g) (step : g.Step k) :
      Step w ⟨w.slots.set place k, w.places⟩

/-- Steps in a row. -/
inductive Run : Handles → Handles → Prop where
  | stay (w : Handles) : Run w w
  | step {u v w : Handles} (first : Step u v) (others : Run v w) : Run u w

/-! ## 1. One slot -/

/-- **All handles are the place of one slot**, which is regular and has its accounts in order. -/
structure OneSlot (dialler : Dialler) (w : Handles) (g : Slot) : Prop where
  slots : w.slots = [g]
  places : ∀ place ∈ w.places, place = 0
  regular : g.Regular
  accounted : Accounted (Connection.new dialler) g

section OneSlot

variable {dialler : Dialler} {u v w : Handles} {g k : Slot}

theorem oneSlot_start (dialler : Dialler) :
    OneSlot dialler (start dialler) (Slot.new (Connection.new dialler)) where
  slots := rfl
  places := fun _ h => List.mem_singleton.mp h
  regular := regular_gather (Connection.new dialler) []
  accounted := accounted_new (Connection.new dialler)

/-- Every handle has the slot. -/
theorem OneSlot.slot?_eq (h : OneSlot dialler w g) {handle : Nat}
    (known : handle < w.places.length) : w.slot? handle = some g := by
  have place := h.places _ (List.getElem_mem known)
  rw [slot?, List.getElem?_eq_getElem known, place, Option.bind_some, h.slots]
  rfl

/-- There is no other place than that of the slot. -/
theorem OneSlot.here (h : OneSlot dialler w g) {place : Nat} {k : Slot}
    (here : w.slots[place]? = some k) : place = 0 ∧ k = g := by
  rw [h.slots] at here
  cases place with
  | zero => exact ⟨rfl, (Option.some.inj here).symm⟩
  | succ n => cases here

/-- What may become of a slot in one step of its handles. -/
inductive Moves (g : Slot) : Slot → Prop where
  | still : Moves g g
  | called (idle : g.Finished) (deadlines : List (Option Duration)) : Moves g (g.call deadlines)
  | moved {k : Slot} (step : g.Step k) : Moves g k

/-- **In a step there remains one slot.** -/
theorem Step.oneSlot (h : Step w v) (hw : OneSlot dialler w g) :
    ∃ k, OneSlot dialler v k ∧ Moves g k := by
  cases h with
  | cloned known =>
    refine ⟨g, ⟨hw.slots, fun place hp => ?_, hw.regular, hw.accounted⟩, .still⟩
    rcases List.mem_append.mp hp with hp | hp
    · exact hw.places place hp
    · rw [List.mem_singleton.mp hp]
      exact hw.places _ (List.mem_of_getElem? known)
  | @called place g' calls known here idle =>
    obtain ⟨rfl, rfl⟩ := hw.here here
    refine ⟨g'.call (calls.map Prod.snd), ⟨?_, hw.places, idle.regular_call _,
      hw.accounted.call _⟩, .called idle _⟩
    rw [hw.slots]
    rfl
  | @moved place g' k here step =>
    obtain ⟨rfl, rfl⟩ := hw.here here
    refine ⟨k, ⟨?_, hw.places, step.regular hw.regular, step.accounted hw.regular hw.accounted⟩,
      .moved step⟩
    rw [hw.slots]
    rfl

/-- **So there does in a run.** -/
theorem Run.oneSlot (h : Run w v) (hw : OneSlot dialler w g) : ∃ k, OneSlot dialler v k := by
  induction h generalizing g with
  | stay => exact ⟨g, hw⟩
  | step first _ ih =>
    obtain ⟨k, hk, _⟩ := first.oneSlot hw
    exact ih hk

end OneSlot

end Handles

/-! ## 2. A connection is kept -/

namespace Slot

/-- **A slot later on, beside a connection**: the connection is as it was, and every caller is as it
    was, or still waits, or shares the connection. -/
structure Keeps (g k : Slot) : Prop where
  connection : k.connection = g.connection
  callers : ∀ (i : Nat) (x : Caller), k.callers[i]? = some x →
    g.callers[i]? = some x ∨ x.phase = .waiting ∨ x.phase = .done .shared

section Keeps

variable {g k l : Slot}

theorem Keeps.refl (g : Slot) : g.Keeps g := ⟨rfl, fun _ _ hx => .inl hx⟩

theorem Keeps.trans (h : g.Keeps k) (h' : k.Keeps l) : g.Keeps l where
  connection := h'.connection.trans h.connection
  callers i x hx := by
    rcases h'.callers i x hx with was | new
    · exact h.callers i x was
    · exact .inr new

/-- Whoever comes waits. -/
theorem keeps_call (g : Slot) (deadlines : List (Option Duration)) :
    g.Keeps (g.call deadlines) where
  connection := rfl
  callers i x hx := by
    rcases Nat.lt_or_ge i g.callers.length with less | more
    · rw [call, List.getElem?_append_left less] at hx
      exact .inl hx
    · rw [call, List.getElem?_append_right more] at hx
      obtain ⟨d, _, rfl⟩ := List.mem_map.mp (List.mem_of_getElem? hx)
      exact .inr (.inl rfl)

theorem Run.keeps (h : Run g k) (hg : g.Regular) (made : g.connection.connected = true) :
    g.Keeps k := by
  have shares := h.beside hg made
  refine ⟨shares.connection, fun i x hx => ?_⟩
  have same : k.callers.length = g.callers.length := by
    rw [← List.length_map Caller.deadline, h.deadlines_eq, List.length_map]
  obtain ⟨less, _⟩ := List.getElem?_eq_some_iff.mp hx
  rw [same] at less
  have was : g.callers[i]? = some g.callers[i] := List.getElem?_eq_getElem less
  rcases shares.callers i _ was with stays | ⟨_, shared⟩
  · rw [stays] at hx
    exact .inl (hx ▸ was)
  · rw [shared] at hx
    cases hx
    exact .inr (.inr rfl)

/-- Beside a connection all callers are done some day. -/
theorem Regular.ends_connected (hg : g.Regular) (made : g.connection.connected = true) :
    ∃ k, Run g k ∧ k.Finished := by
  obtain ⟨k, run, done | ⟨x, hx, dial, since, dials, _⟩⟩ := hg.ends
  · exact ⟨k, run, done⟩
  · have unmade := (run.regular hg).unmade x hx (Caller.dialling_of_phase dials)
    rw [(run.beside hg made).connection, made] at unmade
    cases unmade

end Keeps

end Slot

namespace Handles

section Keeps

variable {dialler : Dialler} {w v : Handles} {g : Slot}

theorem Moves.keeps {k : Slot} (h : Moves g k) (hg : g.Regular)
    (made : g.connection.connected = true) : g.Keeps k := by
  cases h with
  | still => exact .refl g
  | called _ deadlines => exact keeps_call g deadlines
  | moved step => exact (Slot.Run.step step (.stay k)).keeps hg made

/-- **A connection is kept whatever happens to its handles.** -/
theorem Run.keeps (h : Run w v) (hw : OneSlot dialler w g)
    (made : g.connection.connected = true) : ∃ k, OneSlot dialler v k ∧ g.Keeps k := by
  induction h generalizing g with
  | stay => exact ⟨g, hw, .refl g⟩
  | step first _ ih =>
    obtain ⟨k, hk, moves⟩ := first.oneSlot hw
    have now := moves.keeps hw.regular made
    obtain ⟨l, hl, later⟩ := ih hk (now.connection ▸ made)
    exact ⟨l, hl, now.trans later⟩

end Keeps

end Handles

/-! ## 3. Without a connection -/

namespace Connection

/-- A dial is counted when it is started. -/
theorem underway_dials (c : Connection) (dial : Dial) (since : Nat) (deadline : Option Duration) :
    (c.underway dial since deadline).connection.dials = c.dials := by
  unfold underway
  cases deadline.filter fun d => passedBefore d (dial.endsAt since) with
  | some d => rfl
  | none => cases dial.outcome <;> rfl

/-- **Without a connection a single caller dials**, whatever its deadline. -/
theorem dials_of_unmade {c : Connection} (unmade : c.connected = false)
    (deadline : Option Duration) : (c.channelWithin deadline).2.2.dials = c.dials + 1 := by
  have turn : (c.turn (some 0) deadline).passage =
      c.begun.underway c.dialler.next.1 0 deadline :=
    turn_of_unmade unmade fun _ _ => Nat.zero_le _
  have connection := congrArg (fun p => p.connection.dials) turn
  rw [underway_dials] at connection
  exact connection

/-- **With a connection a single caller gets it**, whatever its deadline. -/
theorem granted_of_connected {c : Connection} (made : c.connected = true)
    (deadline : Option Duration) :
    (c.channelWithin deadline).1 = .granted ∧ (c.channelWithin deadline).2.2 = c := by
  obtain ⟨accesses, connection⟩ := join_connected made [deadline]
  refine ⟨?_, connection⟩
  rw [channelWithin, accesses]
  rfl

end Connection

/-! ## 4. One connection -/

/-- A dial succeeded for a caller that still waited for it. -/
def Slot.Succeeded (g : Slot) : Prop :=
  ∃ x ∈ g.callers, ∃ dial since, x.phase = .done (.connected dial since) ∧
    dial.outcome = .connects ∧ Fate.InTime dial since x.deadline

/-- **A connection that was not there is made by a dial that succeeds**, and by nothing else. -/
theorem Slot.Accounted.connected_iff {c : Connection} {g : Slot} (hg : Accounted c g)
    (unmade : c.connected = false) : g.connection.connected = true ↔ g.Succeeded := by
  have made := hg.made
  rw [unmade, Bool.toNat_false, Nat.zero_add] at made
  constructor
  · intro connected
    rw [connected, Bool.toNat_true] at made
    obtain ⟨fate, hf, kind⟩ := List.countP_pos_iff.mp (made ▸ Nat.one_pos)
    obtain ⟨x, hx, mine⟩ := List.mem_filterMap.mp hf
    have phase : x.phase = .done fate := by
      unfold Caller.fate? at mine
      split at mine
      · cases mine
      · cases mine
      · rename_i fate' hp
        rw [hp, Option.some.inj mine]
    cases fate with
    | connected dial since => exact ⟨x, hx, dial, since, phase, hg.fair x hx _ phase⟩
    | shared => cases kind
    | expired => cases kind
    | refused => cases kind
    | abandoned => cases kind
  · rintro ⟨x, hx, dial, since, phase, _⟩
    have mine : x.fate? = some (.connected dial since) := by rw [Caller.fate?, phase]
    have one : 0 < g.fates.countP Fate.isConnected :=
      List.countP_pos_iff.mpr ⟨_, List.mem_filterMap.mpr ⟨x, hx, mine⟩, rfl⟩
    cases connected : g.connection.connected with
    | true => rfl
    | false =>
      rw [connected, Bool.toNat_false] at made
      omega

/-- **One connection, shared by all handles.** In every state that is reached all handles are on one
    slot. It has a connection exactly if a dial succeeded for a caller that still waited for it, and
    then for ever: nothing else changes it, and all that wait or come later get it. Two dials are
    never in progress at once. A dial that fails or is abandoned leaves the slot empty, and at an
    empty slot the first that waits, or comes, starts the next dial. -/
theorem one_connection (dialler : Dialler) {w : Handles}
    (reached : Handles.Run (Handles.start dialler) w) :
    ∃ g, (∀ handle < w.places.length, w.slot? handle = some g ∧
        w.isConnected handle = some g.connection.connected) ∧
      (g.connection.connected = true ↔ g.Succeeded) ∧
      g.callers.countP Caller.isDialling ≤ 1 ∧
      (g.connection.connected = true →
        (∀ deadline, (g.connection.channelWithin deadline).1 = .granted ∧
          (g.connection.channelWithin deadline).2.2 = g.connection) ∧
        ∀ v, Handles.Run w v → ∃ k, (∀ handle < v.places.length, v.slot? handle = some k) ∧
          g.Keeps k ∧ ∃ l, Slot.Run k l ∧ l.Finished ∧ g.Keeps l) ∧
      (∀ before x after fate c, g.callers = before ++ x :: after → Settles g x fate c →
        x.isDialling = true → (∀ dial since, fate ≠ .connected dial since) →
          c = g.connection ∧ c.connected = false ∧
            ∀ y ∈ before ++ { x with phase := .done fate } :: after, y.isDialling = false) ∧
      (g.connection.connected = false → (∀ y ∈ g.callers, y.isDialling = false) →
        (∀ deadline, (g.connection.channelWithin deadline).2.2.dials = g.connection.dials + 1) ∧
        ((∃ x ∈ g.callers, x.phase = .waiting) → ∃ k, Slot.Step g k) ∧
        ∀ k, Slot.Step g k → g.FirstDials k) ∧
      (g.Finished → ∀ deadlines k, Slot.Run (g.call deadlines) k → k.Finished →
        k.fates.map Fate.access =
            g.fates.map Fate.access ++ (g.connection.join deadlines).accesses ∧
          k.connection = (g.connection.join deadlines).connection) := by
  obtain ⟨g, hg⟩ := reached.oneSlot (Handles.oneSlot_start dialler)
  refine ⟨g, fun handle known => ?_, hg.accounted.connected_iff rfl, hg.regular.dialling_le_one,
    fun made => ⟨Connection.granted_of_connected made, fun v run => ?_⟩,
    fun before x after fate c here settles dials => hg.regular.empty_handed here settles dials,
    fun unmade free => ⟨Connection.dials_of_unmade unmade, fun ⟨x, hx, waits⟩ => ?_,
      fun k step => step.of_empty unmade free⟩,
    fun idle deadlines k run done => ⟨run.accesses_eq idle done, run.connection_eq idle done⟩⟩
  · have slot := hg.slot?_eq known
    exact ⟨slot, by rw [Handles.isConnected, slot, Option.map_some]⟩
  · obtain ⟨k, hk, keeps⟩ := run.keeps hg made
    have there : k.connection.connected = true := keeps.connection ▸ made
    obtain ⟨l, others, done⟩ := hk.regular.ends_connected there
    exact ⟨k, fun handle known => hk.slot?_eq known, keeps, l, others, done,
      keeps.trans (others.keeps hk.regular there)⟩
  · obtain ⟨k, step, _⟩ := progress_waiting free hx waits
    exact ⟨k, step⟩

/-- Two callers on a handle and on its clone: the first dial fails, the second one makes the
    connection, and both handles have it from then on. -/
theorem clones_connected :
    ∃ w, Handles.Run (Handles.start ⟨[⟨0, .fails "refused"⟩], Dialler.success⟩) w ∧
      ∃ g, w.slot? 0 = some g ∧ w.slot? 1 = some g ∧ g.connection.dials = 2 ∧ g.Succeeded ∧
        ∀ v, Handles.Run w v → ∃ k, (∀ handle < v.places.length, v.slot? handle = some k) ∧
          k.connection = g.connection := by
  let dialler : Dialler := ⟨[⟨0, .fails "refused"⟩], Dialler.success⟩
  let waits : Caller := Caller.new none
  let dials : Caller := ⟨none, .dialling ⟨0, .fails "refused"⟩ 0⟩
  let failed : Caller := ⟨none, .done (.refused ⟨0, .fails "refused"⟩ 0 "refused")⟩
  let redials : Caller := ⟨none, .dialling Dialler.success 0⟩
  let first : Slot := ⟨⟨⟨[], Dialler.success⟩, false, 1⟩, 0, [dials, waits]⟩
  let second : Slot := ⟨⟨⟨[], Dialler.success⟩, false, 1⟩, 0, [failed, waits]⟩
  let third : Slot := ⟨⟨⟨[], Dialler.success⟩, false, 2⟩, 0, [failed, redials]⟩
  let last : Slot := ⟨⟨⟨[], Dialler.success⟩, true, 2⟩, 0,
    [failed, ⟨none, .done (.connected Dialler.success 0)⟩]⟩
  have moved : ∀ {g k : Slot}, Slot.Step g k → Handles.Step ⟨[g], [0, 0]⟩ ⟨[k], [0, 0]⟩ :=
    fun step => @Handles.Step.moved _ 0 _ _ rfl step
  have begins : Slot.Step ⟨Connection.new dialler, 0, [waits, waits]⟩ first :=
    @Slot.Step.began _ [] [waits] waits rfl rfl rfl (fun _ h => nomatch h) (by decide)
  have fails : Slot.Step first second :=
    @Slot.Step.settled first [] [waits] dials _ _ rfl (.refused rfl rfl rfl)
  have again : Slot.Step second third :=
    @Slot.Step.began second [failed] [] waits rfl rfl rfl (by decide) (by decide)
  have succeeds : Slot.Step third last :=
    @Slot.Step.settled third [failed] [] redials _ _ rfl (.connected rfl rfl rfl)
  have reached : Handles.Run (Handles.start dialler) ⟨[last], [0, 0]⟩ :=
    .step (@Handles.Step.cloned _ 0 0 rfl) <|
    .step (@Handles.Step.called _ 0 _ [(0, none), (1, none)] (by decide) rfl
      (finished_new (Connection.new dialler))) <|
    .step (moved begins) <| .step (moved fails) <| .step (moved again) <|
    .step (moved succeeds) <| .stay _
  obtain ⟨g, slots, connected, _, kept, _⟩ := one_connection dialler reached
  obtain rfl : last = g := Option.some.inj (slots 0 (by decide)).1
  refine ⟨_, reached, last, rfl, rfl, rfl, connected.mp rfl, fun v run => ?_⟩
  obtain ⟨k, slots', keeps, _⟩ := (kept rfl).2 v run
  exact ⟨k, slots', keeps.connection⟩

end ControlPlane
