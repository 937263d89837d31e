import ControlPlane.Proofs.Connection.Slot

/-!
# What stays in a slot

* `Caller.Onward` -- a caller later on: it keeps its deadline, the dial it started, and, once it is
  done, everything;
* `Step.onward`, `Run.onward` -- **each caller goes onward at its place, hence what became of it
  stays**;
* `Slot.Shares`, `Step.beside`, `Run.beside` -- **a connection that is there stays as it is**: all
  that can happen is that one that waits shares it;
* `Regular.empty_handed`, `Slot.FirstDials`, `Step.of_empty` -- **a dial that does not make the
  connection leaves the slot empty**, and all that can happen then is that the first that waits
  starts the next dial.
-/

namespace ControlPlane

/-- A caller later on. -/
structure Caller.Onward (x y : Caller) : Prop where
  deadline : y.deadline = x.deadline
  dial : x.dial? ≠ none → y.dial? = x.dial?
  done : x.Done → y = x

theorem Caller.Onward.refl (x : Caller) : x.Onward x := ⟨rfl, fun _ => rfl, fun _ => rfl⟩

theorem Caller.Onward.trans {x y z : Caller} (h : x.Onward y) (h' : y.Onward z) :
    x.Onward z where
  deadline := h'.deadline.trans h.deadline
  dial dialled := by
    have first := h.dial dialled
    exact (h'.dial (first ▸ dialled)).trans first
  done done := by
    have first := h.done done
    rw [← first]
    exact h'.done (first ▸ done)

namespace Slot

/-- When one element of a list is replaced, the others stay at their places. -/
theorem getElem?_replaced {α : Type} {before after : List α} {x y z : α} {i : Nat}
    (h : (before ++ x :: after)[i]? = some z) :
    (before ++ y :: after)[i]? = some z ∨ z = x ∧ (before ++ y :: after)[i]? = some y := by
  rcases Nat.lt_trichotomy i before.length with less | rfl | more
  · rw [List.getElem?_append_left less] at h ⊢
    exact .inl h
  · rw [List.getElem?_append_right (Nat.le_refl _), Nat.sub_self,
      List.getElem?_cons_zero] at h ⊢
    exact .inr ⟨(Option.some.inj h).symm, rfl⟩
  · obtain ⟨n, rfl⟩ : ∃ n, i = before.length + (n + 1) := ⟨i - before.length - 1, by omega⟩
    simp only [List.getElem?_append_right (Nat.le_add_right _ _), Nat.add_sub_cancel_left,
      List.getElem?_cons_succ] at h ⊢
    exact .inl h

section Onward

variable {g k : Slot}

/-- **In a step each caller goes onward at its place.** -/
theorem Step.onward (h : Step g k) {i : Nat} {x : Caller} (hx : g.callers[i]? = some x) :
    ∃ y, k.callers[i]? = some y ∧ x.Onward y := by
  cases h with
  | @settled before after z fate c here settles =>
    rw [here] at hx
    rcases getElem?_replaced hx with same | ⟨rfl, new⟩
    · exact ⟨x, same, .refl x⟩
    · exact ⟨_, new, rfl, fun _ => settles.dial?_eq, fun done => absurd done settles.undone⟩
  | @began before after z here waits _ _ _ =>
    rw [here] at hx
    rcases getElem?_replaced hx with same | ⟨rfl, new⟩
    · exact ⟨x, same, .refl x⟩
    · refine ⟨_, new, rfl, fun dialled => ?_, fun done => ?_⟩
      · rw [Caller.dial?, waits] at dialled
        exact absurd rfl dialled
      · exact absurd done (Caller.not_done_of_waiting waits)
  | passed => exact ⟨x, hx, .refl x⟩

/-- **So it does in a run**: what became of a caller stays. -/
theorem Run.onward (h : Run g k) {i : Nat} {x : Caller} (hx : g.callers[i]? = some x) :
    ∃ y, k.callers[i]? = some y ∧ x.Onward y := by
  induction h generalizing x with
  | stay => exact ⟨x, hx, .refl x⟩
  | step first _ ih =>
    obtain ⟨y, hy, onward⟩ := first.onward hx
    obtain ⟨z, hz, onward'⟩ := ih hy
    exact ⟨z, hz, onward.trans onward'⟩

/-- No caller comes or goes in a run. -/
theorem Run.deadlines_eq (h : Run g k) :
    k.callers.map Caller.deadline = g.callers.map Caller.deadline := by
  induction h with
  | stay => rfl
  | step first _ ih =>
    rw [ih]
    cases first with
    | settled here => rw [here, List.map_append, List.map_append, List.map_cons, List.map_cons]
    | began here => rw [here, List.map_append, List.map_append, List.map_cons, List.map_cons]
    | passed => rfl

end Onward

section Beside

/-- All that happened is that some of those that waited share the connection. -/
structure Shares (g k : Slot) : Prop where
  connection : k.connection = g.connection
  callers : ∀ (i : Nat) (x : Caller), g.callers[i]? = some x →
    k.callers[i]? = some x ∨
      x.phase = .waiting ∧ k.callers[i]? = some { x with phase := .done .shared }

variable {g k : Slot}

/-- **Beside a connection all that can happen is that one that waits shares it.** -/
theorem Step.beside (h : Step g k) (hg : g.Regular) (made : g.connection.connected = true) :
    g.Shares k := by
  have quiet := hg.quiet_of_connected made
  cases h with
  | @settled before after z fate c here settles =>
    obtain ⟨rfl, waits, ⟨rfl, _⟩ | ⟨taken, _⟩⟩ := settles.of_quiet (quiet z (mem_here here))
    · refine ⟨rfl, fun i x hx => ?_⟩
      rw [here] at hx
      rcases getElem?_replaced hx with same | ⟨rfl, new⟩
      · exact .inl same
      · exact .inr ⟨waits, new⟩
    · exact absurd taken (untaken_of_free quiet)
  | began _ _ unmade =>
    rw [unmade] at made
    cases made
  | passed taken => exact absurd taken (untaken_of_free quiet)

/-- **A connection that is there stays as it is**, and all that still wait share it. -/
theorem Run.beside (h : Run g k) (hg : g.Regular) (made : g.connection.connected = true) :
    g.Shares k := by
  induction h with
  | stay => exact ⟨rfl, fun i x hx => .inl hx⟩
  | @step g k l first _ ih =>
    have now := first.beside hg made
    have later := ih (first.regular hg) (now.connection ▸ made)
    refine ⟨later.connection.trans now.connection, fun i x hx => ?_⟩
    rcases now.callers i x hx with stays | ⟨waits, shares⟩
    · exact later.callers i x stays
    · rcases later.callers i _ shares with stays | ⟨done, _⟩
      · exact .inr ⟨waits, stays⟩
      · cases done

/-- When all are done, all that waited share the connection. -/
theorem Shares.all_shared (h : g.Shares k) (done : k.Finished) {i : Nat} {x : Caller}
    (hx : g.callers[i]? = some x) (waits : x.phase = .waiting) :
    k.callers[i]? = some { x with phase := .done .shared } := by
  rcases h.callers i x hx with stays | ⟨_, shared⟩
  · exact absurd (done x (List.mem_of_getElem? stays)) (Caller.not_done_of_waiting waits)
  · exact shared

end Beside

section Empty

variable {g k : Slot}

/-- **A dial that failed or was abandoned leaves the slot empty.** -/
theorem Regular.empty_handed (hg : g.Regular) {before after : List Caller} {x : Caller}
    {fate : Fate} {c : Connection} (here : g.callers = before ++ x :: after)
    (settles : Settles g x fate c) (dialled : x.isDialling = true)
    (lost : ∀ dial since, fate ≠ .connected dial since) :
    c = g.connection ∧ c.connected = false ∧
      ∀ y ∈ before ++ { x with phase := .done fate } :: after, y.isDialling = false := by
  have hx : x ∈ g.callers := mem_here here
  have unmade := hg.unmade x hx dialled
  have free : ∀ y ∈ before ++ { x with phase := .done fate } :: after, y.isDialling = false := by
    intro y hy
    rw [List.perm_middle.mem_iff, List.mem_cons] at hy
    rcases hy with rfl | hy
    · rfl
    · exact hg.alone here dialled y hy
  cases settles with
  | shared => exact ⟨rfl, unmade, free⟩
  | expired => exact ⟨rfl, unmade, free⟩
  | connected => exact absurd rfl (lost _ _)
  | refused => exact ⟨rfl, unmade, free⟩
  | abandoned => exact ⟨rfl, unmade, free⟩

/-- The first that waits starts the next dial. -/
def FirstDials (g k : Slot) : Prop :=
  ∃ before x after, g.callers = before ++ x :: after ∧ x.phase = .waiting ∧
    (∀ y ∈ before, y.phase ≠ .waiting) ∧ k = ⟨g.connection.begun, g.clock,
      before ++ { x with phase := .dialling g.connection.dialler.next.1 g.clock } :: after⟩

/-- **At an empty slot all that can happen is that the first that waits starts the next dial.** -/
theorem Step.of_empty (h : Step g k) (unmade : g.connection.connected = false)
    (free : ∀ y ∈ g.callers, y.isDialling = false) : g.FirstDials k := by
  cases h with
  | @settled before after z fate c here settles =>
    obtain ⟨_, _, ⟨_, made⟩ | ⟨taken, _⟩⟩ := settles.of_quiet (free z (mem_here here))
    · rw [unmade] at made
      cases made
    · exact absurd taken (untaken_of_free free)
  | @began before after x here waits _ first _ =>
    exact ⟨before, x, after, here, waits, first, rfl⟩
  | passed taken => exact absurd taken (untaken_of_free free)

end Empty

end Slot

end ControlPlane
