import ControlPlane.Proofs.Pager.History

/-!
# Servers that answer alike

Two servers, each with states and failures of its own, may give the same pages and fail together.
A pager does not tell them apart:

* `Alike` -- **servers that answer alike**: in states that correspond they give the same page, or
  failures that correspond, and they are in such states afterwards;
* `Alike.step`, `Alike.pull` -- so a step over one of them is a step over the other, and a pull is a
  pull;
* `Alike.take` -- **so a take collects the same items and fails together**;
* `recorded_alike`, `take_recorded` -- a server and its record.
-/

namespace ControlPlane

variable {κ α ε ε' σ σ' : Type}

/-! ## 1. Failures -/

/-- A pager whose failure is told in other words. -/
def Pager.mapFailure (f : ε → ε') (p : Pager κ α ε) : Pager κ α ε' :=
  ⟨p.request, p.pageSize, p.started, p.buffer, p.current, p.failure.map f⟩

/-- So is what a take collected. -/
def Haul.mapFailure (f : ε → ε') (h : Haul α ε) : Haul α ε' := ⟨h.items, h.failure.map f⟩

@[simp] theorem Haul.mapFailure_id (h : Haul α ε) : h.mapFailure id = h := by
  simp [mapFailure]

namespace Pager

@[simp] theorem mapFailure_id (p : Pager κ α ε) : p.mapFailure id = p := by
  simp [mapFailure]

/-- An answer that is told in other words. -/
theorem received_mapError (f : ε → ε') (p : Pager κ α ε) (request : PageRequest κ)
    (answer : Except ε (Page α)) :
    (p.mapFailure f).received request (answer.mapError f) =
      (p.received request answer).mapFailure f := by
  cases answer with
  | ok page => rfl
  | error e => rfl

end Pager

/-! ## 2. Servers -/

/-- **Servers that answer alike** in the states that correspond. -/
structure Alike (f : ε → ε') (R : σ → σ' → Prop) (call : ListCall κ α ε σ)
    (call' : ListCall κ α ε' σ') : Prop where
  answer : ∀ (request : PageRequest κ) {s : σ} {s' : σ'}, R s s' →
    (call' request s').1 = (call request s).1.mapError f
  next : ∀ (request : PageRequest κ) {s : σ} {s' : σ'}, R s s' →
    R (call request s).2 (call' request s').2

/-- A server answers as its record does. -/
theorem recorded_alike (call : ListCall κ α ε σ) :
    Alike id (fun s r => r.server = s) call (recorded call) where
  answer request s r same := by
    subst same
    show (call request r.server).1 = (call request r.server).1.mapError id
    cases (call request r.server).1 with
    | ok page => rfl
    | error e => rfl
  next request s r same := by
    subst same
    rfl

namespace Alike

variable {f : ε → ε'} {R : σ → σ' → Prop} {call : ListCall κ α ε σ} {call' : ListCall κ α ε' σ'}
  {s : σ} {s' : σ'}

/-- **A step over one is a step over the other.** -/
theorem step (h : Alike f R call call') (want : Option Nat) (p : Pager κ α ε) (r : R s s') :
    ((p.mapFailure f).step call' want s').1 = (p.step call want s).1.mapFailure f ∧
      R (p.step call want s).2 ((p.mapFailure f).step call' want s').2 := by
  cases failed : p.failure with
  | some e =>
    have failed' : (p.mapFailure f).failure = some (f e) := congrArg (Option.map f) failed
    rw [Pager.step_of_failure call want s failed, Pager.step_of_failure call' want s' failed']
    exact ⟨rfl, r⟩
  | none =>
    have sound : (p.mapFailure f).failure = none := congrArg (Option.map f) failed
    cases held : p.buffer with
    | cons a rest =>
      have held' : (p.mapFailure f).buffer = a :: rest := held
      rw [Pager.step_of_buffer call want s failed held,
        Pager.step_of_buffer call' want s' sound held']
      exact ⟨rfl, r⟩
    | nil =>
      have held' : (p.mapFailure f).buffer = [] := held
      cases last : p.atEnd with
      | true =>
        have last' : (p.mapFailure f).atEnd = true := last
        rw [Pager.step_of_atEnd call want s failed held last,
          Pager.step_of_atEnd call' want s' sound held' last']
        exact ⟨rfl, r⟩
      | false =>
        have last' : (p.mapFailure f).atEnd = false := last
        rw [Pager.step_of_more call want s failed held last,
          Pager.step_of_more call' want s' sound held' last']
        -- both ask for the same page
        have answer := h.answer (p.nextRequest want) r
        refine ⟨?_, h.next (p.nextRequest want) r⟩
        show (p.mapFailure f).received (p.nextRequest want) (call' (p.nextRequest want) s').1 = _
        rw [answer, Pager.received_mapError]
        rfl

/-- **A pull over one is a pull over the other.** -/
theorem pull (h : Alike f R call call') (want : Nat) (p : Pager κ α ε) (r : R s s') :
    ((p.mapFailure f).pull call' want s').1 = (p.pull call want s).1 ∧
      ((p.mapFailure f).pull call' want s').2.1 = (p.pull call want s).2.1.mapFailure f ∧
      R (p.pull call want s).2.2 ((p.mapFailure f).pull call' want s').2.2 := by
  induction want generalizing p s s' with
  | zero => exact ⟨rfl, rfl, r⟩
  | succ want ih =>
    obtain ⟨same, next⟩ := h.step (some (want + 1)) p r
    have current : ((p.mapFailure f).step call' (some (want + 1)) s').1.current =
        (p.step call (some (want + 1)) s).1.current := congrArg Pager.current same
    cases item : (p.step call (some (want + 1)) s).1.current with
    | none =>
      rw [item] at current
      simp only [Pager.pull, item, current]
      exact ⟨trivial, same, next⟩
    | some a =>
      rw [item] at current
      have moved : { ((p.mapFailure f).step call' (some (want + 1)) s').1 with current := none } =
          ({ (p.step call (some (want + 1)) s).1 with current := none } : Pager κ α ε).mapFailure f
          := by
        rw [same]
        rfl
      obtain ⟨items, last, server⟩ :=
        ih { (p.step call (some (want + 1)) s).1 with current := none } next
      simp only [Pager.pull, item, current, moved]
      exact ⟨congrArg (a :: ·) items, last, server⟩

/-- **A take over one collects what a take over the other collects.** -/
theorem take (h : Alike f R call call') (limit : Nat) (p : Pager κ α ε) (r : R s s') :
    ((p.mapFailure f).take call' limit s').1 = (p.take call limit s).1.mapFailure f ∧
      R (p.take call limit s).2.2 ((p.mapFailure f).take call' limit s').2.2 := by
  cases failed : p.failure with
  | some e =>
    have failed' : (p.mapFailure f).failure = some (f e) := congrArg (Option.map f) failed
    simp only [Pager.take, failed, failed']
    exact ⟨rfl, r⟩
  | none =>
    have sound : (p.mapFailure f).failure = none := congrArg (Option.map f) failed
    obtain ⟨items, last, server⟩ := h.pull (Pager.wanted limit) p r
    rw [Pager.take_of_sound call limit s failed, Pager.take_of_sound call' limit s' sound, items,
      last]
    exact ⟨rfl, server⟩

end Alike

/-- A take collects what it collects if it is recorded. -/
theorem Pager.take_recorded (call : ListCall κ α ε σ) (limit : Nat) (p : Pager κ α ε)
    (r : Recorded κ α ε σ) :
    (p.take (recorded call) limit r).1 = (p.take call limit r.server).1 := by
  have same := ((recorded_alike call).take limit p (rfl : r.server = r.server)).1
  rwa [mapFailure_id, Haul.mapFailure_id] at same

end ControlPlane
