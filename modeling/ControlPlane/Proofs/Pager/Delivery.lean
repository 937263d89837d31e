import ControlPlane.Proofs.Pager.History

/-!
# Nothing is lost, doubled or moved

An item is in a page of the server first, then in the buffer, then with the caller. `Orderly` says
how these three may change: a page comes only when nothing is held, and what is held is delivered
from the front.

* `Step.orderly`, `Walk.orderly` -- **a step is orderly, hence whatever is done with a pager is**;
* `Orderly.balance` -- what was delivered and what is held make up the pages received;
* `Orderly.nothing_held` -- before each request all earlier pages are delivered;
* `delivered_append_buffer` -- all of it for every history, with a stream at its end.
-/

namespace ControlPlane

variable {κ α ε σ : Type}

/-! ## 1. The order of deliveries -/

/-- Moments that lead from some held items to others: **the server is asked only when nothing is
    held**, its answer is held then, and deliveries take the first item held. -/
inductive Orderly : List α → List (Moment κ α ε) → List α → Prop where
  | nil (held : List α) : Orderly held [] held
  | asked {e : Exchange κ α ε} {ms : List (Moment κ α ε)} {held : List α}
      (others : Orderly e.items ms held) : Orderly [] (.asked e :: ms) held
  | delivered {a : α} {held held' : List α} {ms : List (Moment κ α ε)}
      (others : Orderly held ms held') : Orderly (a :: held) (.delivered a :: ms) held'

/-- The items of the last answer; none before the first. -/
def lastPage (es : List (Exchange κ α ε)) : List α := (es.getLast?.map Exchange.items).getD []

namespace Orderly

variable {held mid held' : List α} {ms ns : List (Moment κ α ε)}

theorem append (h : Orderly held ms mid) (k : Orderly mid ns held') :
    Orderly held (ms ++ ns) held' := by
  induction h with
  | nil => exact k
  | asked _ ih => exact .asked (ih k)
  | delivered _ ih => exact .delivered (ih k)

/-- What an orderly sequence begins with is orderly. -/
theorem split (h : Orderly held (ms ++ ns) held') :
    ∃ mid, Orderly held ms mid ∧ Orderly mid ns held' := by
  induction ms generalizing held with
  | nil => exact ⟨held, .nil held, h⟩
  | cons m ms ih =>
    cases h with
    | asked others =>
      obtain ⟨mid, h₁, h₂⟩ := ih others
      exact ⟨mid, .asked h₁, h₂⟩
    | delivered others =>
      obtain ⟨mid, h₁, h₂⟩ := ih others
      exact ⟨mid, .delivered h₁, h₂⟩

/-- **What was delivered and what is held make up what was held before and the pages received.** -/
theorem balance (h : Orderly held ms held') :
    deliveredIn ms ++ held' = held ++ fetched (askedIn ms) := by
  induction h with
  | nil held => rw [deliveredIn_nil, askedIn_nil, fetched_nil, List.append_nil, List.nil_append]
  | asked _ ih => rw [deliveredIn_asked, askedIn_asked, fetched_cons, List.nil_append, ih]
  | delivered _ ih =>
    rw [deliveredIn_delivered, askedIn_delivered, List.cons_append, List.cons_append, ih]

/-- **Before a request everything received is delivered.** -/
theorem nothing_held {e : Exchange κ α ε} (h : Orderly held (ms ++ .asked e :: ns) held') :
    deliveredIn ms = held ++ fetched (askedIn ms) := by
  obtain ⟨mid, h₁, h₂⟩ := h.split
  cases h₂ with
  | asked => rw [← h₁.balance, List.append_nil]

/-- What is held is the end of the last page, or of what was held if there was none. -/
theorem suffix (h : Orderly held ms held') :
    held' <:+ ((askedIn ms).getLast?.map Exchange.items).getD held := by
  induction h with
  | nil held => exact List.suffix_refl held
  | @asked e ms held _ ih =>
    rw [askedIn_asked, List.getLast?_cons]
    cases hl : (askedIn ms).getLast? with
    | none => rw [hl] at ih; exact ih
    | some f => rw [hl] at ih; exact ih
  | @delivered a held held' ms _ ih =>
    rw [askedIn_delivered]
    cases hl : (askedIn ms).getLast? with
    | none => rw [hl] at ih; exact ih.trans (List.suffix_cons a held)
    | some f => rw [hl] at ih; exact ih

end Orderly

/-! ## 2. Steps and walks are orderly -/

/-- The items of an answer are delivered or held after the step that received them. -/
theorem orderly_received (items : List α) :
    Orderly items (items.head?.toList.map Moment.delivered : List (Moment κ α ε)) items.tail := by
  cases items with
  | nil => exact .nil []
  | cons a rest => exact .delivered (.nil rest)

/-- **A step is orderly.** -/
theorem Pager.Step.orderly {call : ListCall κ α ε σ} {want : Option Nat} {p q : Pager κ α ε}
    {s t : σ} {made : List (Exchange κ α ε)} (h : Step call want p s made q t) :
    Orderly p.buffer (momentsOf made q) q.buffer := by
  cases h with
  | stopped => exact .nil _
  | buffered _ held => rw [held]; exact .delivered (.nil _)
  | ended => exact .nil _
  | received _ empty => rw [empty]; exact .asked (orderly_received _)
  | refused _ empty => rw [empty]; exact .asked (.nil _)

/-- **So is a walk**: neither moving the item in hand out nor another page size touches what is
    held. -/
theorem Walk.orderly {call : ListCall κ α ε σ} {p q : Pager κ α ε} {s t : σ}
    {ms : List (Moment κ α ε)} (h : Walk call p s ms q t) : Orderly p.buffer ms q.buffer := by
  induction h with
  | stay p => exact .nil _
  | step _ first _ ih => exact first.orderly.append ih
  | handOver _ ih => exact ih
  | resize _ _ ih => exact ih

/-! ## 3. Records -/

/-- The record of a server grows by what it is asked in a step. -/
theorem Pager.Step.record {call : ListCall κ α ε σ} {want : Option Nat} {p q : Pager κ α ε}
    {s t : Recorded κ α ε σ} {made : List (Exchange κ α ε)}
    (h : Step (recorded call) want p s made q t) : t.exchanges = s.exchanges ++ made := by
  have grows : ∀ {answer : Except ε (Page α)},
      recorded call (p.nextRequest want) s = (answer, t) →
        t.exchanges = s.exchanges ++ [⟨p.nextRequest want, answer⟩] := by
    intro answer hc
    rw [recorded, Prod.mk.injEq] at hc
    rw [← hc.2, ← hc.1]
  cases h with
  | stopped => exact (List.append_nil _).symm
  | buffered => exact (List.append_nil _).symm
  | ended => exact (List.append_nil _).symm
  | received _ _ _ answer => exact grows answer
  | refused _ _ _ answer => exact grows answer

/-- **The record of a server holds what it was asked on a walk.** -/
theorem Walk.record {call : ListCall κ α ε σ} {p q : Pager κ α ε} {s t : Recorded κ α ε σ}
    {ms : List (Moment κ α ε)} (h : Walk (recorded call) p s ms q t) :
    t.exchanges = s.exchanges ++ askedIn ms := by
  induction h with
  | stay => exact (List.append_nil _).symm
  | step _ first _ ih =>
    rw [ih, first.record, askedIn_append, Pager.askedIn_momentsOf, List.append_assoc]
  | handOver _ ih => exact ih
  | resize _ _ ih => exact ih

/-! ## 4. Histories -/

/-- **Nothing is lost, doubled or moved.** A pager is used in any way and may then be polled as a
    stream; its server is recorded. What was delivered, followed by what is still held, is then the
    pages of all answers in the order of the calls. Each call comes when everything received before
    is delivered, so what is held is the end of one page. -/
theorem delivered_append_buffer (call : ListCall κ α ε σ) (request : PageRequest κ) (server : σ)
    (actions : List Pager.Action) (n : Nat) :
    let h := Pager.history (recorded call) actions (.new request) ⟨server, []⟩
    let t := ItemStream.polls (recorded call) n (.live h.pager) h.server
    let moments := h.moments ++ t.moments
    h.delivered ++ h.pager.buffer = fetched h.server.exchanges ∧
    h.delivered ++ t.delivered ++ t.stream.buffer = fetched t.server.exchanges ∧
    deliveredIn moments = h.delivered ++ t.delivered ∧
    askedIn moments = t.server.exchanges ∧
    (∀ before e after, moments = before ++ .asked e :: after →
      deliveredIn before = fetched (askedIn before)) ∧
    t.stream.buffer <:+ lastPage t.server.exchanges := by
  intro h t moments
  have w := Pager.history_walk (recorded call) actions (.new request) ⟨server, []⟩
  have hd := Pager.history_delivered (recorded call) actions (.new request) ⟨server, []⟩
  obtain ⟨q, wt, hb, td⟩ := ItemStream.polls_walk (recorded call) n h.server
    (w.sound (Pager.sound_new request))
  have all := w.append wt
  have record : t.server.exchanges = askedIn moments := all.record
  have delivered : deliveredIn moments = h.delivered ++ t.delivered := by
    rw [deliveredIn_append, ← hd, ← td]
  have buffer : t.stream.buffer = q.buffer := hb
  have orderly : Orderly [] moments q.buffer := all.orderly
  refine ⟨?_, ?_, delivered, record.symm, ?_, ?_⟩
  · have hr : h.server.exchanges = askedIn h.moments := w.record
    rw [show h.delivered = deliveredIn h.moments from hd, hr]
    exact w.orderly.balance
  · rw [← delivered, buffer, record]
    exact orderly.balance
  · intro before e after split
    rw [split] at orderly
    exact orderly.nothing_held
  · rw [buffer, record]
    exact orderly.suffix

end ControlPlane
