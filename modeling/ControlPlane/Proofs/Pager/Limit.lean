import ControlPlane.Proofs.Pager.Conversation
import ControlPlane.Proofs.Pager.Sizes

/-!
# What a limit bounds

A take knows how many items are still wanted, and so does every request that it makes:

* `take_sizes` -- **no page is asked for with more items than the limit**;
* `take_scripted_items` -- what a take from a script collects comes from the pages of the script;
* `Within`, `pull_within`, `take_within` -- **where the first pages of a script have what is wanted,
  the rest of the script does not matter**, whatever answers or failures it holds.
-/

namespace ControlPlane

variable {κ α ε σ : Type}

/-! ## 1. Sizes -/

/-- **No request of a take with a limit asks for more than the limit**, as its record tells. -/
theorem Pager.take_sizes (call : ListCall κ α ε σ) {limit : Nat} (positive : 0 < limit)
    (p : Pager κ α ε) (s : σ) :
    ∀ e ∈ (p.take (recorded call) limit ⟨s, []⟩).2.2.exchanges,
      e.request.pageSize.toInt ≤ limit := by
  have record := (take_walk (recorded call) limit p ⟨s, []⟩).record
  have rationed := take_rationed (recorded call) limit p ⟨s, []⟩
  have same : wanted limit = limit := if_neg (Nat.ne_of_gt positive)
  rw [List.nil_append] at record
  rw [same] at rationed
  rw [record]
  exact rationed.size_le

/-! ## 2. Scripts -/

/-- The pages of a conversation with a script are pages of the script. -/
theorem Conversation.scripted_pages {exhausted : ε}
    {s t : Recorded κ α ε (List (Except ε (Page α)))} {es : List (Exchange κ α ε)}
    (h : Conversation (recorded (scripted exhausted)) s es t) {e : Exchange κ α ε} {page : Page α}
    (he : e ∈ es) (answer : e.answer = .ok page) : .ok page ∈ s.server := by
  induction h with
  | nil => cases he
  | @answered s t u request first es gives others ih =>
    obtain ⟨answers, before⟩ := s
    cases answers with
    | nil => cases gives
    | cons next rest =>
      cases gives
      rcases List.mem_cons.mp he with rfl | later
      · exact List.mem_cons.mpr (.inl answer.symm)
      · exact List.mem_cons_of_mem _ (ih later)
  | failed =>
    rw [List.mem_singleton.mp he] at answer
    cases answer

namespace Pager

/-- **What a take from a script collects comes from its pages.** -/
theorem take_scripted_items (exhausted : ε) (limit : Nat) (request : PageRequest κ)
    (answers : List (Except ε (Page α))) :
    ∀ a ∈ ((new request).take (recorded (scripted exhausted)) limit ⟨answers, []⟩).1.items,
      ∃ page, .ok page ∈ answers ∧ a ∈ page.items := by
  intro a ha
  have walk := take_walk (recorded (scripted exhausted)) limit (new request : Pager κ α ε)
    ⟨answers, []⟩
  have balance := walk.orderly.balance
  rw [take_items] at ha
  have member : a ∈ fetched (askedIn
      ((new request).takeMoments (recorded (scripted exhausted)) limit ⟨answers, []⟩)) := by
    have all := List.mem_append_left
      ((new request : Pager κ α ε).take (recorded (scripted exhausted)) limit
        ⟨answers, []⟩).2.1.buffer ha
    rw [balance] at all
    exact all
  obtain ⟨e, he, item⟩ := List.mem_flatMap.mp member
  unfold Exchange.items at item
  split at item
  · rename_i page answer
    exact ⟨page, walk.conversation.scripted_pages he answer, item⟩
  · cases item

/-- **A pull that does not see what comes after some pages of a script**: whatever that is, the pull
    gives the same, and it does not fail. -/
def Within (exhausted : ε) (want : Nat) (p : Pager κ α ε) (pages : List (Page α))
    (before : List (Exchange κ α ε)) : Prop :=
  ∃ items q left made, q.failure = none ∧ ∀ rest,
    p.pull (recorded (scripted exhausted)) want ⟨pages.map .ok ++ rest, before⟩ =
      (items, q, ⟨left ++ rest, made⟩)

section Scripts

variable {exhausted : ε} {want : Nat} {p q : Pager κ α ε} {pages others : List (Page α)}
  {before after : List (Exchange κ α ε)}

/-- One step that does not see it, and then such a pull if the step finds an item. -/
theorem Within.of_step (sound : q.failure = none)
    (next : q.current ≠ none → Within exhausted want { q with current := none } others after)
    (first : ∀ rest, p.step (recorded (scripted exhausted)) (some (want + 1))
      ⟨pages.map .ok ++ rest, before⟩ = (q, ⟨others.map .ok ++ rest, after⟩)) :
    Within exhausted (want + 1) p pages before := by
  cases item : q.current with
  | none =>
    refine ⟨[], q, others.map .ok, after, sound, fun rest => ?_⟩
    simp only [pull, first rest, item]
  | some a =>
    obtain ⟨items, last, left, made, good, same⟩ := next (by rw [item]; exact Option.some_ne_none a)
    refine ⟨a :: items, last, left, made, good, fun rest => ?_⟩
    simp only [pull, first rest, item, same rest]

/-- **A pull that has what it wants in its buffer and in some pages does not see what comes after
    them.** -/
theorem pull_within (exhausted : ε) (sound : p.failure = none)
    (enough : want ≤ p.buffer.length + (pages.flatMap Page.items).length)
    (before : List (Exchange κ α ε)) : Within exhausted want p pages before := by
  induction want generalizing p pages before with
  | zero => exact ⟨[], p, pages.map .ok, before, sound, fun rest => rfl⟩
  | succ want ih =>
    cases held : p.buffer with
    | cons a items =>
      rw [held, List.length_cons] at enough
      have more : want ≤ items.length + (pages.flatMap Page.items).length := by omega
      have next := ih (p := { p with buffer := items, current := none }) sound more before
      exact Within.of_step (q := { p with buffer := items, current := some a }) sound
        (fun _ => next) fun rest => step_of_buffer _ _ _ sound held
    | nil =>
      cases last : p.atEnd with
      | true =>
        exact Within.of_step (q := { p with current := none }) sound (fun found => absurd rfl found)
          fun rest => step_of_atEnd _ _ _ sound held last
      | false =>
        rw [held, List.length_nil, Nat.zero_add] at enough
        cases pages with
        | nil => cases enough
        | cons page others =>
          let request := p.nextRequest (some (want + 1))
          have more : want ≤ page.items.tail.length + (others.flatMap Page.items).length := by
            rw [List.flatMap_cons, List.length_append] at enough
            rw [List.length_tail]
            omega
          have next := ih (p := { p.received request (.ok page) with current := none }) sound more
            (before ++ [⟨request, .ok page⟩])
          exact Within.of_step (q := p.received request (.ok page)) sound (fun _ => next)
            fun rest => step_of_more _ _ _ sound held last

/-- **So it is for a take from a new pager.** -/
theorem take_within (exhausted : ε) {limit : Nat} (request : PageRequest κ)
    (enough : wanted limit ≤ (pages.flatMap Page.items).length) :
    ∃ items q left made, ∀ rest,
      (new request : Pager κ α ε).take (recorded (scripted exhausted)) limit
        ⟨pages.map .ok ++ rest, []⟩ = (⟨items, none⟩, q, ⟨left ++ rest, made⟩) := by
  obtain ⟨items, q, left, made, sound, same⟩ :=
    pull_within exhausted (p := new request) rfl (Nat.le_trans enough (Nat.le_add_left _ _)) []
  refine ⟨items, q, left, made, fun rest => ?_⟩
  rw [take_of_sound _ limit _ rfl, same rest, sound]

end Scripts

end Pager

end ControlPlane
