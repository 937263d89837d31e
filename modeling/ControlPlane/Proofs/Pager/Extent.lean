import ControlPlane.Proofs.Pager.Tokens

/-!
# How far a pull reads

A pull ends because it has what was wanted, because a call failed, or because a step found no item.
The last of these has two causes, which the pull does not tell apart: the last page was delivered,
or **a page without items came, though its token says that there are more**.

* `Page.Closing` -- a page behind which a pull does not read on;
* `Step.none_found`, `pull_short` -- where a pull stops that ends early and without a failure;
* `Walk.pages` -- without a failure at the end, every call was answered with a page;
* `take_pages` -- **the pages that a take from a new pager reads**: closing is the last of them at
  most, and is the last if the take got fewer items than wanted.
-/

namespace ControlPlane

variable {κ α ε σ : Type}

/-! ## 1. Steps without an item -/

/-- A page behind which a pull does not read on: the last one, or one without items. -/
def Page.Closing (page : Page α) : Prop := page.next = "" ∨ page.items = []

section Steps

variable {call : ListCall κ α ε σ} {want : Option Nat} {p q : Pager κ α ε} {s t : σ}
  {made : List (Exchange κ α ε)}

/-- What a step without an item and without a failure leaves: nothing in the buffer, and the last
    page behind it, or one without items. -/
theorem Pager.Step.none_found (h : Step call want p s made q t) (sound : q.failure = none)
    (empty : q.current = none) :
    q.buffer = [] ∧ (q.atEnd = true ∨
      ∃ e, made.getLast? = some e ∧ e.answer = .ok ⟨[], q.nextPageToken⟩) := by
  cases h with
  | stopped failed =>
    rw [show p.failure = none from sound] at failed
    cases failed
  | buffered => cases empty
  | ended _ held last => exact ⟨held, .inl last⟩
  | @received page =>
    have hi : page.items = [] := List.head?_eq_none_iff.mp empty
    refine ⟨?_, .inr ⟨_, rfl, ?_⟩⟩
    · show page.items.tail = []
      rw [hi, List.tail_nil]
    · show Except.ok page = .ok ⟨[], page.next⟩
      rw [← hi]
  | refused => cases sound

/-- What is asked in a step that finds an item has items. -/
theorem Pager.Step.items_of_found (h : Step call want p s made q t) {a : α}
    (found : q.current = some a) : ∀ e ∈ made, e.items ≠ [] := by
  intro e he
  cases h with
  | stopped => cases found
  | buffered => exact absurd he List.not_mem_nil
  | ended => cases found
  | @received page =>
    have hi : page.items.head? = some a := found
    rw [List.mem_singleton.mp he]
    show page.items ≠ []
    intro none
    rw [none] at hi
    cases hi
  | refused => cases found

/-- A failure stays. -/
theorem Pager.Step.failure_stays (h : Step call want p s made q t) (sound : q.failure = none) :
    p.failure = none := by
  cases h with
  | stopped => exact sound
  | buffered sound => exact sound
  | ended sound => exact sound
  | received sound => exact sound
  | refused => cases sound

/-- A step without a failure has received a page for each call that it made. -/
theorem Pager.Step.pages (h : Step call want p s made q t) (sound : q.failure = none) :
    ∃ pages : List (Page α), made.map Exchange.answer = pages.map .ok := by
  cases h with
  | stopped => exact ⟨[], rfl⟩
  | buffered => exact ⟨[], rfl⟩
  | ended => exact ⟨[], rfl⟩
  | @received page => exact ⟨[page], rfl⟩
  | refused => cases sound

end Steps

section Pages

variable {es : List (Exchange κ α ε)} {pages : List (Page α)}

/-- The items of pages that were all received. -/
theorem fetched_of_pages (h : es.map Exchange.answer = pages.map .ok) :
    fetched es = pages.flatMap Page.items := by
  induction es generalizing pages with
  | nil =>
    rw [List.map_eq_nil_iff.mp h.symm]
    rfl
  | cons e es ih =>
    obtain ⟨page, rest, rfl, ha, hr⟩ := List.map_eq_cons_iff.mp h.symm
    rw [fetched_cons, List.flatMap_cons, ih hr.symm, Exchange.items, ← ha]

/-- Each page before the last is the answer of a call before the last. -/
theorem answer_of_mem_dropLast (h : es.map Exchange.answer = pages.map .ok) {page : Page α}
    (hp : page ∈ pages.dropLast) : ∃ e ∈ es.dropLast, e.answer = .ok page := by
  have hd := congrArg List.dropLast h
  rw [← List.map_dropLast, ← List.map_dropLast] at hd
  exact List.mem_map.mp (hd ▸ List.mem_map_of_mem hp)

/-- The last page is the answer of the last call. -/
theorem page_of_getLast? (h : es.map Exchange.answer = pages.map .ok) {e : Exchange κ α ε}
    (he : es.getLast? = some e) : ∃ page, pages.getLast? = some page ∧ e.answer = .ok page := by
  have hl := congrArg List.getLast? h
  rw [List.getLast?_map, List.getLast?_map, he] at hl
  obtain ⟨page, hp, ha⟩ := Option.map_eq_some_iff.mp hl.symm
  exact ⟨page, hp, ha.symm⟩

end Pages

section Walks

variable {call : ListCall κ α ε σ} {p q : Pager κ α ε} {s t : σ} {ms : List (Moment κ α ε)}

theorem Walk.failure_stays (h : Walk call p s ms q t) (sound : q.failure = none) :
    p.failure = none := by
  induction h with
  | stay => exact sound
  | step _ first _ ih => exact first.failure_stays (ih sound)
  | handOver _ ih => exact ih sound
  | resize _ _ ih => exact ih sound

/-- **A walk without a failure has received a page for each call that was made.** -/
theorem Walk.pages (h : Walk call p s ms q t) (sound : q.failure = none) :
    ∃ pages : List (Page α), (askedIn ms).map Exchange.answer = pages.map .ok := by
  induction h with
  | stay => exact ⟨[], rfl⟩
  | step _ first others ih =>
    obtain ⟨here, h₁⟩ := first.pages (others.failure_stays sound)
    obtain ⟨there, h₂⟩ := ih sound
    refine ⟨here ++ there, ?_⟩
    rw [askedIn_append, Pager.askedIn_momentsOf, List.map_append, List.map_append, h₁, h₂]
  | handOver _ ih => exact ih sound
  | resize _ _ ih => exact ih sound

end Walks

/-! ## 2. Pulls -/

namespace Pager

/-- **Where a pull stops that ends early and without a failure**: nothing is in the buffer, and the
    last page is behind it, or the last call that it made gave one without items. -/
theorem pull_short (call : ListCall κ α ε σ) {want : Nat} {p : Pager κ α ε} {s : σ}
    (sound : (pull call want p s).2.1.failure = none)
    (short : (pull call want p s).1.length < want) :
    let q := (pull call want p s).2.1
    q.buffer = [] ∧ (q.atEnd = true ∨
      ∃ e, (askedIn (pullMoments call want p s)).getLast? = some e ∧
        e.answer = .ok ⟨[], q.nextPageToken⟩) := by
  induction want generalizing p s with
  | zero => exact absurd short (Nat.not_lt_zero _)
  | succ want ih =>
    obtain ⟨made, hst, hm⟩ := step_spec call (some (want + 1)) p s
    cases hc : (p.step call (some (want + 1)) s).1.current with
    | none =>
      simp only [pull, hc] at sound
      simp only [pull, pullMoments, hc, hm, List.append_nil, askedIn_momentsOf]
      exact hst.none_found sound hc
    | some a =>
      simp only [pull, hc, List.length_cons] at sound short
      simp only [pull, pullMoments, hc, hm, askedIn_append, askedIn_momentsOf,
        List.getLast?_append]
      obtain ⟨empty, h⟩ := ih sound (by omega)
      refine ⟨empty, h.imp_right ?_⟩
      rintro ⟨e, he, ha⟩
      exact ⟨e, by rw [he]; rfl, ha⟩

/-- A pull reads on only behind pages with items. -/
theorem pull_asked (call : ListCall κ α ε σ) (want : Nat) (p : Pager κ α ε) (s : σ) :
    ∀ e ∈ (askedIn (pullMoments call want p s)).dropLast, e.items ≠ [] := by
  induction want generalizing p s with
  | zero => exact fun e he => absurd he List.not_mem_nil
  | succ want ih =>
    intro e he
    obtain ⟨made, hst, hm⟩ := step_spec call (some (want + 1)) p s
    have one : made.dropLast = [] := by
      apply List.eq_nil_of_length_eq_zero
      have := hst.made_le
      rw [List.length_dropLast]
      omega
    cases hc : (p.step call (some (want + 1)) s).1.current with
    | none =>
      simp only [pullMoments, hc, hm, List.append_nil, askedIn_momentsOf, one] at he
      exact absurd he List.not_mem_nil
    | some a =>
      simp only [pullMoments, hc, hm, askedIn_append, askedIn_momentsOf, List.dropLast_append]
        at he
      split at he
      · rw [one] at he
        exact absurd he List.not_mem_nil
      · rcases List.mem_append.mp he with he | he
        · exact hst.items_of_found hc e he
        · exact ih _ _ e he

theorem pull_length_le (call : ListCall κ α ε σ) (want : Nat) (p : Pager κ α ε) (s : σ) :
    (pull call want p s).1.length ≤ want := by
  induction want generalizing p s with
  | zero => exact Nat.le_refl 0
  | succ want ih =>
    simp only [pull]
    cases (p.step call (some (want + 1)) s).1.current with
    | none => exact Nat.zero_le _
    | some a => exact Nat.succ_le_succ (ih _ _)

/-! ## 3. Takes -/

/-- Where a take stops that ends early and without a failure. -/
theorem take_short (call : ListCall κ α ε σ) {limit : Nat} {p : Pager κ α ε} {s : σ}
    (sound : (p.take call limit s).1.failure = none)
    (short : (p.take call limit s).1.items.length < wanted limit) :
    let q := (p.take call limit s).2.1
    q.buffer = [] ∧ (q.atEnd = true ∨
      ∃ e, (askedIn (p.takeMoments call limit s)).getLast? = some e ∧
        e.answer = .ok ⟨[], q.nextPageToken⟩) := by
  have hp : p.failure = none := by
    rw [← take_failure] at sound
    exact (take_walk call limit p s).failure_stays sound
  rw [take_of_sound call limit s hp] at sound short ⊢
  rw [takeMoments, hp]
  exact pull_short call sound short

/-- **The pages that a take from a new pager reads**, if no call fails: it gives their items, up to
    what is wanted; only the last of them may be closing, and is, if there were fewer. -/
theorem take_pages (call : ListCall κ α ε σ) (limit : Nat) (request : PageRequest κ) (s : σ)
    (sound : ((new request : Pager κ α ε).take call limit s).1.failure = none) :
    ∃ pages : List (Page α),
      (askedIn ((new request).takeMoments call limit s)).map Exchange.answer = pages.map .ok ∧
      ((new request).take call limit s).1.items =
        (pages.flatMap Page.items).take (wanted limit) ∧
      (∀ page ∈ pages.dropLast, ¬ page.Closing) ∧
      (((new request).take call limit s).1.items.length < wanted limit →
        ∃ last, pages.getLast? = some last ∧ last.Closing) := by
  have walk := take_walk call limit (new request) s
  have items := take_items call limit (new request) s
  have failure := take_failure call limit (new request) s
  rw [sound] at failure
  have placed := walk.placed (placed_new request)
  rw [List.nil_append] at placed
  obtain ⟨pages, answered⟩ := walk.pages failure
  have balance := walk.orderly.balance
  rw [← items, fetched_of_pages answered, show (new request : Pager κ α ε).buffer = [] from rfl,
    List.nil_append] at balance
  refine ⟨pages, answered, ?_, ?_, ?_⟩
  · have most : ((new request : Pager κ α ε).take call limit s).1.items.length ≤ wanted limit :=
      pull_length_le call (wanted limit) (new request) s
    rw [← balance]
    -- a buffer is left over only where the take has all that is wanted
    by_cases short : ((new request : Pager κ α ε).take call limit s).1.items.length < wanted limit
    · rw [(take_short call sound short).1, List.append_nil, List.take_of_length_le most]
    · rw [List.take_append_of_le_length (by omega), List.take_of_length_le most]
  · intro page hpage
    obtain ⟨e, he, ha⟩ := answer_of_mem_dropLast answered hpage
    rintro (last | empty)
    · exact placed.linked.next_ne_none e he ((next?_eq_none ha).mpr last)
    · refine pull_asked call (wanted limit) (new request) s e he ?_
      rw [Exchange.items, ha]
      exact empty
  · intro short
    rcases (take_short call sound short).2 with last | ⟨e, he, ha⟩
    · -- a new pager is at its end only behind a call, whose answer gave no token
      have token := placed.next
      rw [next?, failure, last, nextAfter_eq_getLast?] at token
      cases hes : (askedIn ((new request).takeMoments call limit s)).getLast? with
      | none =>
        rw [hes] at token
        cases token
      | some e =>
        rw [hes] at token
        obtain ⟨page, hp, ha⟩ := page_of_getLast? answered hes
        exact ⟨page, hp, .inl ((next?_eq_none ha).mp token)⟩
    · obtain ⟨page, hp, hpage⟩ := page_of_getLast? answered he
      rw [ha, Except.ok.injEq] at hpage
      exact ⟨page, hp, .inr (by rw [← hpage])⟩

end Pager

end ControlPlane
