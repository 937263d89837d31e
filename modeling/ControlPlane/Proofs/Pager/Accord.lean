import Mathlib.Algebra.Group.Nat.Defs
import ControlPlane.Proofs.Pager.Delivery
import ControlPlane.Proofs.Pager.PlainList

/-!
# Three ways to pull the same items

The items of a listing may be taken many at once, moved to one by one, or polled as a stream. The
three ask for pages of different sizes at most:

* `Pager.oneByOne` -- the loop that moves to the next item and notes it;
* `SizeBlind` -- a server whose answers do not depend on the size that it is asked for; a script is
  one;
* `Level` -- pagers that differ in the size asked for last and in the item in hand at most;
  `Level.step`, `pull_level` -- **over such a server a take and the loop stay level**, whatever each
  of them wants;
* `step_of_plenty` -- a count that no page size reaches asks as no count does;
* `entries_pull`, `polls_pull` -- **so the entries of a stream are what a take of all collects**, then
  its failure, then the end, with the same calls;
* `pulls_agree` -- all of it for every history.
-/

namespace ControlPlane

variable {κ α ε σ : Type}

/-! ## 1. One by one -/

namespace Pager

/-- Moves to the next item and notes it, until `count` items have come or there is none. -/
def oneByOne (call : ListCall κ α ε σ) : Nat → Pager κ α ε → σ → List α × Pager κ α ε × σ
  | 0, p, s => ([], p, s)
  | count + 1, p, s =>
    let (q, t) := p.advance call s
    match q.current with
    | none => ([], q, t)
    | some a =>
      let (items, last, u) := oneByOne call count q t
      (a :: items, last, u)

end Pager

/-! ## 2. Level pagers -/

/-- An exchange without the size that was asked for. -/
def Exchange.unsized (e : Exchange κ α ε) : Exchange κ α ε :=
  { e with request := { e.request with pageSize := 0 } }

/-- **A server whose answers do not depend on the size that it is asked for.** -/
def SizeBlind (call : ListCall κ α ε σ) : Prop :=
  ∀ (request : PageRequest κ) (n : Int64) (s : σ),
    call { request with pageSize := n } s = call request s

/-- A script gives its answers in turn, whatever is asked. -/
theorem scripted_sizeBlind (exhausted : ε) :
    SizeBlind (scripted exhausted : ListCall κ α ε _) := by
  intro request n s
  cases s with
  | nil => rfl
  | cons answer rest => rfl

/-- Records of the same server that differ in the sizes asked for at most. -/
structure Recorded.Level (r r' : Recorded κ α ε σ) : Prop where
  server : r.server = r'.server
  exchanges : r.exchanges.map Exchange.unsized = r'.exchanges.map Exchange.unsized

namespace Pager

/-- **Pagers that differ in the size asked for last and in the item in hand at most.** -/
structure Level (p q : Pager κ α ε) : Prop where
  scope : p.request.scope = q.request.scope
  token : p.nextPageToken = q.nextPageToken
  started : p.started = q.started
  buffer : p.buffer = q.buffer
  failure : p.failure = q.failure

theorem Level.refl (p : Pager κ α ε) : Level p p := ⟨rfl, rfl, rfl, rfl, rfl⟩

namespace Level

variable {call : ListCall κ α ε σ} {p q : Pager κ α ε} {r r' : Recorded κ α ε σ}

/-- The item in hand may be moved out on one side. -/
theorem handOver (h : Level p q) : Level { p with current := none } q :=
  ⟨h.scope, h.token, h.started, h.buffer, h.failure⟩

theorem atEnd (h : Level p q) : p.atEnd = q.atEnd := by
  have token : p.request.pageToken = q.request.pageToken := h.token
  rw [Pager.atEnd, Pager.atEnd, h.started, token]

/-- Level pagers ask for the same, whatever sizes they ask for. -/
theorem nextRequest (h : Level p q) (want want' : Option Nat) :
    p.nextRequest want = { q.nextRequest want' with pageSize := askedSize p.pageSize want } := by
  have token : p.request.pageToken = q.request.pageToken := h.token
  rw [Pager.nextRequest, Pager.nextRequest, h.scope, token]

/-- **A request of each, answered without regard to its size, leaves them level** and on the same
    item. -/
theorem fetch (h : Level p q) (blind : SizeBlind call) (want want' : Option Nat)
    (hr : r.Level r') :
    Level (p.fetch (recorded call) want r).1 (q.fetch (recorded call) want' r').1 ∧
      (p.fetch (recorded call) want r).1.current = (q.fetch (recorded call) want' r').1.current ∧
      (p.fetch (recorded call) want r).2.Level (q.fetch (recorded call) want' r').2 := by
  have request := h.nextRequest want want'
  have same : call (p.nextRequest want) r.server = call (q.nextRequest want') r'.server := by
    rw [request, hr.server]
    exact blind _ _ _
  have exchange : ∀ answer : Except ε (Page α),
      (⟨p.nextRequest want, answer⟩ : Exchange κ α ε).unsized =
        (⟨q.nextRequest want', answer⟩ : Exchange κ α ε).unsized := fun answer => by rw [request]; rfl
  simp only [Pager.fetch, recorded, same]
  refine ⟨?_, ?_, rfl, ?_⟩
  · cases (call (q.nextRequest want') r'.server).1 with
    | ok page => exact ⟨h.scope, rfl, rfl, rfl, h.failure⟩
    | error e => exact ⟨h.scope, h.token, rfl, rfl, rfl⟩
  · cases (call (q.nextRequest want') r'.server).1 with
    | ok page => rfl
    | error e => rfl
  · simp only [List.map_append, hr.exchanges, List.map_cons, exchange]

/-- **So does a step of each**, whatever is wanted. -/
theorem step (h : Level p q) (blind : SizeBlind call) (want want' : Option Nat)
    (hr : r.Level r') :
    Level (p.step (recorded call) want r).1 (q.step (recorded call) want' r').1 ∧
      (p.step (recorded call) want r).1.current = (q.step (recorded call) want' r').1.current ∧
      (p.step (recorded call) want r).2.Level (q.step (recorded call) want' r').2 := by
  cases failed : p.failure with
  | some e =>
    rw [step_of_failure _ _ _ failed, step_of_failure _ _ _ (h.failure ▸ failed)]
    exact ⟨⟨h.scope, h.token, h.started, h.buffer, h.failure⟩, rfl, hr⟩
  | none =>
    have failed' : q.failure = none := h.failure ▸ failed
    cases held : p.buffer with
    | cons a rest =>
      rw [step_of_buffer _ _ _ failed held, step_of_buffer _ _ _ failed' (h.buffer ▸ held)]
      exact ⟨⟨h.scope, h.token, h.started, rfl, h.failure⟩, rfl, hr⟩
    | nil =>
      have held' : q.buffer = [] := h.buffer ▸ held
      cases last : p.atEnd with
      | true =>
        rw [step_of_atEnd _ _ _ failed held last, step_of_atEnd _ _ _ failed' held' (h.atEnd ▸ last)]
        exact ⟨⟨h.scope, h.token, h.started, h.buffer, h.failure⟩, rfl, hr⟩
      | false =>
        rw [step_of_more _ _ _ failed held last, step_of_more _ _ _ failed' held' (h.atEnd ▸ last)]
        exact h.fetch blind want want' hr

end Level

section Pulls

variable {call : ListCall κ α ε σ} {p q : Pager κ α ε} {r r' : Recorded κ α ε σ}

/-- **A pull and the loop deliver the same and stay level.** -/
theorem pull_level (blind : SizeBlind call) (count : Nat) (h : Level p q) (hr : r.Level r') :
    (pull (recorded call) count p r).1 = (oneByOne (recorded call) count q r').1 ∧
      Level (pull (recorded call) count p r).2.1 (oneByOne (recorded call) count q r').2.1 ∧
      (pull (recorded call) count p r).2.2.Level (oneByOne (recorded call) count q r').2.2 := by
  induction count generalizing p q r r' with
  | zero => exact ⟨rfl, h, hr⟩
  | succ count ih =>
    obtain ⟨level, current, records⟩ := h.step blind (some (count + 1)) none hr
    cases item : (p.step (recorded call) (some (count + 1)) r).1.current with
    | none =>
      rw [item] at current
      simp only [pull, oneByOne, advance, item, ← current]
      exact ⟨trivial, level, records⟩
    | some a =>
      rw [item] at current
      obtain ⟨items, last, made⟩ := ih level.handOver records
      simp only [pull, oneByOne, advance, item, ← current]
      exact ⟨congrArg (a :: ·) items, last, made⟩

/-- What a take collects, its failure and what it leaves are those of a pull; a pager that has failed
    is pulled in vain. -/
theorem take_pull (call : ListCall κ α ε σ) (limit : Nat) (p : Pager κ α ε) (s : σ) :
    (p.take call limit s).1 =
        ⟨(pull call (wanted limit) p s).1, (pull call (wanted limit) p s).2.1.failure⟩ ∧
      Level (p.take call limit s).2.1 (pull call (wanted limit) p s).2.1 ∧
      (p.take call limit s).2.2 = (pull call (wanted limit) p s).2.2 := by
  cases failed : p.failure with
  | none =>
    rw [take_of_sound call limit s failed]
    exact ⟨rfl, Level.refl _, rfl⟩
  | some e =>
    obtain ⟨want, some'⟩ := Nat.exists_eq_succ_of_ne_zero (ListReader.wanted_ne_zero limit)
    simp only [take, failed, some', pull, step_of_failure call _ s failed]
    exact ⟨trivial, ⟨rfl, rfl, rfl, rfl, failed⟩, trivial⟩

/-! ## 3. Takes of all items -/

/-- No page size is above a count of this many items, so such a count asks as no count does. -/
theorem step_of_plenty (call : ListCall κ α ε σ) {want : Nat} (plenty : Text.maxInt64 ≤ want)
    (p : Pager κ α ε) (s : σ) : p.step call (some want) s = p.step call none s := by
  have high := Int64.toInt_lt p.pageSize
  have enough : ¬ (want : Int) < p.pageSize.toInt := by
    unfold Text.maxInt64 at plenty
    omega
  have same : p.nextRequest (some want) = p.nextRequest none := by
    simp only [nextRequest, askedSize, if_neg enough]
  simp only [step, fetch, same]

end Pulls

end Pager

namespace ItemStream

/-- The entries behind the items of a listing: its failure, if there is one, then the end. -/
def closing (failure : Option ε) : List (Entry α ε) := failure.toList.map .failure ++ [.done]

section Plenty

variable {call : ListCall κ α ε σ} {want : Nat} {p : Pager κ α ε} {s : σ}

/-- The stream of a pager that finds no item gives its failure, if there is one, and its end. -/
theorem entries_of_none (none : (p.step call none s).1.current = none) {fuel : Nat}
    (enough : 2 ≤ fuel) :
    entries (poll call) Entry.isLast fuel (.live p) s =
      (closing (p.step call .none s).1.failure, .ended endedWords, (p.step call .none s).2) := by
  obtain ⟨fuel, rfl⟩ := Nat.exists_eq_add_of_le' enough
  cases failed : (p.step call .none s).1.failure with
  | none =>
    simp only [entries, poll, Pager.advance, none, failed, Entry.isLast, if_true]
    rfl
  | some e =>
    simp only [entries, poll, Pager.advance, none, failed, Entry.isLast, Bool.false_eq_true,
      if_false, if_true]
    rfl

/-- **The entries of a stream are what a pull collects that wants more than there is**, then its
    failure, then the end; the server is asked the same. -/
theorem entries_pull
    (plenty : (Pager.pull call want p s).1.length + Text.maxInt64 ≤ want) {fuel : Nat}
    (enough : (Pager.pull call want p s).1.length + 2 ≤ fuel) :
    entries (poll call) Entry.isLast fuel (.live p) s =
      ((Pager.pull call want p s).1.map .item ++ closing (Pager.pull call want p s).2.1.failure,
        .ended endedWords, (Pager.pull call want p s).2.2) := by
  induction want generalizing p s fuel with
  | zero => cases plenty
  | succ want ih =>
    have same := Pager.step_of_plenty call (Nat.le_trans (Nat.le_add_left _ _) plenty) p s
    cases item : (p.step call (some (want + 1)) s).1.current with
    | none =>
      simp only [Pager.pull, item, List.length_nil] at enough ⊢
      rw [same] at item ⊢
      exact entries_of_none item enough
    | some a =>
      simp only [Pager.pull, item, List.length_cons] at plenty enough ⊢
      rw [same] at item plenty enough ⊢
      cases fuel with
      | zero => cases enough
      | succ fuel =>
        rw [Nat.add_right_comm] at plenty enough
        have others := ih (Nat.le_of_succ_le_succ plenty) (Nat.le_of_succ_le_succ enough)
        simp only [entries, poll_live_of_item call s item, Entry.isLast, Bool.false_eq_true,
          if_false, others, List.map_cons, List.cons_append]

/-- **Behind its items a stream asks for nothing any more**: what it is polled for after them is
    told by the calls that such a pull made. -/
theorem polls_pull
    (plenty : (Pager.pull call want p s).1.length + Text.maxInt64 ≤ want) {n : Nat}
    (behind : (Pager.pull call want p s).1.length < n) :
    (polls call n (.live p) s).server = (Pager.pull call want p s).2.2 := by
  induction want generalizing p s n with
  | zero => cases plenty
  | succ want ih =>
    have same := Pager.step_of_plenty call (Nat.le_trans (Nat.le_add_left _ _) plenty) p s
    cases n with
    | zero => cases behind
    | succ n =>
      cases item : (p.step call (some (want + 1)) s).1.current with
      | none =>
        simp only [Pager.pull, item]
        rw [same] at item ⊢
        obtain ⟨_, ended, server⟩ := poll_live_of_none call s item
        exact (polls_of_over call n _ ended).2.2.2.trans server
      | some a =>
        simp only [Pager.pull, item, List.length_cons] at plenty behind ⊢
        rw [same] at item plenty behind ⊢
        rw [Nat.add_right_comm] at plenty
        simp only [polls, poll_live_of_item call s item]
        exact ih (Nat.le_of_succ_le_succ plenty) (Nat.lt_of_succ_lt_succ behind)

end Plenty

end ItemStream

/-! ## 4. Histories -/

/-- **Bulk, single and stream pulls agree.** A pager is used in any way over a server that does not
    look at the size it is asked for, such as a script; the server is recorded.

    A take and the loop that moves to one item after another then deliver the same items. They make
    the same calls but for their sizes, with the same answers, and leave the same in the buffer, the
    same token and the same failure, which the take reports.

    The stream of the pager, if fewer than `2 ^ 63` items are left, gives what a take of all items
    collects, then its failure if there is one, then the end. It makes the same calls, sizes
    included, and none after the first entry that is no item. -/
theorem pulls_agree (call : ListCall κ α ε σ) (blind : SizeBlind call) (request : PageRequest κ)
    (server : σ) (actions : List Pager.Action) :
    let h := Pager.history (recorded call) actions (.new request) ⟨server, []⟩
    (∀ n, 0 < n →
      let bulk := h.pager.take (recorded call) n h.server
      let single := h.pager.oneByOne (recorded call) n h.server
      bulk.1.items = single.1 ∧
      bulk.2.2.exchanges.map Exchange.unsized = single.2.2.exchanges.map Exchange.unsized ∧
      bulk.2.1.buffer = single.2.1.buffer ∧
      bulk.2.1.nextPageToken = single.2.1.nextPageToken ∧
      bulk.2.1.failure = single.2.1.failure ∧
      bulk.1.failure = bulk.2.1.failure) ∧
    let all := h.pager.takeAll (recorded call) h.server
    all.1.items.length < 2 ^ 63 →
      let stream := ItemStream.collect (recorded call) (.live h.pager) h.server
      stream.1 = all.1.items.map .item ++ all.1.failure.toList.map .failure ++ [.done] ∧
      stream.2.2 = all.2.2 ∧
      ∀ n, all.1.items.length < n →
        (ItemStream.polls (recorded call) n (.live h.pager) h.server).server = all.2.2 := by
  intro h
  refine ⟨fun n positive => ?_, ?_⟩
  · intro bulk single
    have count : Pager.wanted n = n := if_neg (Nat.ne_of_gt positive)
    obtain ⟨haul, left, record⟩ := Pager.take_pull (recorded call) n h.pager h.server
    obtain ⟨items, level, made⟩ := Pager.pull_level blind (Pager.wanted n) (.refl h.pager)
      (⟨rfl, rfl⟩ : h.server.Level h.server)
    rw [← record] at made
    rw [count] at haul left items level made
    exact ⟨(congrArg Haul.items haul).trans items, made.exchanges,
      left.buffer.trans level.buffer, left.token.trans level.token,
      left.failure.trans level.failure,
      (Pager.take_failure (recorded call) n h.pager h.server).symm⟩
  · intro all few stream
    obtain ⟨haul, -, record⟩ := Pager.take_pull (recorded call) 0 h.pager h.server
    have items : all.1.items = (Pager.pull (recorded call) unlimited h.pager h.server).1 :=
      congrArg Haul.items haul
    have failure : all.1.failure =
        (Pager.pull (recorded call) unlimited h.pager h.server).2.1.failure :=
      congrArg Haul.failure haul
    have same : all.2.2 = (Pager.pull (recorded call) unlimited h.pager h.server).2.2 := record
    rw [items] at few
    have plenty : (Pager.pull (recorded call) unlimited h.pager h.server).1.length +
        Text.maxInt64 ≤ unlimited := by
      unfold unlimited Text.maxWord64 Text.maxInt64 at *
      omega
    have enough : (Pager.pull (recorded call) unlimited h.pager h.server).1.length + 2 ≤
        unlimited := by
      unfold Text.maxInt64 at plenty
      omega
    have entries := ItemStream.entries_pull plenty enough
    rw [List.append_assoc, items, failure, same]
    exact ⟨congrArg Prod.fst entries, congrArg (fun e => e.2.2) entries,
      fun n behind => ItemStream.polls_pull plenty behind⟩

/-- Three pages with an item in hand and two in the buffer; the third call fails. -/
theorem broken_listing_agrees :
    let call : ListCall Unit Nat Status _ := scripted scriptExhausted
    let h := Pager.history (recorded call) [.advance, .withPageSize 2] (.new ⟨(), 10, ""⟩)
      ⟨[.ok ⟨[1, 2, 3], "a"⟩, .ok ⟨[4], "b"⟩], []⟩
    SizeBlind call ∧
    (h.pager.take (recorded call) 9 h.server).1.items = [2, 3, 4] ∧
    (h.pager.oneByOne (recorded call) 9 h.server).1 = [2, 3, 4] ∧
    (h.pager.takeAll (recorded call) h.server).1.items.length = 3 ∧
    (ItemStream.collect (recorded call) (.live h.pager) h.server).1 =
      [.item 2, .item 3, .item 4, .failure scriptExhausted, .done] := by
  intro call h
  have blind : SizeBlind call := scripted_sizeBlind scriptExhausted
  have agree := pulls_agree call blind ⟨(), 10, ""⟩
    [.ok ⟨[1, 2, 3], "a"⟩, .ok ⟨[4], "b"⟩] [.advance, .withPageSize 2]
  have bulk : (h.pager.take (recorded call) 9 h.server).1.items = [2, 3, 4] := by decide
  have all : (h.pager.takeAll (recorded call) h.server).1 =
      ⟨[2, 3, 4], some scriptExhausted⟩ := by decide
  have few : (h.pager.takeAll (recorded call) h.server).1.items.length < 2 ^ 63 := by
    rw [all]
    decide
  refine ⟨blind, bulk, (agree.1 9 (by decide)).1.symm.trans bulk, ?_, (agree.2 few).1.trans ?_⟩
  · rw [all]
    rfl
  · rw [all]
    rfl

end ControlPlane
