import ControlPlane.Proofs.Pager.Faithful
import ControlPlane.Proofs.Pager.History

/-!
# A pager over a faithful server is a plain list

* `ListReader` -- a list that is read from the front: the same actions, and no pages;
* `Follows` -- the simulation: what a reader has left is what the pager holds and, unless the last
  page was received, what stands from the offset of its token on;
* `Step.follows`, `pull_follows`, `act_follows` -- a step, a take and an action keep it and answer
  alike; `entries_follows` -- so does a stream;
* `answers_eq_reader` -- **every history over a faithful server answers as the list does**,
  whatever page sizes are set and however the pages are cut.
-/

namespace ControlPlane

variable {κ α ε σ : Type}

/-! ## 1. Lists read from the front -/

/-- A list that is read from the front: what is left of it, and the item moved to last. -/
structure ListReader (α : Type) where
  rest : List α
  current : Option α

namespace ListReader

/-- A reader at the front. -/
def start (items : List α) : ListReader α := ⟨items, none⟩

/-- The reader moved to the next item; at the end, to none. -/
def next (r : ListReader α) : ListReader α := ⟨r.rest.tail, r.rest.head?⟩

/-- Takes up to `limit` items; zero stands for all. -/
def take (limit : Nat) (r : ListReader α) : Pager.Answer α ε × ListReader α :=
  if limit = 0 then (.haul ⟨r.rest, none⟩, ⟨[], none⟩)
  else (.haul ⟨r.rest.take limit, none⟩, ⟨r.rest.drop limit, none⟩)

/-- Does something with a reader. Page sizes mean nothing to it. -/
def act : Pager.Action → ListReader α → Pager.Answer α ε × ListReader α
  | .advance, r => (.moved r.rest.head?, r.next)
  | .current, r => (.stood r.current, r)
  | .take limit, r => r.take limit
  | .takeAll, r => r.take 0
  | .withPageSize _, r => (.resized, r)

/-- Does one thing after another with a reader. -/
def run : List Pager.Action → ListReader α → List (Pager.Answer α ε) × ListReader α
  | [], r => ([], r)
  | action :: rest, r =>
    let (answer, next) := r.act action
    let (answers, last) := run rest next
    (answer :: answers, last)

end ListReader

namespace Pager.Action

/-- The action with a count in the place of all: the largest one that there is. -/
def counted : Action → Action
  | .take limit => .take (wanted limit)
  | .takeAll => .take unlimited
  | action => action

/-- The action without the page size that it sets. -/
def unsized : Action → Action
  | .withPageSize _ => .withPageSize 0
  | action => action

end Pager.Action

namespace ListReader

theorem act_unsized (action : Pager.Action) (r : ListReader α) :
    (r.act action.unsized : Pager.Answer α ε × _) = r.act action := by
  cases action <;> rfl

/-- Page sizes mean nothing to a reader. -/
theorem run_unsized (actions : List Pager.Action) (r : ListReader α) :
    (r.run (actions.map .unsized) : List (Pager.Answer α ε) × _) = r.run actions := by
  induction actions generalizing r with
  | nil => rfl
  | cons action rest ih => simp only [List.map_cons, run, act_unsized, ih]

theorem wanted_ne_zero (limit : Nat) : Pager.wanted limit ≠ 0 := by
  unfold Pager.wanted
  split
  · decide
  · assumption

/-- Actions that differ in page sizes only are the same to a reader, also when they are counted. -/
theorem run_counted_congr {actions actions' : List Pager.Action}
    (h : actions'.map Pager.Action.unsized = actions.map .unsized) (r : ListReader α) :
    (r.run (actions'.map .counted) : List (Pager.Answer α ε) × _) =
      r.run (actions.map .counted) := by
  have swap : ∀ as : List Pager.Action,
      (as.map .counted).map .unsized = (as.map .unsized).map Pager.Action.counted := by
    intro as
    rw [List.map_map, List.map_map]
    refine List.map_congr_left fun action _ => ?_
    cases action <;> rfl
  rw [← run_unsized (actions'.map .counted), ← run_unsized (actions.map .counted), swap, swap, h]

/-- Counting all items of a list that is not longer than any count changes nothing. -/
theorem act_counted (action : Pager.Action) {r : ListReader α} (h : r.rest.length ≤ unlimited) :
    (r.act action.counted : Pager.Answer α ε × _) = r.act action := by
  have all : (r.take unlimited : Pager.Answer α ε × _) = r.take 0 := by
    rw [take, take, if_neg (by decide), if_pos rfl, List.take_of_length_le h,
      List.drop_of_length_le h]
  cases action with
  | advance => rfl
  | current => rfl
  | take limit =>
    by_cases hl : limit = 0
    · subst hl
      exact all
    · simp only [Pager.Action.counted, Pager.wanted, if_neg hl]
  | takeAll => exact all
  | withPageSize => rfl

theorem rest_act_length (action : Pager.Action) (r : ListReader α) :
    (r.act action : Pager.Answer α ε × _).2.rest.length ≤ r.rest.length := by
  have ht : ∀ limit, (r.take limit : Pager.Answer α ε × _).2.rest.length ≤ r.rest.length := by
    intro limit
    unfold take
    split
    · exact Nat.zero_le _
    · rw [List.length_drop]
      omega
  cases action with
  | advance => rw [act, next, List.length_tail]; omega
  | current => exact Nat.le_refl _
  | take limit => exact ht limit
  | takeAll => exact ht 0
  | withPageSize => exact Nat.le_refl _

theorem run_counted (actions : List Pager.Action) {r : ListReader α}
    (h : r.rest.length ≤ unlimited) :
    (r.run (actions.map .counted) : List (Pager.Answer α ε) × _) = r.run actions := by
  induction actions generalizing r with
  | nil => rfl
  | cons action rest ih =>
    have hr := Nat.le_trans (rest_act_length (ε := ε) action r) h
    simp only [List.map_cons, run, act_counted action h, ih hr]

end ListReader

/-! ## 2. The simulation -/

/-- **A pager follows a reader**: it has not failed, stands on the same item, and has left to
    deliver what the reader has left: what it holds and, unless the last page was received, the list
    from the offset of its token on. -/
structure Follows (items : List α) (scope : κ) (stands : σ → String → Nat → Prop)
    (p : Pager κ α ε) (s : σ) (r : ListReader α) : Prop where
  sound : p.failure = none
  current : p.current = r.current
  scope : p.request.scope = scope
  positive : 0 < p.pageSize
  rest : (p.atEnd = true ∧ r.rest = p.buffer) ∨
    (p.atEnd = false ∧ ∃ offset, stands s p.request.pageToken offset ∧
      r.rest = p.buffer ++ items.drop offset)

section Simulation

variable {call : ListCall κ α ε σ} {items : List α} {scope : κ}
  {stands : σ → String → Nat → Prop} {p : Pager κ α ε} {s : σ} {r : ListReader α}

theorem follows_new {request : PageRequest κ} (h : stands s request.pageToken 0) :
    Follows items request.scope stands (Pager.new request : Pager κ α ε) s (.start items) where
  sound := rfl
  current := rfl
  scope := rfl
  positive := effectivePageSize_pos _
  rest := .inr ⟨rfl, 0, h, rfl⟩

/-- The item in hand may be moved out on both sides. -/
theorem Follows.handOver (h : Follows items scope stands p s r) :
    Follows items scope stands { p with current := none } s ⟨r.rest, none⟩ :=
  ⟨h.sound, rfl, h.scope, h.positive, h.rest⟩

/-- Another page size changes nothing. -/
theorem Follows.resize (h : Follows items scope stands p s r) (n : Int64) :
    Follows items scope stands (p.withPageSize n) s r :=
  ⟨h.sound, h.current, h.scope, effectivePageSize_pos n, h.rest⟩

/-- Where a page is asked for, the server answers with a page of what the reader has left. -/
theorem Follows.served (faithful : Faithful call items scope stands)
    (hp : Follows items scope stands p s r) {want : Option Nat} (hw : want ≠ some 0)
    (empty : p.buffer = []) (more : p.atEnd = false) :
    ∃ page u offset, call (p.nextRequest want) s = (.ok page, u) ∧ page.At items offset ∧
      (page.next ≠ "" → stands u page.next (offset + page.items.length)) ∧
      r.rest = items.drop offset := by
  rcases hp.rest with ⟨last, _⟩ | ⟨_, offset, ho, hr⟩
  · rw [more] at last
    cases last
  · rw [empty] at hr
    have hs : (p.nextRequest want).scope = scope := hp.scope
    obtain ⟨page, u, ha, hpage, hnext⟩ := faithful hs (askedSize_pos hp.positive hw) ho
    exact ⟨page, u, offset, ha, hpage, hnext, hr⟩

/-- **A step of the pager is a step of the reader.** -/
theorem Pager.Step.follows (faithful : Faithful call items scope stands) {want : Option Nat}
    (hw : want ≠ some 0) {q : Pager κ α ε} {t : σ} {made : List (Exchange κ α ε)}
    (h : Step call want p s made q t) (hp : Follows items scope stands p s r) :
    Follows items scope stands q t r.next := by
  cases h with
  | stopped failed =>
    rw [hp.sound] at failed
    cases failed
  | @buffered a rest _ held =>
    have hr := hp.rest
    rw [held] at hr
    rcases hr with ⟨last, hr⟩ | ⟨more, offset, ho, hr⟩
    · exact ⟨hp.sound, by rw [ListReader.next, hr]; rfl, hp.scope, hp.positive,
        .inl ⟨last, by rw [ListReader.next, hr]; rfl⟩⟩
    · exact ⟨hp.sound, by rw [ListReader.next, hr]; rfl, hp.scope, hp.positive,
        .inr ⟨more, offset, ho, by rw [ListReader.next, hr]; rfl⟩⟩
  | ended _ empty last =>
    have hr : r.rest = [] := by
      rcases hp.rest with ⟨_, hr⟩ | ⟨more, _⟩
      · rw [hr, empty]
      · rw [more] at last
        cases last
    exact ⟨hp.sound, by rw [ListReader.next, hr]; rfl, hp.scope, hp.positive,
      .inl ⟨last, by rw [ListReader.next, hr, empty]; rfl⟩⟩
  | @received page t _ empty more answer =>
    obtain ⟨page', u, offset, ha, hpage, hnext, hr⟩ := hp.served faithful hw empty more
    rw [answer] at ha
    cases ha
    rw [hpage.drop_eq] at hr
    have left : r.next = ⟨page.items.tail ++ items.drop (offset + page.items.length),
        page.items.head?⟩ := by
      rw [ListReader.next, hr]
      cases hi : page.items with
      | nil =>
        -- a page of no items stands at the end only, where nothing is left
        rw [hpage.progress hi, List.length_nil, Nat.add_zero, List.drop_length]
        rfl
      | cons a rest => rfl
    rw [left]
    refine ⟨hp.sound, rfl, hp.scope, hp.positive, ?_⟩
    by_cases hn : page.next = ""
    · refine .inl ⟨by simp [Pager.atEnd, Pager.received, hn], ?_⟩
      rw [hpage.last.mp hn, List.drop_length, List.append_nil]
      rfl
    · exact .inr ⟨by simp [Pager.atEnd, Pager.received, hn], _, hnext hn, rfl⟩
  | refused _ empty more answer =>
    obtain ⟨page', u, offset, ha, _⟩ := hp.served faithful hw empty more
    rw [answer] at ha
    cases ha

/-- **A take collects what the reader has next**, as many items as are wanted. -/
theorem pull_follows (faithful : Faithful call items scope stands) (want : Nat)
    (hp : Follows items scope stands p s r) (hc : want = 0 → r.current = none) :
    (Pager.pull call want p s).1 = r.rest.take want ∧
      Follows items scope stands (Pager.pull call want p s).2.1 (Pager.pull call want p s).2.2
        ⟨r.rest.drop want, none⟩ := by
  induction want generalizing p s r with
  | zero =>
    rw [List.take_zero, List.drop_zero, ← hc rfl]
    exact ⟨rfl, hp⟩
  | succ want ih =>
    obtain ⟨made, hst, _⟩ := Pager.step_spec call (some (want + 1)) p s
    have first := hst.follows faithful (by simp) hp
    have here : (p.step call (some (want + 1)) s).1.current = r.rest.head? := first.current
    simp only [Pager.pull, here]
    cases hr : r.rest with
    | nil =>
      rw [ListReader.next, hr] at first
      exact ⟨rfl, first⟩
    | cons a rest =>
      rw [ListReader.next, hr] at first
      obtain ⟨hi, hf⟩ := ih first.handOver fun _ => rfl
      exact ⟨congrArg _ hi, hf⟩

/-- A take of a pager that follows a reader. -/
theorem take_follows (faithful : Faithful call items scope stands) (limit : Nat)
    (hp : Follows items scope stands p s r) :
    (Pager.take call limit p s).1 = ⟨r.rest.take (Pager.wanted limit), none⟩ ∧
      Follows items scope stands (Pager.take call limit p s).2.1 (Pager.take call limit p s).2.2
        ⟨r.rest.drop (Pager.wanted limit), none⟩ := by
  obtain ⟨hi, hf⟩ := pull_follows faithful (Pager.wanted limit) hp
    fun h => absurd h (ListReader.wanted_ne_zero limit)
  rw [Pager.take_of_sound call limit s hp.sound, hi, hf.sound]
  exact ⟨rfl, hf⟩

/-- **Pager and reader answer an action alike**, and the pager still follows. -/
theorem act_follows (faithful : Faithful call items scope stands) (action : Pager.Action)
    (hp : Follows items scope stands p s r) :
    (Pager.act call action p s).1 = (r.act action.counted).1 ∧
      Follows items scope stands (Pager.act call action p s).2.1 (Pager.act call action p s).2.2
        (r.act action.counted : Pager.Answer α ε × _).2 := by
  have ht : ∀ limit, (r.take (Pager.wanted limit) : Pager.Answer α ε × _) =
      (.haul ⟨r.rest.take (Pager.wanted limit), none⟩,
        ⟨r.rest.drop (Pager.wanted limit), none⟩) :=
    fun limit => by rw [ListReader.take, if_neg (ListReader.wanted_ne_zero limit)]
  cases action with
  | advance =>
    obtain ⟨made, hst, _⟩ := Pager.step_spec call none p s
    have first := hst.follows faithful (by simp) hp
    exact ⟨congrArg _ first.current, first⟩
  | current => exact ⟨congrArg _ hp.current, hp⟩
  | take limit =>
    obtain ⟨hh, hf⟩ := take_follows faithful limit hp
    simp only [Pager.Action.counted, ListReader.act, ht]
    exact ⟨congrArg _ hh, hf⟩
  | takeAll =>
    obtain ⟨hh, hf⟩ := take_follows faithful 0 hp
    have h0 := ht 0
    simp only [Pager.wanted, if_true] at h0
    simp only [Pager.Action.counted, ListReader.act, h0]
    exact ⟨congrArg _ hh, hf⟩
  | withPageSize n => exact ⟨rfl, hp.resize n⟩

/-- **So they do over a whole history.** -/
theorem history_follows (faithful : Faithful call items scope stands)
    (actions : List Pager.Action) (hp : Follows items scope stands p s r) :
    (Pager.history call actions p s).answers = (r.run (actions.map .counted)).1 ∧
      Follows items scope stands (Pager.history call actions p s).pager
        (Pager.history call actions p s).server
        (r.run (actions.map .counted) : List (Pager.Answer α ε) × _).2 := by
  induction actions generalizing p s r with
  | nil => exact ⟨rfl, hp⟩
  | cons action rest ih =>
    obtain ⟨ha, hf⟩ := act_follows faithful action hp
    obtain ⟨ihs, ihf⟩ := ih hf
    refine ⟨?_, ihf⟩
    simp only [Pager.history, List.map_cons, ListReader.run]
    rw [ha, ihs]

/-- The entries that the stream of a pager gives up to its end, as far as it is polled. -/
def Pager.streamed (call : ListCall κ α ε σ) (n : Nat) (p : Pager κ α ε) (s : σ) :
    List (Entry α ε) :=
  (ItemStream.entries (ItemStream.poll call) Entry.isLast n (.live p) s).1

/-- **The stream of a pager that follows a reader gives what the reader has left, then its end**,
    as far as it is polled. -/
theorem entries_follows (faithful : Faithful call items scope stands) (n : Nat)
    (hp : Follows items scope stands p s r) :
    p.streamed call n s = (r.rest.map Entry.item ++ [Entry.done]).take n := by
  induction n generalizing p s r with
  | zero => rfl
  | succ n ih =>
    obtain ⟨made, hst, _⟩ := Pager.step_spec call none p s
    have first := hst.follows faithful (by simp) hp
    have here : (p.step call none s).1.current = r.rest.head? := first.current
    cases hr : r.rest with
    | nil =>
      rw [hr] at here
      simp only [Pager.streamed, ItemStream.entries, ItemStream.poll, Pager.advance, here,
        List.head?_nil, first.sound, Entry.isLast, if_true]
      rw [List.map_nil, List.nil_append, List.take_succ_cons, List.take_nil]
    | cons a rest =>
      rw [hr] at here
      rw [ListReader.next, hr] at first
      simp only [Pager.streamed, ItemStream.entries, ItemStream.poll_live_of_item call s here,
        Entry.isLast, Bool.false_eq_true, if_false]
      exact congrArg _ (ih first.handOver)

end Simulation

/-! ## 3. Histories -/

/-- **A pager over a faithful server answers as the plain list.** Whatever is done with it, it gives
    the answers of a reader of the list, has not failed, and the stream that it may be turned into
    gives the rest of the list. (A take of all is a take of `unlimited` items; no more can be
    counted, and on a list that is not longer the two are the same.) Hence pagers over the same list
    answer alike, whatever their servers and whatever page sizes are set. -/
theorem answers_eq_reader {call : ListCall κ α ε σ} {items : List α} {request : PageRequest κ}
    {stands : σ → String → Nat → Prop} {server : σ}
    (faithful : Faithful call items request.scope stands)
    (start : stands server request.pageToken 0) (actions : List Pager.Action) :
    let h := Pager.history call actions (.new request) server
    let plain := ListReader.run (actions.map .counted) (.start items)
    h.answers = plain.1 ∧ h.pager.failure = none ∧
    (∀ n, h.pager.streamed call n h.server =
      (plain.2.rest.map Entry.item ++ [Entry.done]).take n) ∧
    (items.length ≤ unlimited → plain = ListReader.run actions (.start items)) ∧
    (∀ {κ' σ' : Type} {call' : ListCall κ' α ε σ'} {request' : PageRequest κ'}
      {stands' : σ' → String → Nat → Prop} {server' : σ'} {actions' : List Pager.Action},
      Faithful call' items request'.scope stands' → stands' server' request'.pageToken 0 →
      actions'.map Pager.Action.unsized = actions.map .unsized →
        let h' := Pager.history call' actions' (.new request') server'
        h'.answers = h.answers ∧
        ∀ n, h'.pager.streamed call' n h'.server = h.pager.streamed call n h.server) := by
  intro h plain
  obtain ⟨answers, follows⟩ := history_follows faithful actions (follows_new start)
  have stream := fun n => entries_follows faithful n follows
  refine ⟨answers, follows.sound, stream, fun short => ListReader.run_counted actions short, ?_⟩
  intro κ' σ' call' request' stands' server' actions' faithful' start' same h'
  obtain ⟨answers', follows'⟩ := history_follows faithful' actions' (follows_new start')
  have plain' := ListReader.run_counted_congr (ε := ε) same (.start items)
  rw [plain'] at answers' follows'
  refine ⟨answers'.trans answers.symm, fun n => ?_⟩
  exact (entries_follows faithful' n follows').trans (stream n).symm

/-- Five numbers in pages of at most two, and in pages of at most three with other page sizes. -/
theorem offsets_answer_alike :
    (Pager.history (offsets 5 (some 2)) [.advance, .withPageSize 1, .take 3, .current, .takeAll]
      (.new ⟨(), 10, ""⟩) () : Pager.History Unit Nat Status Unit).answers =
        [.moved (some 0), .resized, .haul ⟨[1, 2, 3], none⟩, .stood none, .haul ⟨[4], none⟩] ∧
    (Pager.history (offsets 5 (some 3)) [.advance, .withPageSize 7, .take 3, .current, .takeAll]
      (.new ⟨(), 0, ""⟩) () : Pager.History Unit Nat Status Unit).answers =
        [.moved (some 0), .resized, .haul ⟨[1, 2, 3], none⟩, .stood none, .haul ⟨[4], none⟩] := by
  obtain ⟨answers, -, -, plain, alike⟩ :=
    @answers_eq_reader Unit Nat Status Unit (offsets 5 (some 2)) (List.range 5) ⟨(), 10, ""⟩ _ ()
      (offsets_faithful (by decide) (by decide) ()) ⟨by decide, by decide⟩
      [.advance, .withPageSize 1, .take 3, .current, .takeAll]
  have first := answers.trans (congrArg Prod.fst (plain (by decide)))
  have other := @alike Unit Unit (offsets 5 (some 3)) ⟨(), 0, ""⟩ _ ()
    [.advance, .withPageSize 7, .take 3, .current, .takeAll]
    (offsets_faithful (by decide) (by decide) ()) ⟨by decide, by decide⟩ rfl
  exact ⟨first, other.1.trans first⟩

end ControlPlane
