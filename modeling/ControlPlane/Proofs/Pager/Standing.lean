import ControlPlane.Proofs.Pager.Failure

/-!
# The item a pager stands on

A pager stands on an item from the step that moved to it until the next pull, and on none at all
other times. A take that is refused because of an earlier failure does not touch the item in hand;
that there is none then is due to the failure itself (`EmptyHanded`).

* `take_current`, `act_current` -- a take leaves a pager on none; what any action leaves it on;
* `Quiet`, `LastMoved` -- actions that pull nothing; actions whose last pull moved to an item;
* `history_current` -- **what a history leaves a pager on**;
* `Finds`, `advance_current` -- the item that comes next, and that a step moves to it;
* `history_quiet` -- actions that pull nothing answer alike, however often they are done;
* `Walk.last` -- an item that is stood on is the one delivered last;
* `standsOn_iff_moved` -- all of it for every history.
-/

namespace ControlPlane

variable {κ α ε σ : Type}

namespace Pager

/-! ## 1. Actions -/

/-- Whether an action pulls items. -/
def Action.pulls : Action → Bool
  | .advance | .take _ | .takeAll => true
  | .current | .withPageSize _ => false

/-- A pull moves every item out that it finds. -/
theorem pull_current (call : ListCall κ α ε σ) (want : Nat) {p : Pager κ α ε} (s : σ)
    (hands : want = 0 → p.current = none) : (pull call want p s).2.1.current = none := by
  induction want generalizing p s with
  | zero => exact hands rfl
  | succ want ih =>
    cases item : (p.step call (some (want + 1)) s).1.current with
    | none =>
      simp only [pull, item]
    | some a =>
      simp only [pull, item]
      exact ih _ fun _ => rfl

/-- **A take leaves a pager on no item**, also if it is refused. -/
theorem take_current (call : ListCall κ α ε σ) (limit : Nat) {p : Pager κ α ε} (s : σ)
    (hands : p.EmptyHanded) : (p.take call limit s).2.1.current = none := by
  cases failed : p.failure with
  | some e =>
    simp only [take, failed]
    exact hands (by rw [failed]; exact Option.some_ne_none e)
  | none =>
    rw [take_of_sound call limit s failed]
    have some := ListReader.wanted_ne_zero limit
    exact pull_current call (wanted limit) s fun zero => absurd zero some

/-- **What an action leaves a pager on**: the item it moved to, or the item the pager stood on if it
    pulls nothing. -/
theorem act_current (call : ListCall κ α ε σ) (action : Action) {p : Pager κ α ε} (s : σ)
    (hands : p.EmptyHanded) (a : α) :
    (p.act call action s).2.1.current = some a ↔
      (action, (p.act call action s).1) = (.advance, .moved (some a)) ∨
        (p.current = some a ∧ action.pulls = false) := by
  have left : ∀ limit, (p.take call limit s).2.1.current = none :=
    fun limit => take_current call limit s hands
  cases action with
  | advance => simp [act, Action.pulls]
  | current => simp [act, Action.pulls]
  | take limit => simp [act, Action.pulls, left]
  | takeAll => simp [act, Action.pulls, takeAll, left]
  | withPageSize n => simp [act, Action.pulls, withPageSize]

theorem act_emptyHanded (call : ListCall κ α ε σ) (action : Action) {p : Pager κ α ε} (s : σ)
    (hands : p.EmptyHanded) : (p.act call action s).2.1.EmptyHanded :=
  (act_walk call action p s).1.emptyHanded hands

/-! ## 2. The last pull -/

/-- Some actions with their answers, none of which pulls. -/
def Quiet (log : List (Action × Answer α ε)) : Prop := ∀ done ∈ log, done.1.pulls = false

theorem quiet_cons {done : Action × Answer α ε} {log : List (Action × Answer α ε)} :
    Quiet (done :: log) ↔ done.1.pulls = false ∧ Quiet log := List.forall_mem_cons

/-- **Some actions with their answers, the last pull among which was a step to an item.** -/
def LastMoved (log : List (Action × Answer α ε)) (a : α) : Prop :=
  ∃ before after, log = before ++ (.advance, .moved (some a)) :: after ∧ Quiet after

theorem lastMoved_cons {done : Action × Answer α ε} {log : List (Action × Answer α ε)} {a : α} :
    LastMoved (done :: log) a ↔
      LastMoved log a ∨ (done = (.advance, .moved (some a)) ∧ Quiet log) := by
  constructor
  · rintro ⟨before, after, split, quiet⟩
    cases before with
    | nil =>
      cases split
      exact .inr ⟨rfl, quiet⟩
    | cons first before =>
      cases split
      exact .inl ⟨before, after, rfl, quiet⟩
  · rintro (⟨before, after, rfl, quiet⟩ | ⟨rfl, quiet⟩)
    · exact ⟨done :: before, after, rfl, quiet⟩
    · exact ⟨[], log, rfl, quiet⟩

/-- **What a history leaves a pager on**: the item of its last pull, if that was a step, or what the
    pager stood on before if nothing was pulled. -/
theorem history_current (call : ListCall κ α ε σ) (actions : List Action) {p : Pager κ α ε} (s : σ)
    (hands : p.EmptyHanded) (a : α) :
    (history call actions p s).pager.current = some a ↔
      LastMoved (actions.zip (history call actions p s).answers) a ∨
        (p.current = some a ∧ Quiet (actions.zip (history call actions p s).answers)) := by
  induction actions generalizing p s with
  | nil =>
    constructor
    · exact fun h => .inr ⟨h, fun done member => by cases member⟩
    · rintro (⟨before, after, split, _⟩ | ⟨h, _⟩)
      · cases before <;> cases split
      · exact h
  | cons action rest ih =>
    have others := ih (p.act call action s).2.2 (act_emptyHanded call action s hands)
    simp only [history, List.zip_cons_cons, lastMoved_cons, quiet_cons]
    rw [others, act_current call action s hands, or_and_right, and_assoc, or_assoc]

/-! ## 3. The next item, and actions that pull nothing -/

/-- **The item that comes next**: the first of the buffer or, if there is none and more may come,
    the first of the page that is received. -/
def Finds (call : ListCall κ α ε σ) (p : Pager κ α ε) (s : σ) (a : α) : Prop :=
  p.failure = none ∧
    (p.buffer.head? = some a ∨
      (p.buffer = [] ∧ p.atEnd = false ∧
        ∃ page t, call (p.nextRequest none) s = (.ok page, t) ∧ page.items.head? = some a))

/-- **A pager moves to the item that comes next**, and to none if none does. -/
theorem advance_current (call : ListCall κ α ε σ) (p : Pager κ α ε) (s : σ) (a : α) :
    (p.advance call s).1.current = some a ↔ p.Finds call s a := by
  obtain ⟨made, first, _⟩ := step_spec call none p s
  unfold advance Finds
  generalize p.step call none s = qt at first
  obtain ⟨q, t⟩ := qt
  cases first with
  | stopped failed => simp [failed]
  | buffered sound held => simp [sound, held]
  | ended sound empty last => simp [sound, empty, last]
  | received sound empty more answer => simp [sound, empty, more, answer]
  | refused sound empty more answer => simp [sound, empty, more, answer]

theorem history_answers_length (call : ListCall κ α ε σ) (actions : List Action) (p : Pager κ α ε)
    (s : σ) : (history call actions p s).answers.length = actions.length := by
  induction actions generalizing p s with
  | nil => rfl
  | cons action rest ih => exact congrArg Nat.succ (ih _ _)

/-- **Actions that pull nothing answer alike**, however often they are done. -/
theorem history_quiet (call : ListCall κ α ε σ) (actions : List Action) {p : Pager κ α ε} (s : σ)
    (quiet : ∀ action ∈ actions, action.pulls = false) :
    let h := history call actions p s
    h.answers =
        actions.map (fun action => if action = .current then .stood p.current else .resized) ∧
      h.pager.current = p.current ∧ h.server = s := by
  induction actions generalizing p with
  | nil => exact ⟨rfl, rfl, rfl⟩
  | cons action rest ih =>
    obtain ⟨calm, others⟩ := List.forall_mem_cons.mp quiet
    cases action with
    | current =>
      obtain ⟨answers, current, server⟩ := @ih p others
      exact ⟨congrArg _ answers, current, server⟩
    | withPageSize n =>
      obtain ⟨answers, current, server⟩ := @ih (p.withPageSize n) others
      exact ⟨congrArg _ answers, current, server⟩
    | advance | take | takeAll => cases calm

end Pager

/-- **An item that is stood on is the one delivered last**, or the one stood on before if nothing
    was. -/
theorem Walk.last {call : ListCall κ α ε σ} {p q : Pager κ α ε} {s t : σ} {ms : List (Moment κ α ε)}
    {a : α} (h : Walk call p s ms q t) (stands : q.current = some a) :
    (∃ earlier, deliveredIn ms = earlier ++ [a]) ∨ (p.current = some a ∧ deliveredIn ms = []) := by
  induction h with
  | stay => exact .inr ⟨stands, rfl⟩
  | step _ _ _ ih =>
    rw [deliveredIn_append, Pager.deliveredIn_momentsOf]
    rcases ih stands with ⟨earlier, delivered⟩ | ⟨current, nothing⟩
    · exact .inl ⟨_ ++ earlier, by rw [delivered, List.append_assoc]⟩
    · exact .inl ⟨[], by rw [current, nothing]; rfl⟩
  | handOver _ ih =>
    rcases ih stands with delivered | ⟨current, _⟩
    · exact .inl delivered
    · cases current
  | resize _ _ ih => exact ih stands

/-! ## 4. Histories -/

/-- What a pager stands on, by its slot. -/
theorem Pager.standsOn_eq_ok {p : Pager κ α ε} {a : α} :
    p.standsOn = .ok a ↔ p.current = some a := by
  unfold standsOn
  cases p.current with
  | none => simp
  | some b => simp

theorem Pager.standsOn_of_none {p : Pager κ α ε} (h : p.current = none) :
    p.standsOn = .error noCurrentMessage := by
  unfold standsOn
  rw [h]

/-- **When a pager stands on an item.** A pager is used in any way; its server is recorded, and may
    answer as it likes.

    It stands on an item if and only if the last pull was a step that moved to one, and then on that
    one: the last that was delivered, with what the pager holds right behind it in the pages that
    were received. Otherwise it may not be asked for its item, so after every take, may it have been
    refused, found nothing or delivered items.

    A step moves to the item that comes next, if one does. Whatever is done then without a pull, the
    pager goes on standing on it, and gives it each time it is asked. -/
theorem standsOn_iff_moved (call : ListCall κ α ε σ) (request : PageRequest κ) (server : σ)
    (actions : List Pager.Action) :
    let h := Pager.history (recorded call) actions (.new request) ⟨server, []⟩
    let log := actions.zip h.answers
    h.answers.length = actions.length ∧
    (∀ a, h.pager.standsOn = .ok a ↔ Pager.LastMoved log a) ∧
    ((∀ a, ¬ Pager.LastMoved log a) → h.pager.standsOn = .error Pager.noCurrentMessage) ∧
    (∀ a, Pager.LastMoved log a →
      ∃ earlier, h.delivered = earlier ++ [a] ∧
        fetched h.server.exchanges = earlier ++ a :: h.pager.buffer) ∧
    (∀ limit, (h.pager.take (recorded call) limit h.server).2.1.standsOn =
      .error Pager.noCurrentMessage) ∧
    (∀ a, (h.pager.advance (recorded call) h.server).1.standsOn = .ok a ↔
      h.pager.Finds (recorded call) h.server a) ∧
    ∀ more, (∀ action ∈ more, action.pulls = false) →
      let later := Pager.history (recorded call) more h.pager h.server
      later.pager.standsOn = h.pager.standsOn ∧
      later.answers =
        more.map (fun action => if action = .current then .stood h.pager.current else .resized) ∧
      later.server = h.server := by
  intro h log
  have walk := Pager.history_walk (recorded call) actions (.new request) ⟨server, []⟩
  have given := Pager.history_delivered (recorded call) actions (.new request) ⟨server, []⟩
  have hands : h.pager.EmptyHanded := walk.emptyHanded fun _ => rfl
  have moved : ∀ a, h.pager.current = some a ↔ Pager.LastMoved log a := by
    intro a
    have told := Pager.history_current (recorded call) actions ⟨server, []⟩
      (p := Pager.new request) (fun _ => rfl) a
    rw [told]
    exact or_iff_left fun before => by cases before.1
  refine ⟨Pager.history_answers_length .., fun a => ?_, fun never => ?_, fun a last => ?_,
    fun limit => ?_, fun a => ?_, ?_⟩
  · rw [Pager.standsOn_eq_ok, moved]
  · refine Pager.standsOn_of_none ?_
    cases stands : h.pager.current with
    | none => rfl
    | some a => exact absurd ((moved a).mp stands) (never a)
  · rcases walk.last ((moved a).mpr last) with ⟨earlier, delivered⟩ | ⟨before, _⟩
    · refine ⟨earlier, given.trans delivered, ?_⟩
      have record : h.server.exchanges = askedIn h.moments := walk.record
      have balance := walk.orderly.balance
      rw [delivered, List.append_assoc] at balance
      rw [record]
      exact balance.symm
    · cases before
  · exact Pager.standsOn_of_none (Pager.take_current (recorded call) limit _ hands)
  · exact Pager.standsOn_eq_ok.trans (Pager.advance_current (recorded call) _ _ a)
  · intro more quiet later
    obtain ⟨answers, current, server⟩ := Pager.history_quiet (recorded call) more h.server quiet
    refine ⟨?_, answers, server⟩
    unfold Pager.standsOn
    rw [current]

/-- An item is stood on until the next pull; none is after a take that was refused. -/
example :
    (Pager.history (scripted scriptExhausted) [.advance, .current, .withPageSize 5, .current,
      .advance, .current, .take 1, .current] (.new ⟨(), 10, ""⟩) [.ok ⟨[1], "a"⟩] :
      Pager.History Unit Nat Status _).answers =
      [.moved (some 1), .stood (some 1), .resized, .stood (some 1), .moved none, .stood none,
        .haul ⟨[], some scriptExhausted⟩, .stood none] := by decide

end ControlPlane
