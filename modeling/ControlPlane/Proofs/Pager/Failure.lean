import ControlPlane.Proofs.Pager.Delivery
import ControlPlane.Proofs.Pager.PlainList

/-!
# A failure is final

The first call that fails ends a listing for good.

* `failuresIn` -- the failures among some exchanges; `Walk.failures` -- **there is one at most, and
  the pager has it as it was**;
* `EmptyHanded` -- a pager that failed stands on no item, as it holds none (`Sound`);
* `pull_failed`, `take_failed` -- a take that fails had fewer items than wanted, and has what was
  held and received;
* `act_of_failure`, `history_of_failure` -- **what a failed pager is asked it refuses**, with the
  same failure each time, and nothing but its page size changes;
* `polls_of_failure` -- a stream gives the failure once, behind its items, then its end;
* `failure_final` -- all of it for every history.
-/

namespace ControlPlane

variable {κ α ε σ : Type}

/-! ## 1. The failure of a pager is the one call that failed -/

/-- The failure that a call ended with, if any. -/
def Exchange.failure? (e : Exchange κ α ε) : Option ε :=
  match e.answer with
  | .ok _ => none
  | .error failure => some failure

/-- The failures among some exchanges, in order. -/
def failuresIn (es : List (Exchange κ α ε)) : List ε := es.filterMap Exchange.failure?

theorem failuresIn_append (es fs : List (Exchange κ α ε)) :
    failuresIn (es ++ fs) = failuresIn es ++ failuresIn fs := List.filterMap_append

section Walks

variable {call : ListCall κ α ε σ} {want : Option Nat} {p q : Pager κ α ε} {s t : σ}
  {made : List (Exchange κ α ε)} {ms : List (Moment κ α ε)}

/-- A step fails if its call does, and only from a pager that had not failed. -/
theorem Pager.Step.failures (h : Step call want p s made q t) :
    p.failure.toList ++ failuresIn made = q.failure.toList := by
  cases h with
  | stopped => exact List.append_nil _
  | buffered => exact List.append_nil _
  | ended => exact List.append_nil _
  | received => exact List.append_nil _
  | refused sound => rw [sound]; rfl

/-- **The failure of a pager is the one failure among its calls**, as it came. -/
theorem Walk.failures (h : Walk call p s ms q t) :
    p.failure.toList ++ failuresIn (askedIn ms) = q.failure.toList := by
  induction h with
  | stay => exact List.append_nil _
  | step _ first _ ih =>
    rw [askedIn_append, Pager.askedIn_momentsOf, failuresIn_append, ← List.append_assoc,
      first.failures]
    exact ih
  | handOver _ ih => exact ih
  | resize _ _ ih => exact ih

/-- So the failures on a record are that of the pager, if they were before. -/
theorem Walk.failures_recorded {s t : Recorded κ α ε σ} (h : Walk (recorded call) p s ms q t)
    (hp : failuresIn s.exchanges = p.failure.toList) :
    failuresIn t.exchanges = q.failure.toList := by
  rw [h.record, failuresIn_append, hp, h.failures]

/-- A pager that has failed stands on no item. -/
def Pager.EmptyHanded (p : Pager κ α ε) : Prop := p.failure ≠ none → p.current = none

theorem Pager.Step.emptyHanded (h : Step call want p s made q t) : q.EmptyHanded := by
  cases h with
  | stopped => exact fun _ => rfl
  | buffered sound => exact fun hq => absurd sound hq
  | ended => exact fun _ => rfl
  | received sound => exact fun hq => absurd sound hq
  | refused => exact fun _ => rfl

theorem Walk.emptyHanded (h : Walk call p s ms q t) (hp : p.EmptyHanded) : q.EmptyHanded := by
  induction h with
  | stay => exact hp
  | step _ first _ ih => exact ih first.emptyHanded
  | handOver _ ih => exact ih fun _ => rfl
  | resize _ _ ih => exact ih hp

end Walks

/-! ## 2. Takes that fail -/

namespace Pager

/-- A step that finds an item has not failed. -/
theorem Step.sound_of_found {call : ListCall κ α ε σ} {want : Option Nat} {p q : Pager κ α ε}
    {s t : σ} {made : List (Exchange κ α ε)} (h : Step call want p s made q t) {a : α}
    (found : q.current = some a) : q.failure = none := by
  cases hf : q.failure with
  | none => rfl
  | some e =>
    rw [h.emptyHanded (by rw [hf]; exact Option.some_ne_none e)] at found
    cases found

/-- A pull that fails has fewer items than it wanted. -/
theorem pull_failed (call : ListCall κ α ε σ) {want : Nat} {p : Pager κ α ε} {s : σ}
    (sound : p.failure = none) (failed : (pull call want p s).2.1.failure ≠ none) :
    (pull call want p s).1.length < want := by
  induction want generalizing p s with
  | zero => exact absurd sound failed
  | succ want ih =>
    obtain ⟨made, hst, _⟩ := step_spec call (some (want + 1)) p s
    cases hc : (p.step call (some (want + 1)) s).1.current with
    | none =>
      simp only [pull, hc, List.length_nil]
      exact Nat.succ_pos want
    | some a =>
      simp only [pull, hc, List.length_cons] at failed ⊢
      exact Nat.succ_lt_succ (ih (hst.sound_of_found hc) failed)

/-- **A take that fails has fewer items than wanted**, and these are what the pager held and what
    it received in the take. -/
theorem take_failed (call : ListCall κ α ε σ) {limit : Nat} {p : Pager κ α ε} {s : σ}
    (hp : p.Sound) (failed : (p.take call limit s).1.failure ≠ none) :
    (p.take call limit s).1.items.length < wanted limit ∧
      (p.take call limit s).1.items =
        p.buffer ++ fetched (askedIn (p.takeMoments call limit s)) := by
  have walk := take_walk call limit p s
  have balance := walk.orderly.balance
  rw [← take_items, walk.sound hp (by rw [take_failure]; exact failed), List.append_nil] at balance
  refine ⟨?_, balance⟩
  cases hf : p.failure with
  | some e =>
    have none : (p.take call limit s).1.items = [] := by simp only [take, hf]
    rw [none]
    exact Nat.pos_of_ne_zero (ListReader.wanted_ne_zero limit)
  | none =>
    rw [take_of_sound call limit s hf] at failed ⊢
    exact pull_failed call hf failed

/-! ## 3. What a failed pager answers -/

/-- The answer to an action after a failure. -/
def Action.refusal (e : ε) : Action → Answer α ε
  | .advance => .moved none
  | .current => .stood none
  | .take _ | .takeAll => .haul ⟨[], some e⟩
  | .withPageSize _ => .resized

/-- A pager after an action that changes nothing but its page size. -/
def resizedBy (p : Pager κ α ε) : Action → Pager κ α ε
  | .withPageSize n => p.withPageSize n
  | .advance | .current | .take _ | .takeAll => p

/-- **A failed pager refuses whatever is done with it**, and asks for nothing. -/
theorem act_of_failure (call : ListCall κ α ε σ) (action : Action) {p : Pager κ α ε} (s : σ) {e : ε}
    (failed : p.failure = some e) (hands : p.current = none) :
    p.act call action s = (action.refusal e, p.resizedBy action, s) := by
  have still : p.step call none s = (p, s) := by
    rw [step_of_failure call none s failed, ← hands]
  have nothing : ∀ limit, p.take call limit s = (⟨[], some e⟩, p, s) :=
    fun limit => by simp only [take, failed]
  cases action with
  | advance => simp only [act, advance, still, hands, Action.refusal, resizedBy]
  | current => simp only [act, hands, Action.refusal, resizedBy]
  | take limit => simp only [act, nothing, Action.refusal, resizedBy]
  | takeAll => simp only [act, takeAll, nothing, Action.refusal, resizedBy]
  | withPageSize n => rfl

/-- **So it does for ever.** -/
theorem history_of_failure (call : ListCall κ α ε σ) (actions : List Action) {p : Pager κ α ε}
    (s : σ) {e : ε} (failed : p.failure = some e) (hands : p.current = none) :
    let h := history call actions p s
    h.answers = actions.map (Action.refusal e) ∧ h.pager.failure = some e ∧ h.pager.current = none ∧
      h.pager.nextPageToken = p.nextPageToken ∧ h.server = s := by
  induction actions generalizing p with
  | nil => exact ⟨rfl, failed, hands, rfl, rfl⟩
  | cons action rest ih =>
    have resized : (p.resizedBy action).failure = some e ∧ (p.resizedBy action).current = none ∧
        (p.resizedBy action).nextPageToken = p.nextPageToken := by
      cases action <;> exact ⟨failed, hands, rfl⟩
    obtain ⟨answers, failure, current, token, server⟩ := ih resized.1 resized.2.1
    simp only [history, act_of_failure call action s failed hands, List.map_cons]
    exact ⟨by rw [answers], failure, current, token.trans resized.2.2, server⟩

end Pager

/-! ## 4. Streams -/

namespace ItemStream

/-- The first entries of a stream that has come to its end: the end, then the words of polls that
    must not be made. -/
def ending : Nat → List (Entry α ε)
  | 0 => []
  | n + 1 => .done :: List.replicate n (.misuse endedWords)

/-- The first entries of a stream whose listing has failed: the failure, a single time, and the
    end. -/
def failing (e : ε) : Nat → List (Entry α ε)
  | 0 => []
  | n + 1 => .failure e :: ending n

theorem polls_ended (call : ListCall κ α ε σ) (n : Nat) (words : String) (s : σ) :
    (polls call n (.ended words) s).entries = List.replicate n (.misuse words) := by
  induction n with
  | zero => rfl
  | succ n ih =>
    simp only [polls, poll, List.replicate_succ]
    rw [ih]

/-- Polls of a stream that gives a failure give it and the end, and nothing else. -/
theorem polls_failing (call : ListCall κ α ε σ) (n : Nat) {stream : ItemStream κ α ε} {s t : σ}
    {e : ε} (failed : poll call stream s = (.failure e, .failed, t)) :
    let polled := polls call (n + 1) stream s
    polled.entries = failing e (n + 1) ∧ polled.delivered = [] ∧ polled.server = t := by
  have ended : (polls call n .failed t).entries = ending n := by
    cases n with
    | zero => rfl
    | succ n =>
      simp only [polls, poll, ending]
      rw [polls_ended]
  have last : (.failed : ItemStream κ α ε).Over := trivial
  obtain ⟨_, given, _, server⟩ := polls_of_over call n t last
  simp only [Polled.delivered] at given ⊢
  simp only [polls, failed, failing, ended, List.flatMap_cons, Entry.items, server]
  rw [← ended, given]
  exact ⟨trivial, rfl, trivial⟩

/-- The stream of a pager that has failed gives the failure and the end, and asks for nothing. -/
theorem polls_stopped (call : ListCall κ α ε σ) (n : Nat) {p : Pager κ α ε} (s : σ) {e : ε}
    (failed : p.failure = some e) :
    (polls call n (.live p) s).entries = failing e n ∧
      (polls call n (.live p) s).server = s := by
  cases n with
  | zero => exact ⟨rfl, rfl⟩
  | succ n =>
    have here : poll call (.live p) s = (.failure e, .failed, s) := by
      simp only [poll, Pager.advance, Pager.step_of_failure call none s failed, failed]
    exact ⟨(polls_failing call n here).1, (polls_failing call n here).2.2⟩

/-- **A stream gives a failure once, behind its items, then its end.** The failure is that of the
    pager, or of a call made while the stream is polled. -/
theorem polls_of_failure (call : ListCall κ α ε σ) (n : Nat) {p : Pager κ α ε} (s : σ) {e : ε}
    (failed : p.failure.toList ++ failuresIn (askedIn (polls call n (.live p) s).moments) = [e]) :
    (polls call n (.live p) s).entries = (polls call n (.live p) s).delivered.map .item ++
      failing e (n - (polls call n (.live p) s).delivered.length) := by
  induction n generalizing p s with
  | zero => rfl
  | succ n ih =>
    obtain ⟨made, hst, hm⟩ := Pager.step_spec call none p s
    have failures := hst.failures
    cases hc : (p.step call none s).1.current with
    | some a =>
      simp only [polls, poll_live_of_item call s hc, pollMoments, hm, askedIn_append,
        Pager.askedIn_momentsOf, failuresIn_append, ← List.append_assoc, failures] at failed
      have others := ih (p := { (p.step call none s).1 with current := none }) _ failed
      simp only [Polled.delivered] at others ⊢
      simp only [polls, poll_live_of_item call s hc, List.flatMap_cons, Entry.items,
        List.cons_append, List.nil_append, List.map_cons, List.length_cons, Nat.succ_sub_succ]
      rw [← others]
    | none =>
      obtain ⟨_, past, _⟩ := poll_live_of_none call s hc
      obtain ⟨nothing, _⟩ := polls_of_over call n (poll call (.live p) s).2.2 past
      simp only [polls, pollMoments, hm, askedIn_append, Pager.askedIn_momentsOf, failuresIn_append,
        ← List.append_assoc, failures, nothing, askedIn_nil] at failed
      -- the step found nothing, so it is the failed one
      have hf : (p.step call none s).1.failure = some e := by
        cases hf : (p.step call none s).1.failure with
        | none => rw [hf] at failed; cases failed
        | some e' => rw [hf] at failed; cases failed; rfl
      have here : poll call (.live p) s = (.failure e, .failed, (p.step call none s).2) := by
        simp only [poll, Pager.advance, hc, hf]
      obtain ⟨entries, given, _⟩ := polls_failing call n here
      rw [entries, given]
      rfl

end ItemStream

/-! ## 5. Histories -/

/-- **A failure is final.** A pager is used in any way; its server is recorded.

    Its failure is the one among all calls that were made, as it came, if there is one. A take
    reports just that failure, and one that fails has fewer items than wanted: those that the pager
    held and those that it received meanwhile. A stream that the pager is turned into gives a
    failure once, behind its items, then its end.

    From a failure on no call is made any more. Whatever is done then, the pager finds no item,
    stands on none, and a take fails with the same failure and no items; its failure and its token
    stay as they are. -/
theorem failure_final (call : ListCall κ α ε σ) (request : PageRequest κ) (server : σ)
    (actions : List Pager.Action) :
    let h := Pager.history (recorded call) actions (.new request) ⟨server, []⟩
    failuresIn h.server.exchanges = h.pager.failure.toList ∧
    (∀ limit,
      let taken := h.pager.take (recorded call) limit h.server
      taken.1.failure = taken.2.1.failure ∧
      failuresIn taken.2.2.exchanges = taken.1.failure.toList ∧
      (taken.1.failure ≠ none →
        taken.1.items.length < Pager.wanted limit ∧
        ∃ made, taken.2.2.exchanges = h.server.exchanges ++ made ∧
          taken.1.items = h.pager.buffer ++ fetched made)) ∧
    (∀ n e,
      let t := ItemStream.polls (recorded call) n (.live h.pager) h.server
      failuresIn t.server.exchanges = [e] →
        t.entries = t.delivered.map .item ++ ItemStream.failing e (n - t.delivered.length)) ∧
    ∀ e, h.pager.failure = some e → ∀ more,
      let later := Pager.history (recorded call) more h.pager h.server
      later.answers = more.map (Pager.Action.refusal e) ∧
      later.pager.failure = some e ∧
      later.pager.current = none ∧
      later.pager.nextPageToken = h.pager.nextPageToken ∧
      later.server = h.server ∧
      ∀ n,
        let t := ItemStream.polls (recorded call) n (.live later.pager) later.server
        t.entries = ItemStream.failing e n ∧ t.server = h.server := by
  intro h
  have walk := Pager.history_walk (recorded call) actions (.new request) ⟨server, []⟩
  have holds : h.pager.Sound := walk.sound (Pager.sound_new request)
  have hands : h.pager.EmptyHanded := walk.emptyHanded fun _ => rfl
  have failures : failuresIn h.server.exchanges = h.pager.failure.toList :=
    walk.failures_recorded rfl
  refine ⟨failures, ?_, ?_, ?_⟩
  · intro limit taken
    have take := Pager.take_walk (recorded call) limit h.pager h.server
    have same := Pager.take_failure (recorded call) limit h.pager h.server
    refine ⟨same.symm, (take.failures_recorded failures).trans (congrArg _ same), fun failed => ?_⟩
    obtain ⟨fewer, items⟩ := Pager.take_failed (recorded call) holds failed
    exact ⟨fewer, _, take.record, items⟩
  · intro n e t failed
    obtain ⟨q, polled, _⟩ := ItemStream.polls_walk (recorded call) n h.server holds
    refine ItemStream.polls_of_failure (recorded call) n h.server ?_
    rw [← failures, ← failuresIn_append, ← polled.record]
    exact failed
  · intro e failed more later
    have current : h.pager.current = none := hands (by rw [failed]; exact Option.some_ne_none e)
    obtain ⟨answers, failure, none, token, same⟩ :=
      Pager.history_of_failure (recorded call) more h.server failed current
    refine ⟨answers, failure, none, token, same, fun n => ?_⟩
    obtain ⟨entries, asked⟩ := ItemStream.polls_stopped (recorded call) n later.server failure
    exact ⟨entries, asked.trans same⟩

/-- Two items and a failure inside of a take; from there on all is refused. -/
example :
    (Pager.history (scripted scriptExhausted) [.advance, .take 5, .advance, .current, .take 1]
      (.new ⟨(), 10, ""⟩) [.ok ⟨[1, 2], "a"⟩] : Pager.History Unit Nat Status _).answers =
      [.moved (some 1), .haul ⟨[2], some scriptExhausted⟩, .moved none, .stood none,
        .haul ⟨[], some scriptExhausted⟩] := by decide

end ControlPlane
