import ControlPlane.Proofs.Pager.Failure

/-!
# What is said between a pager and its server

* `Conversation` -- **requests and answers one after another, with a failure at most at the end**,
  and the states of the server that the answers lead through;
* `Walk.of_failure` -- nothing is asked after a failure;
* `Walk.conversation` -- **whatever is done with a pager, it holds such a conversation**;
* `Conversation.failed_last`, `Walk.failed_last` -- a conversation with a failure ends with the
  call that failed, so the failure of a pager is that of its last call;
* `Walk.scope` -- what is listed is the same in every request;
* `polls_over_of_failure`, `polls_failed_last` -- a stream that has given a failure is over, and
  the failure is that of the last call.
-/

namespace ControlPlane

variable {κ α ε σ : Type}

/-- **A conversation with a server**: each request is answered in the state that the answer before
    it left, and after a failure nothing is asked. -/
inductive Conversation (call : ListCall κ α ε σ) : σ → List (Exchange κ α ε) → σ → Prop where
  | nil (s : σ) : Conversation call s [] s
  | answered {s t u : σ} {request : PageRequest κ} {page : Page α} {es : List (Exchange κ α ε)}
      (answer : call request s = (.ok page, t)) (others : Conversation call t es u) :
      Conversation call s (⟨request, .ok page⟩ :: es) u
  | failed {s t : σ} {request : PageRequest κ} {e : ε} (answer : call request s = (.error e, t)) :
      Conversation call s [⟨request, .error e⟩] t

section Walks

variable {call : ListCall κ α ε σ} {p q : Pager κ α ε} {s t : σ} {ms : List (Moment κ α ε)}

/-- **A pager that has failed asks for nothing.** -/
theorem Walk.of_failure (h : Walk call p s ms q t) {e : ε} (failed : p.failure = some e) :
    askedIn ms = [] ∧ q.failure = some e ∧ t = s := by
  induction h with
  | stay => exact ⟨rfl, failed, rfl⟩
  | @step want p q r s t u made ms asks first others ih =>
    cases first with
    | stopped =>
      obtain ⟨nothing, failure, same⟩ := ih failed
      rw [askedIn_append, Pager.askedIn_momentsOf, nothing]
      exact ⟨rfl, failure, same⟩
    | buffered sound => rw [failed] at sound; cases sound
    | ended sound => rw [failed] at sound; cases sound
    | received sound => rw [failed] at sound; cases sound
    | refused sound => rw [failed] at sound; cases sound
  | handOver _ ih => exact ih failed
  | resize _ _ ih => exact ih failed

/-- **What is asked on a walk is a conversation.** -/
theorem Walk.conversation (h : Walk call p s ms q t) : Conversation call s (askedIn ms) t := by
  induction h with
  | stay p s => exact .nil s
  | @step want p q r s t u made ms asks first others ih =>
    rw [askedIn_append, Pager.askedIn_momentsOf]
    cases first with
    | stopped => exact ih
    | buffered => exact ih
    | ended => exact ih
    | received _ _ _ answer => exact .answered answer ih
    | refused _ _ _ answer =>
      -- the walk goes on from a failure, and asks for nothing
      obtain ⟨nothing, _, same⟩ := others.of_failure rfl
      rw [nothing, same]
      exact .failed answer
  | handOver _ ih => exact ih
  | resize _ _ ih => exact ih

/-- **What is listed is the same in every request.** -/
theorem Walk.scope (h : Walk call p s ms q t) :
    q.request.scope = p.request.scope ∧ ∀ e ∈ askedIn ms, e.request.scope = p.request.scope := by
  induction h with
  | stay => exact ⟨rfl, fun e he => by cases he⟩
  | @step want p q r s t u made ms asks first others ih =>
    obtain ⟨last, rest⟩ := ih
    have here : q.request.scope = p.request.scope ∧
        ∀ e ∈ made, e.request.scope = p.request.scope := by
      have one : ∀ {answer : Except ε (Page α)},
          ∀ e ∈ [(⟨p.nextRequest want, answer⟩ : Exchange κ α ε)],
            e.request.scope = p.request.scope := by
        intro answer e he
        rw [List.mem_singleton.mp he]
        rfl
      cases first with
      | stopped => exact ⟨rfl, fun e he => by cases he⟩
      | buffered => exact ⟨rfl, fun e he => by cases he⟩
      | ended => exact ⟨rfl, fun e he => by cases he⟩
      | received => exact ⟨rfl, one⟩
      | refused => exact ⟨rfl, one⟩
    refine ⟨last.trans here.1, fun e he => ?_⟩
    rw [askedIn_append, Pager.askedIn_momentsOf] at he
    rcases List.mem_append.mp he with he | he
    · exact here.2 e he
    · exact (rest e he).trans here.1
  | handOver _ ih => exact ih
  | resize _ _ ih => exact ih

end Walks

section Conversations

variable {call : ListCall κ α ε σ} {s t : σ} {es : List (Exchange κ α ε)}

/-- **A conversation with a failure ends with the call that failed**, which left the server as it
    is. -/
theorem Conversation.failed_last (h : Conversation call s es t) {e : ε}
    (failed : failuresIn es = [e]) :
    ∃ before request u, es = before ++ [⟨request, .error e⟩] ∧ failuresIn before = [] ∧
      Conversation call s before u ∧ call request u = (.error e, t) := by
  induction h with
  | nil => cases failed
  | answered answer _ ih =>
    obtain ⟨before, request, u, rfl, sound, talk, last⟩ := ih failed
    exact ⟨_ :: before, request, u, rfl, sound, .answered answer talk, last⟩
  | @failed s t request e' answer =>
    have same : e' = e := List.head_eq_of_cons_eq failed
    subst same
    exact ⟨[], request, s, rfl, rfl, .nil s, answer⟩

/-- **The failure of a pager that had none is that of its last call.** -/
theorem Walk.failed_last {p q : Pager κ α ε} {ms : List (Moment κ α ε)}
    (h : Walk call p s ms q t) (sound : p.failure = none) {e : ε} (failed : q.failure = some e) :
    ∃ request u, call request u = (.error e, t) := by
  have failures := h.failures
  rw [sound, failed] at failures
  obtain ⟨_, request, u, _, _, _, last⟩ := h.conversation.failed_last failures
  exact ⟨request, u, last⟩

end Conversations

/-! ## Streams -/

namespace ItemStream

variable {call : ListCall κ α ε σ}

/-- A stream that is over stays so, and gives no failure. -/
theorem polls_over (call : ListCall κ α ε σ) (n : Nat) {stream : ItemStream κ α ε} (s : σ)
    (ended : stream.Over) :
    (polls call n stream s).stream.Over ∧
      ∀ e, .failure e ∉ (polls call n stream s).entries := by
  induction n generalizing stream s with
  | zero => exact ⟨ended, fun e h => by cases h⟩
  | succ n ih =>
    obtain ⟨_, _, next, _⟩ := poll_of_over call s ended
    obtain ⟨last, others⟩ := ih (poll call stream s).2.2 next
    refine ⟨last, fun e h => ?_⟩
    rcases List.mem_cons.mp h with first | rest
    · cases stream with
      | live => exact ended
      | failed => cases first
      | ended => cases first
    · exact others e rest

/-- **A stream that has given a failure is over.** -/
theorem polls_over_of_failure (n : Nat) {stream : ItemStream κ α ε} (s : σ) {e : ε}
    (given : .failure e ∈ (polls call n stream s).entries) :
    (polls call n stream s).stream.Over := by
  induction n generalizing stream s with
  | zero => cases given
  | succ n ih =>
    rcases List.mem_cons.mp given with first | rest
    · have next : (poll call stream s).2.1.Over := by
        cases stream with
        | failed => trivial
        | ended => trivial
        | live p =>
          cases hc : (p.step call none s).1.current with
          | none => exact (poll_live_of_none call s hc).2.1
          | some a =>
            have item : (poll call (.live p) s).1 = .item a := by rw [poll_live_of_item call s hc]
            cases first.trans item
      exact (polls_over call n _ next).1
    · exact ih (poll call stream s).2.2 rest

/-- The stream of a pager that has failed gives no other failure. -/
theorem eq_of_mem_failing {e e' : ε} {n : Nat}
    (h : (.failure e : Entry α ε) ∈ failing e' n) : e = e' := by
  cases n with
  | zero => cases h
  | succ n =>
    rcases List.mem_cons.mp h with first | rest
    · cases first
      rfl
    · cases n with
      | zero => cases rest
      | succ n =>
        rcases List.mem_cons.mp rest with last | misuse
        · cases last
        · cases List.eq_of_mem_replicate misuse

/-- **The failure of a stream is that of its last call.** -/
theorem polls_failed (n : Nat) {p : Pager κ α ε} (s : σ) (sound : p.failure = none) {e : ε}
    (given : .failure e ∈ (polls call n (.live p) s).entries) :
    ∃ request u, call request u = (.error e, (polls call n (.live p) s).server) := by
  induction n generalizing p s with
  | zero => cases given
  | succ n ih =>
    obtain ⟨made, step, _⟩ := Pager.step_spec call none p s
    cases hc : (p.step call none s).1.current with
    | some a =>
      have next : ({ (p.step call none s).1 with current := none } : Pager κ α ε).failure = none :=
        step.sound_of_found hc
      simp only [polls, poll_live_of_item call s hc, List.mem_cons, reduceCtorEq, false_or]
        at given ⊢
      exact ih _ next given
    | none =>
      obtain ⟨_, ended, server⟩ := poll_live_of_none call s hc
      have last : (polls call (n + 1) (.live p) s).server = (p.step call none s).2 :=
        (polls_of_over call n _ ended).2.2.2.trans server
      have first : (poll call (.live p) s).1 = .failure e := by
        rcases List.mem_cons.mp given with first | rest
        · exact first.symm
        · exact absurd rest ((polls_over call n _ ended).2 e)
      have failed : (p.step call none s).1.failure = some e := by
        simp only [poll, Pager.advance, hc] at first
        cases hf : (p.step call none s).1.failure with
        | none => rw [hf] at first; cases first
        | some e' => rw [hf] at first; cases first; rfl
      rw [last]
      -- the step that failed is one that asked
      generalize p.step call none s = qt at step failed
      obtain ⟨q, t⟩ := qt
      cases step with
      | stopped before => rw [sound] at before; cases before
      | buffered => rw [sound] at failed; cases failed
      | ended => rw [sound] at failed; cases failed
      | received => cases sound.symm.trans failed
      | refused _ _ _ answer =>
        cases failed
        exact ⟨_, s, answer⟩

/-- **So it is for the stream of a pager that was used before.** -/
theorem polls_failed_last {p q : Pager κ α ε} {s t : σ} {ms : List (Moment κ α ε)}
    (used : Walk call p s ms q t) (sound : p.failure = none) (n : Nat) {e : ε}
    (given : .failure e ∈ (polls call n (.live q) t).entries) :
    ∃ request u, call request u = (.error e, (polls call n (.live q) t).server) := by
  cases before : q.failure with
  | none => exact polls_failed n t before given
  | some e' =>
    -- the stream of a pager that has failed repeats its failure
    obtain ⟨entries, same⟩ := polls_stopped call n t before
    have mine : e = e' := eq_of_mem_failing (entries ▸ given)
    rw [same, mine]
    exact used.failed_last sound before

end ItemStream

end ControlPlane
