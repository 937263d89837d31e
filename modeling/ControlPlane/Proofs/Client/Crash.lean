import ControlPlane.Proofs.Client.Called
import ControlPlane.Proofs.Options.Metadata
import ControlPlane.Proofs.Pager.Conversation

/-!
# What makes a call crash

* `exchange_ne_crash` -- an exchange never crashes;
* `call_crash_iff`, `list_crash_iff` -- **a call crashes if it is granted a connection and its
  deadline cannot be written**, and never else;
* `overlong_of_crash` -- so the options of a call for a page that has crashed are such;
* `failure_of_answer` -- a failure that a pager reports is the one that it ends with;
* `iterator_uncrashed` -- **so nothing that an iterator gives is a crash.**
-/

namespace ControlPlane

/-! ## 1. Calls -/

namespace Session

variable {s : Session} {options : CallOptions}

/-- An exchange ends with an answer or a status. -/
theorem exchange_ne_crash (s : Session) (m : Method) (request : m.Request) (metadata : Metadata)
    (words : String) : (s.exchange m request metadata).1 ≠ .error (.crash words) := by
  unfold exchange
  simp only
  split
  · exact nofun
  · split
    · exact nofun
    · cases (s.replies.headD .exhausted).outcome m with
      | ok response => exact nofun
      | error status => exact nofun

/-- The fault of options is a crash only for a deadline that cannot be written. -/
theorem ofOptions_crash_iff {fault : OptionFault} {words : String} :
    CallFault.ofOptions fault = .crash words ↔
      fault = .deadlineTooLong ∧ words = OptionFault.deadlineTooLong.message := by
  by_cases long : fault = .deadlineTooLong
  · subst long
    constructor
    · intro h
      cases h
      exact ⟨rfl, rfl⟩
    · rintro ⟨_, rfl⟩
      rfl
  · rw [CallFault.ofOptions_eq long]
    constructor
    · intro h
      cases h
    · rintro ⟨h, _⟩
      exact absurd h long

/-- **A call crashes if it is granted a connection and its deadline cannot be written.** -/
theorem call_crash_iff (s : Session) (m : Method) (request : m.Request) (options : CallOptions)
    (words : String) :
    (s.call m request options).1 = .error (.crash words) ↔
      (s.connection.channelWithin options.timeout).1 = .granted ∧ options.Overlong ∧
        words = OptionFault.deadlineTooLong.message := by
  rw [← CallOptions.metadata_eq_tooLong_iff]
  unfold call
  rcases s.connection.channelWithin options.timeout with ⟨access, events, c⟩
  cases access with
  | never =>
    constructor
    · intro h
      cases h
    · rintro ⟨h, _⟩
      cases h
  | denied status =>
    constructor
    · intro h
      cases h
    · rintro ⟨h, _⟩
      cases h
  | granted =>
    cases options.metadata with
    | ok metadata =>
      constructor
      · intro h
        exact absurd h (exchange_ne_crash _ m request metadata words)
      · rintro ⟨_, h, _⟩
        cases h
    | error fault =>
      simp only [Except.error.injEq, ofOptions_crash_iff, true_and]

/-- So does a call for a page. -/
theorem list_crash_iff (l : Listing) (options : CallOptions) (request : PageRequest l.Scope)
    (s : Session) (words : String) :
    (Session.list l options request s).1 = .error (.crash words) ↔
      (s.connection.channelWithin options.timeout).1 = .granted ∧ options.Overlong ∧
        words = OptionFault.deadlineTooLong.message := by
  let asked := s.note (requestEvent request)
  refine Iff.trans ?_ (call_crash_iff asked l.method (l.ofPageRequest request) options words)
  unfold list
  simp only
  cases (asked.call l.method (l.ofPageRequest request) options).1 with
  | ok response =>
    constructor
    · intro h
      cases h
    · intro h
      cases h
  | error fault =>
    constructor
    · intro h
      cases h
      rfl
    · intro h
      cases h
      rfl

/-- Without metadata nothing is answered. -/
theorem Called.fails {t : Session} {m : Method} {request : m.Request}
    {answer : Except CallFault m.Response} (h : Called s m request options answer t)
    {fault : OptionFault} (invalid : options.metadata = .error fault) :
    ∃ e, answer = .error e := by
  cases h with
  | unconnected => exact ⟨_, rfl⟩
  | endless => exact ⟨_, rfl⟩
  | misconfigured => exact ⟨_, rfl⟩
  | unsent => exact ⟨_, rfl⟩
  | late => exact ⟨_, rfl⟩
  | answered _ valid => rw [invalid] at valid; cases valid

theorem list_fails (l : Listing) (request : PageRequest l.Scope) (s : Session)
    {fault : OptionFault} (invalid : options.metadata = .error fault) :
    ∃ e, (Session.list l options request s).1 = .error e := by
  obtain ⟨answer, called, page⟩ := list_called l options request s
  obtain ⟨e, rfl⟩ := called.fails invalid
  exact ⟨e, page⟩

end Session

/-! ## 2. Iterators -/

section Answers

variable {κ α ε σ : Type} {call : ListCall κ α ε σ}

/-- **A failure that a pager reports is the one that it ends with.** -/
theorem Pager.failure_of_answer (actions : List Action) (p : Pager κ α ε) (s : σ)
    {haul : Haul α ε} {e : ε} (given : .haul haul ∈ (history call actions p s).answers)
    (failed : haul.failure = some e) : (history call actions p s).pager.failure = some e := by
  induction actions generalizing p s with
  | nil => cases given
  | cons action rest ih =>
    rcases List.mem_cons.mp given with first | others
    · have here : (p.act call action s).2.1.failure = some e := by
        cases action with
        | advance => cases first
        | current => cases first
        | withPageSize n => cases first
        | take limit =>
          cases first
          exact (take_failure call limit p s).trans failed
        | takeAll =>
          cases first
          exact (take_failure call 0 p s).trans failed
      exact ((history_walk call rest _ _).of_failure here).2.1
    · exact ih _ _ others

end Answers

section Iterators

variable {l : Listing} {options : CallOptions} {s t : Session}

/-- A call for a page that has crashed had a deadline that cannot be written. -/
theorem Session.overlong_of_crash {request : PageRequest l.Scope} {words : String}
    (crashed : Session.list l options request s = (.error (.crash words), t)) :
    options.Overlong :=
  ((Session.list_crash_iff l options request s words).mp (by rw [crashed])).2.1

/-- **Nothing that an iterator gives is a crash**, unless the deadline of its options cannot be
    written. -/
theorem iterator_uncrashed (l : Listing) (request : l.method.Request) {options : CallOptions}
    (short : ¬ options.Overlong) (s : Session) (actions : List Pager.Action) (n : Nat)
    (words : String) :
    let h := Pager.history (Session.list l options) actions (Session.iterate l request) s
    let t := ItemStream.polls (Session.list l options) n (.live h.pager) h.server
    h.pager.failure ≠ some (.crash words) ∧
      (∀ haul, .haul haul ∈ h.answers → haul.failure ≠ some (.crash words)) ∧
      .failure (.crash words) ∉ t.entries := by
  intro h t
  have used := Pager.history_walk (Session.list l options) actions (Session.iterate l request) s
  have sound : h.pager.failure ≠ some (.crash words) := by
    intro failed
    obtain ⟨_, _, last⟩ := used.failed_last rfl failed
    exact short (Session.overlong_of_crash last)
  refine ⟨sound, fun haul given failed => ?_, fun given => ?_⟩
  · exact sound (Pager.failure_of_answer actions (Session.iterate l request) s given failed)
  · obtain ⟨_, _, last⟩ := ItemStream.polls_failed_last used rfl n given
    exact short (Session.overlong_of_crash last)

end Iterators

end ControlPlane
