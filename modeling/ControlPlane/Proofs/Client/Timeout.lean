import ControlPlane.Proofs.Client.Called
import ControlPlane.Proofs.Options.Metadata

/-!
# What a timeout bounds

A timeout is used twice by a call that has no connection yet: the dial has the whole of it, and so
has the exchange that follows.

* `deadlineOf_of_timeout` -- the deadline that the server is told is what is left of the timeout
  when it is written;
* `inPhases`, `Called.in_phases` -- what comes of a dial, then of an exchange, each within the
  timeout;
* `timeout_in_phases` -- **this is what comes of every call and of every call for a page**;
* `timeout_not_over_both` -- hence a call may take longer than its timeout.
-/

namespace ControlPlane.Session

/-- **The deadline of the exchange is what is left of the timeout when it is written.** -/
theorem deadlineOf_of_timeout {o : CallOptions} {metadata : Metadata} {d : Duration}
    (timeout : o.timeout = some d) (valid : o.metadata = .ok metadata) :
    ∃ w, Deadline.kept d = some w ∧ w.nanos ≤ d.nanos ∧ deadlineOf metadata = some w.ticks := by
  obtain ⟨text, written, values⟩ := CallOptions.metadata_of_timeout timeout valid
  obtain ⟨w, _, kept, back, less, _⟩ := Deadline.kept_of_write written
  refine ⟨w, kept, less, ?_⟩
  rw [deadlineOf, values, List.head?_cons, Option.bind_some, back]
  rfl

/-- A shorter span is not waited for longer. -/
theorem ticks_le {w d : Duration} (h : w.nanos ≤ d.nanos) : w.ticks ≤ d.ticks := by
  unfold Duration.ticks
  omega

/-- **What comes of a dial that takes some time and then of an exchange**: the dial is bounded by
    the timeout, the exchange by what is left of the timeout when it is written. -/
def inPhases (timeout written : Duration) (dialling : Nat) (reply : Reply) (m : Method) :
    Except CallFault m.Response :=
  if timeout.ticks < dialling then .error (.status (Connection.timedOut timeout))
  else if written.ticks ≤ reply.delay then .error (.status .timeoutExpired)
  else reply.answer m

/-- An answer comes only if both end in time. -/
theorem inPhases_ok {timeout written : Duration} {dialling : Nat} {reply : Reply} {m : Method}
    {response : m.Response} (h : inPhases timeout written dialling reply m = .ok response) :
    dialling ≤ timeout.ticks ∧ reply.delay < written.ticks ∧ reply.body m = .ok response := by
  unfold inPhases at h
  split at h
  · cases h
  · rename_i early
    split at h
    · cases h
    · rename_i timely
      exact ⟨Nat.le_of_not_lt early, Nat.lt_of_not_le timely, (Reply.answer_eq_ok.mp h).1⟩

section Phases

variable {s t : Session} {m : Method} {request : m.Request} {o : CallOptions} {d w : Duration}
  {metadata : Metadata} {answer : Except CallFault m.Response}

/-- A call without a connection, whose dial succeeds some day, is in two phases. -/
theorem Called.in_phases (h : Called s m request o answer t)
    (unmade : s.connection.connected = false)
    (succeeds : s.connection.dialler.next.1.outcome = .connects) (timeout : o.timeout = some d)
    (valid : o.metadata = .ok metadata) (deadline : deadlineOf metadata = some w.ticks) :
    answer = inPhases d w s.connection.dialler.next.1.delay s.nextReply m := by
  -- a caller that is granted the connection had its dial end in time
  have early : ∀ {c}, s.connection.Single o.timeout .granted c →
      ¬ d.ticks < s.connection.dialler.next.1.delay := by
    intro c granted
    cases granted with
    | shared made => rw [made] at unmade; cases unmade
    | connected _ _ timely => exact Nat.not_lt.mpr (timely d timeout)
  have same : ∀ {metadata'}, o.metadata = .ok metadata' → deadlineOf metadata' = some w.ticks := by
    intro metadata' valid'
    rw [valid] at valid'
    cases valid'
    exact deadline
  unfold inPhases
  cases h with
  | unconnected denied =>
    cases denied with
    | refused _ fails => rw [succeeds] at fails; cases fails
    | @abandoned d' _ limited late =>
      rw [timeout] at limited
      cases limited
      have ends : s.connection.dialler.next.1.endsAt 0 =
          some s.connection.dialler.next.1.delay := by
        rw [Dial.endsAt, succeeds]
        exact congrArg some (Nat.zero_add _)
      have longer : d.ticks < s.connection.dialler.next.1.delay := late _ ends
      rw [if_pos longer]
  | endless never =>
    cases never with
    | endless _ unlimited => rw [timeout] at unlimited; cases unlimited
  | misconfigured _ invalid => rw [valid] at invalid; cases invalid
  | unsent granted valid' instant =>
    have zero : w.ticks = 0 := Option.some.inj ((same valid').symm.trans instant)
    rw [if_neg (early granted), if_pos (zero ▸ Nat.zero_le _)]
  | late granted valid' limited _ late =>
    have this := Option.some.inj ((same valid').symm.trans limited)
    rw [if_neg (early granted), if_pos (this ▸ late)]
  | answered granted valid' timely =>
    have less := timely _ (same valid')
    rw [if_neg (early granted), if_neg (Nat.not_le.mpr less)]

/-- **A timeout bounds the dial and the exchange, each by itself.** A call has a timeout and valid
    options; there is no connection, and the next dial succeeds after some time. Then a call of any
    method and a call for a page of any listing fail if the dial takes longer than the timeout;
    they fail if the reply takes as long as what is left of the timeout when it is written; and
    they get what comes of the reply otherwise: a response, unless it is too long. -/
theorem timeout_in_phases (unmade : s.connection.connected = false)
    (succeeds : s.connection.dialler.next.1.outcome = .connects) (timeout : o.timeout = some d)
    (valid : o.metadata = .ok metadata) :
    ∃ w, Deadline.kept d = some w ∧ w.ticks ≤ d.ticks ∧
      (∀ (m : Method) (request : m.Request), (s.call m request o).1 =
        inPhases d w s.connection.dialler.next.1.delay s.nextReply m) ∧
      (∀ (l : Listing) (request : PageRequest l.Scope), (Session.list l o request s).1 =
        (inPhases d w s.connection.dialler.next.1.delay s.nextReply l.method).map l.toPage) ∧
      ∀ (m : Method) response,
        inPhases d w s.connection.dialler.next.1.delay s.nextReply m = .ok response →
          s.connection.dialler.next.1.delay ≤ d.ticks ∧ s.nextReply.delay < d.ticks ∧
            s.nextReply.body m = .ok response := by
  obtain ⟨w, kept, less, deadline⟩ := deadlineOf_of_timeout timeout valid
  have shorter := ticks_le less
  refine ⟨w, kept, shorter, fun m request => ?_, fun l request => ?_, fun m response answer => ?_⟩
  · exact (call_called s m request o).in_phases unmade succeeds timeout valid deadline
  · obtain ⟨answer, called, page⟩ := list_called l o request s
    rw [page, called.in_phases unmade succeeds timeout valid deadline]
  · obtain ⟨early, timely, body⟩ := inPhases_ok answer
    exact ⟨early, Nat.lt_of_lt_of_le timely shorter, body⟩

end Phases

/-- A session whose dial and whose first reply, an item, take 60 milliseconds each. -/
def slowSession : Session :=
  Session.new ⟨[⟨60, .connects⟩], Dialler.success⟩
    [⟨60, fun
      | .getInstance => .ok { id := "a" }
      | .listInstances => .ok ⟨[{ id := "a" }], ""⟩
      | _ => .error scriptExhausted⟩]

/-- A timeout of 100 milliseconds. -/
def shortOptions : CallOptions := ⟨[], some ⟨100000000⟩⟩

theorem shortOptions_metadata :
    shortOptions.metadata = .ok ⟨[("grpc-timeout", "100000u")]⟩ := by
  have written : Deadline.write ⟨100000000⟩ = some "100000u" := by decide +kernel
  show CallOptions.withDeadline ⟨[]⟩ (some ⟨100000000⟩) = _
  rw [CallOptions.withDeadline, written]
  rfl

/-- A call with a dial and a reply of 60 milliseconds, within 100 each. -/
theorem slow_in_phases :
    ∃ w, Deadline.kept ⟨100000000⟩ = some w ∧ w.ticks ≤ 100 ∧
      ∀ (m : Method) (request : m.Request), (slowSession.call m request shortOptions).1 =
        inPhases ⟨100000000⟩ w 60 slowSession.nextReply m := by
  obtain ⟨w, kept, shorter, calls, _⟩ :=
    @timeout_in_phases slowSession shortOptions ⟨100000000⟩ _ rfl rfl rfl shortOptions_metadata
  exact ⟨w, kept, shorter, calls⟩

/-- **A call may take longer than its timeout**: of 100 milliseconds the dial takes 60, and the
    reply takes 60 more; the item comes, and so does the page. -/
theorem timeout_not_over_both :
    (¬ ∀ (s : Session) (m : Method) (request : m.Request) (o : CallOptions) (d : Duration),
      s.connection.connected = false → s.connection.dialler.next.1.outcome = .connects →
      o.timeout = some d → (∃ response, (s.call m request o).1 = .ok response) →
        (s.connection.dialler.next.1.delay + s.nextReply.delay) * 1000000 ≤ d.nanos) ∧
    ∃ page, (Session.list .instances shortOptions ⟨⟨"f", ""⟩, 10, ""⟩ slowSession).1 =
      .ok page := by
  have deadline : deadlineOf ⟨[("grpc-timeout", "100000u")]⟩ =
      some (⟨100000000⟩ : Duration).ticks := by decide +kernel
  constructor
  · intro bounded
    have called := call_called slowSession .getInstance (⟨"a"⟩ : GetInstanceRequest) shortOptions
    have answer := called.in_phases rfl rfl rfl shortOptions_metadata deadline
    have sum := bounded slowSession .getInstance (⟨"a"⟩ : GetInstanceRequest) shortOptions
      ⟨100000000⟩ rfl rfl rfl ⟨_, answer⟩
    exact absurd sum (by decide)
  · obtain ⟨answer, called, page⟩ :=
      list_called .instances shortOptions ⟨⟨"f", ""⟩, 10, ""⟩ slowSession
    rw [page, called.in_phases rfl rfl rfl shortOptions_metadata deadline]
    exact ⟨_, rfl⟩

end ControlPlane.Session
