import ControlPlane.Client.Session
import ControlPlane.Proofs.Connection.Single
import ControlPlane.Proofs.Wire.Length

/-!
# Everything a call can do

* `Reply.answer`, `Session.nextReply` -- what a caller gets of a reply, and the reply that the next
  call received gets;
* `Reply.outcome_eq_ok`, `Reply.answer_eq_ok` -- **a response comes as it is, and comes if it is not
  too long**;
* `Called` -- **everything a call can do to a session**: it has no connection, or none that ever
  comes; its options are not valid; it is given up before it is sent; its answer comes too late, or
  in time;
* `call_called`, `list_called` -- **every call is one of these**, and so is a call for a page;
* `Called.forth` -- what a call may change of a session: it is received once at most, with the
  metadata of its options, and uses up a reply then.
-/

namespace ControlPlane

/-- What a caller gets of a reply as the answer to a method. -/
def Reply.answer (reply : Reply) (m : Method) : Except CallFault m.Response :=
  (reply.outcome m).mapError .status

section Outcomes

variable {reply : Reply} {m : Method} {response : m.Response} {status : Status}

/-- A response that is not too long comes as it is, and so nothing else comes as one. -/
theorem Reply.outcome_eq_ok :
    reply.outcome m = .ok response ↔
      reply.body m = .ok response ∧ Message.encodedLength response ≤ maxAnswer := by
  unfold outcome
  cases reply.body m with
  | ok sent =>
    by_cases short : Message.encodedLength sent ≤ maxAnswer
    · simp only [if_pos short, Except.ok.injEq]
      exact ⟨fun same => ⟨same, same ▸ short⟩, And.left⟩
    · simp only [if_neg short, Except.ok.injEq]
      exact ⟨fun h => (by cases h), fun h => absurd (h.1 ▸ h.2) short⟩
  | error failed => exact ⟨fun h => (by cases h), fun h => (by cases h.1)⟩

theorem Reply.outcome_of_long (body : reply.body m = .ok response)
    (long : maxAnswer < Message.encodedLength response) :
    reply.outcome m = .error (.tooLong (Message.encodedLength response) maxAnswer) := by
  rw [outcome, body]
  simp only [if_neg (Nat.not_le.mpr long)]

theorem Reply.outcome_of_failure (body : reply.body m = .error status) :
    reply.outcome m = .error (arrived status) := by
  rw [outcome, body]

/-- **A caller gets a response only as it is**, and gets each one that is not too long. -/
theorem Reply.answer_eq_ok :
    reply.answer m = .ok response ↔
      reply.body m = .ok response ∧ Message.encodedLength response ≤ maxAnswer := by
  rw [← outcome_eq_ok, answer]
  cases reply.outcome m with
  | ok sent => exact ⟨fun h => by cases h; rfl, fun h => by cases h; rfl⟩
  | error failed => exact ⟨fun h => (by cases h), fun h => (by cases h)⟩

/-- A response that is not too long can be written. -/
theorem writable_of_short (short : Message.encodedLength response ≤ maxAnswer) :
    (Message.encode response).length < 2 ^ 64 := by
  have length : (Message.encode response).length = Message.encodedLength response :=
    Wire.length_encode _
  rw [length]
  exact Nat.lt_of_le_of_lt short (by decide)

end Outcomes

/-- Before every deadline an answer is waited for. -/
theorem waits_of_timely {deadline : Option Nat} {delay : Nat}
    (timely : ∀ d, deadline = some d → delay < d) :
    deadline.any (fun d => d ≤ delay) = false := by
  cases deadline with
  | none => rfl
  | some d => simpa using timely d rfl

namespace Session

/-- The reply that the next call received gets. -/
def nextReply (s : Session) : Reply := s.replies.headD .exhausted

section Calls

variable {s t : Session} {m : Method} {request : m.Request} {options : CallOptions}
  {answer : Except CallFault m.Response}

/-- **Everything a call can do**, with its answer and the session after it; the log is left open.
    The first two have no connection; the others have one, which was there or is made for them. -/
inductive Called (s : Session) (m : Method) (request : m.Request) (options : CallOptions) :
    Except CallFault m.Response → Session → Prop where
  | unconnected {status : Status} {c : Connection} {log : List Event}
      (denied : s.connection.Single options.timeout (.denied status) c) :
      Called s m request options (.error (.status status)) ⟨c, s.replies, s.received, log⟩
  | endless {c : Connection} {log : List Event}
      (never : s.connection.Single options.timeout .never c) :
      Called s m request options (.error .stalled) ⟨c, s.replies, s.received, log⟩
  | misconfigured {c : Connection} {log : List Event} {fault : OptionFault}
      (granted : s.connection.Single options.timeout .granted c)
      (invalid : options.metadata = .error fault) :
      Called s m request options (.error (.ofOptions fault)) ⟨c, s.replies, s.received, log⟩
  | unsent {c : Connection} {log : List Event} {metadata : Metadata}
      (granted : s.connection.Single options.timeout .granted c)
      (valid : options.metadata = .ok metadata) (instant : deadlineOf metadata = some 0) :
      Called s m request options (.error (.status .timeoutExpired))
        ⟨c, s.replies, s.received, log⟩
  | late {c : Connection} {log : List Event} {metadata : Metadata} {d : Nat}
      (granted : s.connection.Single options.timeout .granted c)
      (valid : options.metadata = .ok metadata) (limited : deadlineOf metadata = some d)
      (positive : 0 < d) (late : d ≤ s.nextReply.delay) :
      Called s m request options (.error (.status .timeoutExpired))
        ⟨c, s.replies.tail, s.received ++ [⟨m, request, delivered metadata⟩], log⟩
  | answered {c : Connection} {log : List Event} {metadata : Metadata}
      (granted : s.connection.Single options.timeout .granted c)
      (valid : options.metadata = .ok metadata)
      (timely : ∀ d, deadlineOf metadata = some d → s.nextReply.delay < d) :
      Called s m request options (s.nextReply.answer m)
        ⟨c, s.replies.tail, s.received ++ [⟨m, request, delivered metadata⟩], log⟩

/-- What an exchange gives that is sent. -/
def sent (s : Session) (m : Method) (request : m.Request) (metadata : Metadata) : Session :=
  { s with
    replies := s.replies.tail
    received := s.received ++ [⟨m, request, delivered metadata⟩] }

/-- An exchange that is answered in time. -/
theorem exchange_timely {metadata : Metadata}
    (timely : ∀ d, deadlineOf metadata = some d → s.nextReply.delay < d) :
    s.exchange m request metadata = (s.nextReply.answer m, s.sent m request metadata) := by
  have started : deadlineOf metadata ≠ some 0 := by
    intro instant
    exact Nat.not_lt_zero _ (timely 0 instant)
  have waits := waits_of_timely timely
  unfold nextReply at waits
  simp only [exchange, if_neg started, waits, Bool.false_eq_true, if_false]
  rfl

/-- An exchange whose answer is not there at the deadline. -/
theorem exchange_late {metadata : Metadata} {d : Nat} (limited : deadlineOf metadata = some d)
    (positive : 0 < d) (late : d ≤ s.nextReply.delay) :
    s.exchange m request metadata =
      (.error (.status .timeoutExpired), s.sent m request metadata) := by
  have started : d ≠ 0 := Nat.ne_of_gt positive
  unfold nextReply at late
  simp only [exchange, limited, Option.some.injEq, started, if_false, Option.any_some, late,
    decide_true, if_true]
  rfl

/-- An exchange over the connection of a call is one of the last three. -/
theorem exchange_called {c : Connection} {log : List Event} {metadata : Metadata}
    (granted : s.connection.Single options.timeout .granted c)
    (valid : options.metadata = .ok metadata) :
    let there : Session := ⟨c, s.replies, s.received, log⟩
    Called s m request options (there.exchange m request metadata).1
      (there.exchange m request metadata).2 := by
  intro there
  by_cases timely : ∀ d, deadlineOf metadata = some d → s.nextReply.delay < d
  · rw [exchange_timely (s := there) timely]
    exact .answered granted valid timely
  · obtain ⟨d, limited, late⟩ : ∃ d, deadlineOf metadata = some d ∧ d ≤ s.nextReply.delay := by
      simpa using timely
    by_cases instant : d = 0
    · subst instant
      simp only [exchange, limited, if_true]
      exact .unsent granted valid limited
    · have positive : 0 < d := Nat.pos_of_ne_zero instant
      rw [exchange_late (s := there) limited positive late]
      exact .late granted valid limited positive late

/-- **Every call is one of these.** -/
theorem call_called (s : Session) (m : Method) (request : m.Request) (options : CallOptions) :
    Called s m request options (s.call m request options).1 (s.call m request options).2 := by
  have single := Connection.channelWithin_single s.connection options.timeout
  unfold call
  rcases hc : s.connection.channelWithin options.timeout with ⟨access, events, c⟩
  rw [hc] at single
  cases access with
  | never => exact .endless single
  | denied status => exact .unconnected single
  | granted =>
    cases valid : options.metadata with
    | error fault => exact .misconfigured single valid
    | ok metadata => exact exchange_called single valid

/-- The log does not matter. -/
theorem Called.unlogged {before after : List Event}
    (h : Called { s with log := before } m request options answer t) :
    Called s m request options answer { t with log := after } := by
  cases h with
  | unconnected denied => exact .unconnected denied
  | endless never => exact .endless never
  | misconfigured granted invalid => exact .misconfigured granted invalid
  | unsent granted valid instant => exact .unsent granted valid instant
  | late granted valid limited positive late => exact .late granted valid limited positive late
  | answered granted valid timely => exact .answered granted valid timely

/-- **So is a call for a page.** -/
theorem list_called (l : Listing) (options : CallOptions) (request : PageRequest l.Scope)
    (s : Session) :
    ∃ answer, Called s l.method (l.ofPageRequest request) options answer
        (Session.list l options request s).2 ∧
      (Session.list l options request s).1 = answer.map l.toPage := by
  let asked := s.note (requestEvent request)
  have called := call_called asked l.method (l.ofPageRequest request) options
  exact ⟨_, called.unlogged, rfl⟩

/-! ## What a call may change -/

/-- **What a call may change of a session.** Its caller gets a connection or none. It is received
    once or not at all, with its request and with the metadata of its options, and uses up a reply
    if it is. -/
structure Forth (s : Session) (m : Method) (request : m.Request) (options : CallOptions)
    (t : Session) : Prop where
  single : ∃ access, s.connection.Single options.timeout access t.connection
  received : t.received = s.received ∧ t.replies = s.replies ∨
    ∃ metadata, options.metadata = .ok metadata ∧
      t.received = s.received ++ [⟨m, request, delivered metadata⟩] ∧ t.replies = s.replies.tail

theorem Called.forth (h : Called s m request options answer t) :
    Forth s m request options t := by
  cases h with
  | unconnected denied => exact ⟨⟨_, denied⟩, .inl ⟨rfl, rfl⟩⟩
  | endless never => exact ⟨⟨_, never⟩, .inl ⟨rfl, rfl⟩⟩
  | misconfigured granted => exact ⟨⟨_, granted⟩, .inl ⟨rfl, rfl⟩⟩
  | unsent granted => exact ⟨⟨_, granted⟩, .inl ⟨rfl, rfl⟩⟩
  | late granted valid => exact ⟨⟨_, granted⟩, .inr ⟨_, valid, rfl, rfl⟩⟩
  | answered granted valid => exact ⟨⟨_, granted⟩, .inr ⟨_, valid, rfl, rfl⟩⟩

end Calls

end Session

end ControlPlane
