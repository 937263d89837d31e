import ControlPlane.Proofs.Client.Called
import ControlPlane.Proofs.Connection.Handles
import ControlPlane.Proofs.Pager.Likeness

/-!
# A listing over a connection as a script of pages

Calls for pages that are granted a connection and have valid options get what a script would give:

* `Reply.page` -- what comes of a reply for a page, within the deadline that metadata state;
* `script`, `exhaustion` -- all replies as a script, and the failure behind its end;
* `exchange_page`, `list_granted` -- what a call for a page gives, and what it leaves of a session;
* `Mirrors`, `list_alike` -- **a session answers as its script does**, and it receives what the
  script is asked;
* `take_scripted` -- so a take over a session is a take from its script.
-/

namespace ControlPlane

/-! ## 1. Scripts -/

/-- What comes of a reply for a page, if it is waited for until a deadline at most. -/
def Reply.page (l : Listing) (deadline : Option Nat) (reply : Reply) :
    Except Status (Page l.Item) :=
  if deadline.any fun d => d ≤ reply.delay then .error .timeoutExpired
  else (reply.outcome l.method).map l.toPage

/-- **The replies of a server as a script of pages.** A call that has no time gets none of them. -/
def script (l : Listing) (deadline : Option Nat) (replies : List Reply) :
    List (Except Status (Page l.Item)) :=
  if deadline = some 0 then [] else replies.map (Reply.page l deadline)

/-- The failure behind the end of a script. -/
def exhaustion (deadline : Option Nat) : Status :=
  if deadline = some 0 then .timeoutExpired else scriptExhausted

/-- A request for a page as the server receives it. -/
def Listing.received (l : Listing) (metadata : Metadata) (request : PageRequest l.Scope) :
    Received :=
  ⟨l.method, l.ofPageRequest request, delivered metadata⟩

/-- What the server receives of some exchanges. A call that has no time is not sent. -/
def Listing.heard (l : Listing) (metadata : Metadata)
    (exchanges : List (Exchange l.Scope l.Item Status)) : List Received :=
  if Session.deadlineOf metadata = some 0 then []
  else exchanges.map fun e => l.received metadata e.request

/-- The take of a listing from a script, with a record of its exchanges. -/
def takeScripted (l : Listing) (deadline : Option Nat) (request : l.method.Request) (limit : Nat)
    (replies : List Reply) :
    Haul l.Item Status × Pager l.Scope l.Item Status ×
      Recorded l.Scope l.Item Status (List (Except Status (Page l.Item))) :=
  (Pager.new (l.toPageRequest request)).take (recorded (scripted (exhaustion deadline))) limit
    ⟨script l deadline replies, []⟩

section Scripts

variable {l : Listing}

theorem script_append (l : Listing) (deadline : Option Nat) (before after : List Reply) :
    script l deadline (before ++ after) = script l deadline before ++ script l deadline after := by
  by_cases instant : deadline = some 0
  · simp only [script, if_pos instant, List.append_nil]
  · simp only [script, if_neg instant, List.map_append]

@[simp] theorem Listing.heard_nil (l : Listing) (metadata : Metadata) :
    l.heard metadata [] = [] := by
  simp [heard]

/-- What is heard with one more exchange. -/
theorem Listing.heard_append (metadata : Metadata)
    (exchanges : List (Exchange l.Scope l.Item Status)) (e : Exchange l.Scope l.Item Status) :
    l.heard metadata (exchanges ++ [e]) =
      if Session.deadlineOf metadata = some 0 then l.heard metadata exchanges
      else l.heard metadata exchanges ++ [l.received metadata e.request] := by
  by_cases instant : Session.deadlineOf metadata = some 0
  · simp only [heard, if_pos instant]
  · simp only [heard, if_neg instant, List.map_append, List.map_cons, List.map_nil]

/-- Behind its end a server gives the failure of a script that is used up. -/
theorem page_exhausted {deadline : Option Nat} (timed : deadline ≠ some 0) :
    Reply.exhausted.page l deadline = .error (exhaustion deadline) := by
  have timely : ∀ d, deadline = some d → Reply.exhausted.delay < d := by
    intro d limited
    exact Nat.pos_of_ne_zero fun zero => timed (limited.trans (congrArg some zero))
  rw [Reply.page, waits_of_timely timely, exhaustion, if_neg timed]
  rfl

/-- **A script gives what comes of the next reply.** -/
theorem scripted_answer (deadline : Option Nat) (request : PageRequest l.Scope)
    (replies : List Reply) :
    (scripted (exhaustion deadline) request (script l deadline replies)).1 =
      (replies.headD .exhausted).page l deadline := by
  by_cases instant : deadline = some 0
  · subst instant
    rfl
  · rw [script, if_neg instant]
    cases replies with
    | nil => exact (page_exhausted instant).symm
    | cons reply rest => rfl

/-- It goes on with the replies behind it. -/
theorem scripted_rest (deadline : Option Nat) (request : PageRequest l.Scope)
    (replies : List Reply) :
    (scripted (exhaustion deadline) request (script l deadline replies)).2 =
      script l deadline replies.tail := by
  by_cases instant : deadline = some 0
  · subst instant
    rfl
  · rw [script, script, if_neg instant, if_neg instant]
    cases replies with
    | nil => rfl
    | cons reply rest => rfl

end Scripts

namespace Session

variable {l : Listing} {options : CallOptions} {metadata : Metadata} {s : Session}

/-! ## 2. Calls -/

/-- **An exchange for a page gives what comes of the next reply**, and uses it up, unless it has no
    time. -/
theorem exchange_page (s : Session) (request : l.method.Request) (metadata : Metadata) :
    (s.exchange l.method request metadata).1.map l.toPage =
        (s.nextReply.page l (deadlineOf metadata)).mapError .status ∧
      (s.exchange l.method request metadata).2 =
        if deadlineOf metadata = some 0 then s else s.sent l.method request metadata := by
  by_cases timely : ∀ d, deadlineOf metadata = some d → s.nextReply.delay < d
  · have timed : deadlineOf metadata ≠ some 0 := fun instant => absurd (timely 0 instant) (by omega)
    rw [exchange_timely timely, Reply.page, waits_of_timely timely, Reply.answer, if_neg timed]
    refine ⟨?_, rfl⟩
    cases s.nextReply.outcome l.method with
    | ok response => rfl
    | error status => rfl
  · obtain ⟨d, limited, late⟩ : ∃ d, deadlineOf metadata = some d ∧ d ≤ s.nextReply.delay := by
      simpa using timely
    have expired : s.nextReply.page l (some d) = .error .timeoutExpired := by
      simp [Reply.page, late]
    rw [limited, expired]
    by_cases instant : d = 0
    · subst instant
      rw [exchange, if_pos limited, if_pos rfl]
      exact ⟨rfl, rfl⟩
    · rw [exchange_late limited (Nat.pos_of_ne_zero instant) late,
        if_neg fun zero => instant (Option.some.inj zero)]
      exact ⟨rfl, rfl⟩

/-- A call that is granted a connection and has valid options is an exchange over it. -/
theorem call_granted {m : Method} (request : m.Request)
    (granted : (s.connection.channelWithin options.timeout).1 = .granted)
    (valid : options.metadata = .ok metadata) :
    ∃ t : Session, t.connection.connected = true ∧ t.replies = s.replies ∧
      t.received = s.received ∧ s.call m request options = t.exchange m request metadata := by
  have single := Connection.channelWithin_single s.connection options.timeout
  unfold call
  rcases hc : s.connection.channelWithin options.timeout with ⟨access, events, c⟩
  rw [hc] at granted single
  cases granted
  refine ⟨⟨c, s.replies, s.received, s.log ++ events⟩, single.made, rfl, rfl, ?_⟩
  simp only [valid]

/-- **Such a call for a page** gives what comes of the next reply, and uses it up, unless it has no
    time. -/
theorem list_granted (request : PageRequest l.Scope)
    (granted : (s.connection.channelWithin options.timeout).1 = .granted)
    (valid : options.metadata = .ok metadata) :
    let t := (Session.list l options request s).2
    (Session.list l options request s).1 =
        (s.nextReply.page l (deadlineOf metadata)).mapError .status ∧
      t.connection.connected = true ∧
      t.replies = (if deadlineOf metadata = some 0 then s.replies else s.replies.tail) ∧
      t.received = if deadlineOf metadata = some 0 then s.received
        else s.received ++ [l.received metadata request] := by
  obtain ⟨there, made, replies, received, called⟩ :=
    call_granted (s := s.note (requestEvent request)) (l.ofPageRequest request) granted valid
  obtain ⟨page, after⟩ := exchange_page there (l.ofPageRequest request) metadata
  have next : there.nextReply = s.nextReply := congrArg (·.headD .exhausted) replies
  simp only [Session.list, called, after]
  refine ⟨next ▸ page, ?_, ?_, ?_⟩
  · split
    · exact made
    · exact made
  · split
    · exact replies
    · exact congrArg List.tail replies
  · split
    · exact received
    · exact congrArg (· ++ [l.received metadata request]) received

/-! ## 3. Sessions -/

/-- **A session and its script, with what it was asked so far.** -/
structure Mirrors (l : Listing) (options : CallOptions) (metadata : Metadata)
    (r : Recorded l.Scope l.Item Status (List (Except Status (Page l.Item)))) (s : Session) :
    Prop where
  granted : (s.connection.channelWithin options.timeout).1 = .granted
  server : r.server = script l (deadlineOf metadata) s.replies
  received : s.received = l.heard metadata r.exchanges

/-- **A call for a page gives what the script gives, and keeps this.** -/
theorem Mirrors.list {r : Recorded l.Scope l.Item Status (List (Except Status (Page l.Item)))}
    (h : Mirrors l options metadata r s) (valid : options.metadata = .ok metadata)
    (request : PageRequest l.Scope) :
    let served := recorded (scripted (exhaustion (deadlineOf metadata))) request r
    (Session.list l options request s).1 = served.1.mapError .status ∧
      Mirrors l options metadata served.2 (Session.list l options request s).2 := by
  intro served
  obtain ⟨answer, made, replies, received⟩ := list_granted request h.granted valid
  have first := scripted_answer (deadlineOf metadata) request s.replies
  have rest := scripted_rest (deadlineOf metadata) request s.replies
  rw [← h.server] at first rest
  refine ⟨?_, (Connection.granted_of_connected made options.timeout).1, ?_, ?_⟩
  · rw [answer]
    exact congrArg (Except.mapError CallFault.status) first.symm
  · refine Eq.trans rest ?_
    rw [replies, script, script]
    split
    · rfl
    · rfl
  · have record : served.2.exchanges = r.exchanges ++ [⟨request, served.1⟩] := rfl
    rw [received, h.received, record, Listing.heard_append]

/-- **A session answers as its script does.** -/
theorem list_alike (valid : options.metadata = .ok metadata) :
    Alike .status (Mirrors l options metadata)
      (recorded (scripted (exhaustion (deadlineOf metadata)))) (Session.list l options) where
  answer request _ _ mirrors := (mirrors.list valid request).1
  next request _ _ mirrors := (mirrors.list valid request).2

/-- **A take over a session that nothing was asked of is a take from its script**, and the server
    receives what the script is asked. -/
theorem take_scripted (valid : options.metadata = .ok metadata)
    (granted : (s.connection.channelWithin options.timeout).1 = .granted)
    (unasked : s.received = []) (request : l.method.Request) (limit : Nat) :
    let taken := takeScripted l (deadlineOf metadata) request limit s.replies
    ((Session.iterate l request).take (Session.list l options) limit s).1 =
        taken.1.mapFailure .status ∧
      ((Session.iterate l request).take (Session.list l options) limit s).2.2.received =
        l.heard metadata taken.2.2.exchanges := by
  intro taken
  have mirrors : Mirrors l options metadata ⟨script l (deadlineOf metadata) s.replies, []⟩ s :=
    ⟨granted, rfl, by rw [unasked, Listing.heard_nil]⟩
  obtain ⟨haul, after⟩ :=
    (list_alike valid).take limit (Pager.new (l.toPageRequest request)) mirrors
  exact ⟨haul, after.received⟩

end Session

end ControlPlane
