import ControlPlane.Proofs.Client.Called
import ControlPlane.Proofs.Client.Transport
import ControlPlane.Proofs.Wire.RoundTrip

/-!
# How calls end

Calls are made one after another over one shared connection, to either service.

* `Call`, `Call.perform`, `Session.perform` -- a call, and calls in a row;
* `Call.ArrivesAs` -- a call as the server receives it;
* `Call.Unconnected`, `Call.Misconfigured`, `Call.Expired`, `Call.Answered` -- the ways in which a
  call may end, each with all that is seen of it;
* `ends_of_called`, `Ends.unique` -- **a call that ends does so in one of these ways, and in no
  other**;
* `Session.After`, `After.call`, `After.perform` -- what holds after some calls, by one call and by
  all of them: the dials and the replies were used up from the front, and what the server received
  are some of the calls, in their order;
* `every_call_ends` -- all of it for every run.

The ways are told by what a caller sets and sees: the timeout and the headers of the options, the
codes and the words of a status.
-/

namespace ControlPlane

open Session (Called)

/-! ## 1. Calls in a row -/

/-- A call: its method, what it asks, and its options. -/
structure Call where
  method : Method
  request : method.Request
  options : CallOptions

/-- Makes a call. -/
def Call.perform (c : Call) (s : Session) : Except CallFault c.method.Response × Session :=
  s.call c.method c.request c.options

/-- Makes one call after another. -/
def Session.perform (s : Session) (calls : List Call) : Session :=
  calls.foldl (fun s c => (c.perform s).2) s

/-- **A call as the server receives it**: its method, its request, and the metadata of its options,
    which are valid then, less what stays behind. -/
def Call.ArrivesAs (c : Call) (r : Received) : Prop :=
  ∃ metadata sent, c.options.metadata = .ok metadata ∧ Delivers metadata sent ∧
    r = ⟨c.method, c.request, sent⟩

namespace Call

/-! ## 2. The ways in which a call may end -/

/-- The server received some calls meanwhile, and used up as many replies. -/
def Sends (s t : Session) (calls : List Received) : Prop :=
  t.received = s.received ++ calls ∧ t.replies = s.replies.drop calls.length

section Ways

variable (c : Call) (s : Session) (answer : Except CallFault c.method.Response) (t : Session)

/-- A call that never ends: there is no connection, the next dial never ends, and the call has no
    deadline. -/
def Endless : Prop :=
  s.connection.connected = false ∧ c.options.timeout = none ∧
    s.connection.dialler.next.1.outcome = .hangs

/-- The next dial takes no longer than the timeout of the call, if it has one. Timers count
    milliseconds, and a part of one in full. -/
def DialsInTime : Prop :=
  ∀ d, c.options.timeout = some d →
    s.connection.dialler.next.1.delay * 1000000 < d.nanos + 1000000

/-- **There is no connection to be had**: the next dial fails in time, or it outlasts the timeout of
    the call. Nothing is sent. -/
structure Unconnected : Prop where
  unmade : s.connection.connected = false
  begun : t.connection = s.connection.begun
  answer :
    (∃ reason, s.connection.dialler.next.1.outcome = .fails reason ∧ c.DialsInTime s ∧
      answer = .error (.status ⟨.unavailable, "Failed to connect: '" ++ reason ++ "'", none⟩)) ∨
    ∃ d, c.options.timeout = some d ∧
      (s.connection.dialler.next.1.outcome = .hangs ∨
        d.nanos + 1000000 ≤ s.connection.dialler.next.1.delay * 1000000) ∧
      answer = .error
        (.status ⟨.deadlineExceeded, "Failed to connect within " ++ d.text, none⟩)
  silent : Sends s t []

/-- There is a connection: it was there, or the next dial makes it in time. -/
structure Connected : Prop where
  made : t.connection.connected = true
  dialled : s.connection.connected = true ∨
    s.connection.dialler.next.1.outcome = .connects ∧ c.DialsInTime s

/-- **There is a connection, and the options are not valid.** Nothing is sent. -/
structure Misconfigured : Prop where
  connected : c.Connected s t
  answer : ∃ fault, c.options.metadata = .error fault ∧
    answer = .error (.status ⟨.invalidArgument, fault.message, none⟩)
  silent : Sends s t []

/-- **The answer does not come before the deadline.** The call is sent once, or not at all if it has
    no time. -/
structure Expired : Prop where
  connected : c.Connected s t
  valid : ∃ metadata, c.options.metadata = .ok metadata
  answer : ∃ source, answer = .error (.status ⟨.cancelled, "Timeout expired", source⟩)
  late : ∃ w, c.options.Allows w ∧
    (w.nanos = 0 ∧ Sends s t [] ∨
      0 < w.nanos ∧ w.nanos ≤ s.nextReply.delay * 1000000 ∧ ∃ r, c.ArrivesAs r ∧ Sends s t [r])

/-- **The call is sent once and answered in time**, with the next reply of the server: a response of
    up to 4 MiB as it is, a failure as it is unless it has the code of success. -/
structure Answered : Prop where
  connected : c.Connected s t
  timely : ∀ w, c.options.Allows w → s.nextReply.delay * 1000000 < w.nanos
  sent : ∃ r, c.ArrivesAs r ∧ Sends s t [r]
  response : ∀ response, s.nextReply.body c.method = .ok response →
    Message.encodedLength response ≤ 4194304 → answer = .ok response
  tooLong : ∀ response, s.nextReply.body c.method = .ok response →
    4194304 < Message.encodedLength response → answer = .error (.status ⟨.outOfRange,
      "Error, decoded message length too large: found " ++
        String.ofList (Text.decimal (Message.encodedLength response)) ++
        " bytes, the limit is: 4194304 bytes", none⟩)
  failure : ∀ status, s.nextReply.body c.method = .error status → status.code ≠ .ok →
    answer = .error (.status status)
  success : ∀ status, s.nextReply.body c.method = .error status → status.code = .ok →
    answer = .error (.status ⟨.internal, "Missing response message.", none⟩)

/-- The ways in which a call may end. -/
inductive Way where
  | unconnected
  | misconfigured
  | expired
  | answered

/-- A call ends in a way. -/
def Ends : Way → Prop
  | .unconnected => c.Unconnected s answer t
  | .misconfigured => c.Misconfigured s answer t
  | .expired => c.Expired s answer t
  | .answered => c.Answered s answer t

end Ways

section Ends

variable {c : Call} {s t : Session} {answer : Except CallFault c.method.Response}

/-- **The ways exclude each other.** -/
theorem Ends.unique {way other : Way} (h : c.Ends s answer t way) (k : c.Ends s answer t other) :
    other = way := by
  -- without a connection before nothing is connected after, and the others are
  have apart : c.Unconnected s answer t → c.Connected s t → False := by
    intro nowhere connected
    have made := connected.made
    rw [nowhere.begun] at made
    cases made
  have invalid : c.Misconfigured s answer t → (∃ metadata, c.options.metadata = .ok metadata) →
      False := by
    intro bad good
    obtain ⟨metadata, valid⟩ := good
    obtain ⟨fault, wrong, _⟩ := bad.answer
    rw [valid] at wrong
    cases wrong
  have late : c.Expired s answer t → c.Answered s answer t → False := by
    intro expired answered
    obtain ⟨w, allowed, none | ⟨_, passed, _⟩⟩ := expired.late
    · have less := answered.timely w allowed
      omega
    · exact absurd passed (Nat.not_le.mpr (answered.timely w allowed))
  have sent : c.Answered s answer t → ∃ metadata, c.options.metadata = .ok metadata := by
    intro answered
    obtain ⟨_, ⟨metadata, _, valid, _⟩, _⟩ := answered.sent
    exact ⟨metadata, valid⟩
  cases way with
  | unconnected =>
    cases other with
    | unconnected => rfl
    | misconfigured => exact (apart h k.connected).elim
    | expired => exact (apart h k.connected).elim
    | answered => exact (apart h k.connected).elim
  | misconfigured =>
    cases other with
    | unconnected => exact (apart k h.connected).elim
    | misconfigured => rfl
    | expired => exact (invalid h k.valid).elim
    | answered => exact (invalid h (sent k)).elim
  | expired =>
    cases other with
    | unconnected => exact (apart k h.connected).elim
    | misconfigured => exact (invalid k h.valid).elim
    | expired => rfl
    | answered => exact (late h k).elim
  | answered =>
    cases other with
    | unconnected => exact (apart k h.connected).elim
    | misconfigured => exact (invalid k (sent h)).elim
    | expired => exact (late k h).elim
    | answered => rfl

/-- A dial outlasts a deadline if it never ends, or ends behind it. -/
theorem outlasts_iff {dial : Dial} {d : Duration} :
    NotBefore (d.ticks + 1) (dial.endsAt 0) ↔
      dial.outcome = .hangs ∨ d.nanos + 1000000 ≤ dial.delay * 1000000 := by
  have behind : d.ticks + 1 ≤ dial.delay ↔ d.nanos + 1000000 ≤ dial.delay * 1000000 := by
    rw [Nat.succ_le_iff, ← Nat.not_le, Duration.le_ticks_iff, Nat.not_lt]
  by_cases hangs : dial.outcome = .hangs
  · refine ⟨fun _ => .inl hangs, fun _ stop ends => ?_⟩
    rw [Dial.endsAt, hangs] at ends
    cases ends
  · have ends : dial.endsAt 0 = some dial.delay := by
      unfold Dial.endsAt
      split
      · contradiction
      · exact congrArg some (Nat.zero_add _)
      · exact congrArg some (Nat.zero_add _)
    rw [ends]
    constructor
    · exact fun late => .inr (behind.mp (late _ rfl))
    · intro outlasts stop same
      cases same
      exact behind.mpr (outlasts.resolve_left hangs)

theorem sends_none {connection : Connection} {log : List Event} :
    Sends s ⟨connection, s.replies, s.received, log⟩ [] := ⟨(List.append_nil _).symm, rfl⟩

/-- A call that is given up without a connection has ended so. -/
theorem unconnected_of_denied {status : Status} {connection : Connection} {log : List Event}
    (denied : s.connection.Single c.options.timeout (.denied status) connection) :
    c.Unconnected s (.error (.status status)) ⟨connection, s.replies, s.received, log⟩ := by
  cases denied with
  | refused unmade fails timely =>
    have early : c.DialsInTime s := fun d limited => Duration.le_ticks_iff.mp (timely d limited)
    exact ⟨unmade, rfl, .inl ⟨_, fails, early, rfl⟩, sends_none⟩
  | abandoned unmade limited late =>
    exact ⟨unmade, rfl, .inr ⟨_, limited, outlasts_iff.mp late, rfl⟩, sends_none⟩

/-- Who is granted a connection has one. -/
theorem connected_of_granted {connection : Connection} {replies : List Reply}
    {received : List Received} {log : List Event}
    (granted : s.connection.Single c.options.timeout .granted connection) :
    c.Connected s ⟨connection, replies, received, log⟩ where
  made := granted.made
  dialled := by
    cases granted with
    | shared made => exact .inl made
    | connected _ succeeds timely =>
      exact .inr ⟨succeeds, fun d limited => Duration.le_ticks_iff.mp (timely d limited)⟩

/-- A call whose options are valid is sent as it arrives. -/
theorem sends_one {connection : Connection} {log : List Event} {metadata : Metadata}
    (valid : c.options.metadata = .ok metadata) :
    ∃ r, c.ArrivesAs r ∧ Sends s ⟨connection, s.replies.tail,
      s.received ++ [⟨c.method, c.request, delivered metadata⟩], log⟩ [r] :=
  ⟨_, ⟨metadata, _, valid, delivers_delivered metadata, rfl⟩, rfl, List.drop_one.symm⟩

/-- **A call that is answered in time has ended so**, whatever the reply is. -/
theorem answered_of_timely {connection : Connection} {log : List Event} {metadata : Metadata}
    (granted : s.connection.Single c.options.timeout .granted connection)
    (valid : c.options.metadata = .ok metadata)
    (timely : ∀ d, Session.deadlineOf metadata = some d → s.nextReply.delay < d) :
    c.Answered s (s.nextReply.answer c.method) ⟨connection, s.replies.tail,
      s.received ++ [⟨c.method, c.request, delivered metadata⟩], log⟩ where
  connected := connected_of_granted granted
  timely := (Session.timely_iff valid).mp timely
  sent := sends_one valid
  response response body short := Reply.answer_eq_ok.mpr ⟨body, short⟩
  tooLong response body long := by
    rw [Reply.answer, Reply.outcome_of_long body long]
    exact congrArg (fun text => Except.error (CallFault.status ⟨.outOfRange, text, none⟩))
      (by rw [String.append_assoc, String.append_assoc]; rfl)
  failure status body bad := by
    rw [Reply.answer, Reply.outcome_of_failure body, arrived, if_neg bad]
    rfl
  success status body good := by
    rw [Reply.answer, Reply.outcome_of_failure body, arrived, if_pos good]
    rfl

/-- A response that comes is short enough to be written. -/
theorem short_of_called {response : c.method.Response}
    (h : Called s c.method c.request c.options answer t) (given : answer = .ok response) :
    (Message.encode response).length < 2 ^ 64 := by
  cases h with
  | unconnected => cases given
  | endless => cases given
  | misconfigured => cases given
  | unsent => cases given
  | late => cases given
  | answered => exact writable_of_short (Reply.answer_eq_ok.mp given).2

/-- **A call never ends, or it ends in one of the ways.** -/
theorem ends_of_called (h : Called s c.method c.request c.options answer t)
    (sound : c.options.metadata ≠ .error .deadlineTooLong) :
    c.Endless s ∧ answer = .error .stalled ∧ Sends s t [] ∨
      ¬ c.Endless s ∧ ∃ way, c.Ends s answer t way := by
  -- who gets an answer about a connection does not wait for one for ever
  have finite : ∀ {access connection}, s.connection.Single c.options.timeout access connection →
      access ≠ .never → ¬ c.Endless s := by
    intro access connection single ends ⟨unmade, unlimited, hangs⟩
    exact ends (single.never unmade unlimited hangs)
  have granted_ends : Access.granted ≠ .never := Access.noConfusion
  cases h with
  | unconnected denied =>
    exact .inr ⟨finite denied Access.noConfusion, .unconnected, unconnected_of_denied denied⟩
  | endless never =>
    left
    cases never with
    | endless unmade unlimited hangs => exact ⟨⟨unmade, unlimited, hangs⟩, rfl, sends_none⟩
  | @misconfigured _ _ fault granted invalid =>
    have status : fault ≠ .deadlineTooLong := by
      intro long
      exact sound (long ▸ invalid)
    refine .inr ⟨finite granted granted_ends, .misconfigured, connected_of_granted granted, ?_,
      sends_none⟩
    exact ⟨fault, invalid, congrArg Except.error (CallFault.ofOptions_eq status)⟩
  | unsent granted valid instant =>
    refine .inr ⟨finite granted granted_ends, .expired, connected_of_granted granted, ⟨_, valid⟩,
      ⟨_, rfl⟩, ?_⟩
    obtain ⟨w, allowed, none⟩ := (Session.deadlineOf_eq_some_iff valid).mp instant
    have zero : w.nanos ≤ 0 * 1000000 := Duration.ticks_le_iff.mp (Nat.le_of_eq none)
    exact ⟨w, allowed, .inl ⟨by omega, sends_none⟩⟩
  | late granted valid limited positive late =>
    refine .inr ⟨finite granted granted_ends, .expired, connected_of_granted granted, ⟨_, valid⟩,
      ⟨_, rfl⟩, ?_⟩
    obtain ⟨w, allowed, rfl⟩ := (Session.deadlineOf_eq_some_iff valid).mp limited
    have some : ¬ w.nanos ≤ 0 * 1000000 := fun none =>
      Nat.not_le.mpr positive (Duration.ticks_le_iff.mpr none)
    exact ⟨w, allowed, .inr ⟨by omega, Duration.ticks_le_iff.mp late, sends_one valid⟩⟩
  | answered granted valid timely =>
    exact .inr ⟨finite granted granted_ends, .answered, answered_of_timely granted valid timely⟩

end Ends

end Call

/-! ## 3. Runs -/

/-- **A session after some calls**: dials and replies are used up from the front, one reply for each
    call that the server received, and these are some of the calls, in their order. -/
structure Session.After (dialler : Dialler) (script : List Reply) (calls : List Call)
    (s : Session) : Prop where
  dialler : s.connection.dialler = dialler.later s.connection.dials
  replies : s.replies = script.drop s.received.length
  received : ∃ chosen, List.Sublist chosen calls ∧
    List.Forall₂ Call.ArrivesAs chosen s.received

section Runs

variable {dialler : Dialler} {script : List Reply} {calls : List Call} {s t : Session}

theorem after_new (dialler : Dialler) (script : List Reply) :
    (Session.new dialler script).After dialler script [] :=
  ⟨rfl, rfl, [], List.Sublist.refl [], .nil⟩

/-- **One more call.** -/
theorem Session.After.call {c : Call} {answer : Except CallFault c.method.Response}
    (h : s.After dialler script calls) (called : Called s c.method c.request c.options answer t) :
    t.After dialler script (calls ++ [c]) := by
  obtain ⟨⟨access, single⟩, received⟩ := called.forth
  obtain ⟨chosen, sub, same⟩ := h.received
  refine ⟨single.dialler h.dialler, ?_, ?_⟩
  · rcases received with ⟨none, left⟩ | ⟨metadata, _, one, left⟩
    · rw [none, left]
      exact h.replies
    · rw [one, left, h.replies, List.tail_drop, List.length_append]
      rfl
  · rcases received with ⟨none, _⟩ | ⟨metadata, valid, one, _⟩
    · exact ⟨chosen, sub.trans (List.sublist_append_left calls [c]), none ▸ same⟩
    · refine ⟨chosen ++ [c], sub.append (List.Sublist.refl [c]), ?_⟩
      rw [one]
      have mine : c.ArrivesAs ⟨c.method, c.request, delivered metadata⟩ :=
        ⟨metadata, _, valid, delivers_delivered metadata, rfl⟩
      exact List.rel_append same (.cons mine .nil)

/-- **So it is after many.** -/
theorem Session.After.perform (h : s.After dialler script calls) (more : List Call) :
    (s.perform more).After dialler script (calls ++ more) := by
  induction more generalizing s calls with
  | nil =>
    rw [List.append_nil]
    exact h
  | cons c rest ih =>
    have next := ih (h.call (Session.call_called s c.method c.request c.options))
    rw [List.append_assoc] at next
    exact next

/-- The next reply is that of the script behind as many as there were calls received. -/
theorem Session.After.nextReply_eq (h : s.After dialler script calls) :
    s.nextReply = script.getD s.received.length .exhausted := by
  rw [Session.nextReply, h.replies, List.headD_eq_head?_getD, List.head?_drop,
    List.getD_eq_getElem?_getD]

end Runs

/-- **How calls end.** Calls are made one after another, to either service, over one connection that
    is not made yet; their options have no deadline that is too long. Wherever a call stands among
    them: the replies used up before it are the first of the script, one for each call that the
    server received, and these are some of the calls before it.

    The call ends in one of the four ways, and in no other: without a connection, with options that
    are not valid, behind its deadline, or answered in time by the next reply. Only one that has no
    connection, no deadline, and a dial that never ends, does not end at all. A connection that was
    there stays. The requests that the server has received, and a response that comes, are what
    their octets are read as. -/
theorem every_call_ends (dialler : Dialler) (script : List Reply) (calls : List Call)
    (sound : ∀ c ∈ calls, c.options.metadata ≠ .error .deadlineTooLong) :
    ∀ earlier c later, calls = earlier ++ c :: later →
      let s := (Session.new dialler script).perform earlier
      let answer := (c.perform s).1
      let t := (c.perform s).2
      s.After dialler script earlier ∧
      s.nextReply = script.getD s.received.length .exhausted ∧
      (c.Endless s ∧ answer = .error .stalled ∧ Call.Sends s t [] ∨
        ¬ c.Endless s ∧ ∃! way, c.Ends s answer t way) ∧
      (s.connection.connected = true → t.connection = s.connection) ∧
      (∀ r ∈ t.received, (Message.encode r.request).length < 2 ^ 64 →
        Message.decode r.method.Request (Message.encode r.request) = .ok r.request) ∧
      ∀ response, answer = .ok response →
        Message.decode c.method.Response (Message.encode response) = .ok response := by
  intro earlier c later split s answer t
  have after : s.After dialler script earlier := (after_new dialler script).perform earlier
  have called := Session.call_called s c.method c.request c.options
  have mine : c.options.metadata ≠ .error .deadlineTooLong :=
    sound c (split ▸ List.mem_append_right earlier List.mem_cons_self)
  refine ⟨after, after.nextReply_eq, ?_, ?_, ?_, ?_⟩
  · rcases Call.ends_of_called called mine with endless | ⟨finite, way, ends⟩
    · exact .inl endless
    · exact .inr ⟨finite, way, ends, fun other also => ends.unique also⟩
  · obtain ⟨access, single⟩ := called.forth.single
    exact single.kept
  · intro r _ short
    exact r.method.decode_request r.request short
  · intro response given
    exact c.method.decode_response response (Call.short_of_called called given)

/-- A call whose dial is refused, -/
def refusedCall : Call := ⟨.getInstance, (⟨"i"⟩ : GetInstanceRequest), ⟨[], none⟩⟩

/-- one with a header that is not valid, -/
def misnamedCall : Call :=
  ⟨.listDisks, (⟨"f", 0, "", ""⟩ : ListDisksRequest), ⟨[("bad key", "x")], none⟩⟩

/-- one whose answer takes longer than its timeout, -/
def hastyCall : Call :=
  ⟨.listInstances, (⟨"f", 0, "", ""⟩ : ListInstancesRequest), ⟨[], some ⟨50000000⟩⟩⟩

/-- and one that gets a disk. -/
def diskCall : Call := ⟨.getDisk, (⟨"d"⟩ : GetDiskRequest), ⟨[], none⟩⟩

/-- The session for them: the first dial fails, and the first reply takes 80 milliseconds. -/
def troubledSession : Session :=
  Session.new ⟨[⟨5, .fails "refused"⟩], Dialler.success⟩
    [⟨80, fun _ => .error scriptExhausted⟩,
      ⟨0, fun
        | .getDisk => .ok { id := "d" }
        | _ => .error scriptExhausted⟩]

/-- The four calls, one after another, with what each of them gives; the last one is answered. -/
theorem troubled_calls_end :
    (refusedCall.perform troubledSession).1 =
        .error (.status ⟨.unavailable, "Failed to connect: 'refused'", none⟩) ∧
      (misnamedCall.perform (troubledSession.perform [refusedCall])).1 =
        .error (.status ⟨.invalidArgument,
          "Invalid metadata (header) key 'bad key': 'invalid gRPC metadata key name'", none⟩) ∧
      (∃ source, (hastyCall.perform (troubledSession.perform [refusedCall, misnamedCall])).1 =
        .error (.status ⟨.cancelled, "Timeout expired", source⟩)) ∧
      let s := troubledSession.perform [refusedCall, misnamedCall, hastyCall]
      (diskCall.perform s).1 = .ok ({ id := "d" } : Disk) ∧ s.connection.dials = 2 ∧
        s.received.length = 1 ∧ diskCall.Answered s (diskCall.perform s).1 (diskCall.perform s).2 := by
  refine ⟨by rfl, by rfl, ⟨_, by rfl⟩, ?_⟩
  intro s
  have disk : (diskCall.perform s).1 = .ok ({ id := "d" } : Disk) := by rfl
  have made : s.connection.connected = true := by decide +kernel
  refine ⟨disk, by decide +kernel, by decide +kernel, ?_⟩
  have sound : ∀ c ∈ [refusedCall, misnamedCall, hastyCall, diskCall],
      c.options.metadata ≠ .error .deadlineTooLong := by
    decide +kernel
  obtain ⟨_, _, ⟨endless, _⟩ | ⟨_, way, ends, _⟩, _⟩ :=
    every_call_ends _ _ _ sound [refusedCall, misnamedCall, hastyCall] diskCall [] rfl
  · exact absurd (made.symm.trans endless.1) Bool.noConfusion
  · -- only an answered call gives an item
    cases way with
    | unconnected => exact absurd (made.symm.trans ends.unmade) Bool.noConfusion
    | misconfigured =>
      obtain ⟨_, _, answer⟩ := ends.answer
      exact absurd (disk.symm.trans answer) (by exact nofun)
    | expired =>
      obtain ⟨_, answer⟩ := ends.answer
      exact absurd (disk.symm.trans answer) (by exact nofun)
    | answered => exact ends

end ControlPlane
