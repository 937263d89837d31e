import ControlPlane.Proofs.Client.Session
import ControlPlane.Proofs.Client.Transport
import ControlPlane.Proofs.Pager.Conversation
import ControlPlane.Proofs.Pager.Tokens
import ControlPlane.Proofs.Wire.RoundTrip

/-!
# Every page is asked for by the same call

* `Listing.withPaging`, `ofPageRequest_eq` -- a request with another page size and another token,
  and nothing else changed: every request of a pager is one for its first request;
* `Listing.itemsIn`, `tokenIn`, `tokenOf` -- the items of a response, the token that it gives for
  the next page and the token of a request, each by the name of its own field;
* `Reply.Fails`, `Called.failed` -- a reply that gives no response, and that a call that was
  received and has failed got such a one;
* `Paged`, `conversation_paged` -- what a conversation with the server leaves of a session: the
  calls that were received, and the pages that came of the replies;
* `Resumes`, `Called.resumes` -- how a call goes on from a session: it dials, or it calls again;
* `FailedFetch` -- what a fetch that fails leaves behind it, for other calls and new iterators;
* `iterator_alike`, `every_fetch_alike` -- all of it for every iterator, and for its stream.
-/

namespace ControlPlane

/-! ## 1. Requests for pages -/

namespace Listing

/-- A request with another size of its page and another token. -/
def withPaging : (l : Listing) → l.method.Request → Int64 → String → l.method.Request
  | .instances, (r : ListInstancesRequest), size, token =>
    ({ r with pageSize := size, pageToken := token } : ListInstancesRequest)
  | .disks, (r : ListDisksRequest), size, token =>
    ({ r with pageSize := size, pageToken := token } : ListDisksRequest)
  | .operations, (r : ListOperationsRequest), size, token =>
    ({ r with pageSize := size, pageToken := token } : ListOperationsRequest)

/-- **A request for a page of the same is the same but for the size and the token.** -/
theorem ofPageRequest_eq (l : Listing) (request : l.method.Request) {r : PageRequest l.Scope}
    (same : r.scope = (l.toPageRequest request).scope) :
    l.ofPageRequest r = l.withPaging request r.pageSize r.pageToken := by
  obtain ⟨scope, size, token⟩ := r
  simp only at same
  subst same
  cases l with
  | instances => rfl
  | disks => rfl
  | operations => rfl

/-- **The items of a response.** -/
def itemsIn : (l : Listing) → l.method.Response → List l.Item
  | .instances, (r : ListInstancesResponse) => r.instances
  | .disks, (r : ListDisksResponse) => r.disks
  | .operations, (r : ListOperationsResponse) => r.operations

/-- They are those of its page. -/
theorem items_toPage (l : Listing) (response : l.method.Response) :
    (l.toPage response).items = l.itemsIn response := by
  cases l with
  | instances => rfl
  | disks => rfl
  | operations => rfl

/-- **The token that a response gives for the next page.** -/
def tokenIn : (l : Listing) → l.method.Response → String
  | .instances, (r : ListInstancesResponse) => r.nextPageToken
  | .disks, (r : ListDisksResponse) => r.nextPageToken
  | .operations, (r : ListOperationsResponse) => r.nextPageToken

/-- It is that of its page. -/
theorem next_toPage (l : Listing) (response : l.method.Response) :
    (l.toPage response).next = l.tokenIn response := by
  cases l with
  | instances => rfl
  | disks => rfl
  | operations => rfl

/-- **The token that a request asks with.** -/
def tokenOf : (l : Listing) → l.method.Request → String
  | .instances, (r : ListInstancesRequest) => r.pageToken
  | .disks, (r : ListDisksRequest) => r.pageToken
  | .operations, (r : ListOperationsRequest) => r.pageToken

theorem pageToken_toPageRequest (l : Listing) (request : l.method.Request) :
    (l.toPageRequest request).pageToken = l.tokenOf request := by
  cases l with
  | instances => rfl
  | disks => rfl
  | operations => rfl

end Listing

/-- An exchange for a page as the server receives it. -/
def Exchange.asReceived (l : Listing) (metadata : Metadata)
    (e : Exchange l.Scope l.Item CallFault) : Received :=
  ⟨l.method, l.ofPageRequest e.request, delivered metadata⟩

/-! ## 2. Replies that give no response -/

/-- **A reply that gives no response**: it is late for the options of the call, it is a failure, or
    it is longer than 4 MiB. -/
def Reply.Fails (reply : Reply) (m : Method) (o : CallOptions) : Prop :=
  (∃ w, o.Allows w ∧ w.nanos ≤ reply.delay * 1000000) ∨
    (∃ status, reply.body m = .error status) ∨
    ∃ response, reply.body m = .ok response ∧ 4194304 < Message.encodedLength response

namespace Session

/-- **A call that has failed** was not received, or got such a reply. -/
theorem Called.failed {s t : Session} {m : Method} {request : m.Request} {options : CallOptions}
    {answer : Except CallFault m.Response} (h : Called s m request options answer t)
    {e : CallFault} (bad : answer = .error e) :
    t.received = s.received ∧ t.replies = s.replies ∨
      s.nextReply.Fails m options ∧ ∃ metadata, options.metadata = .ok metadata ∧
        t.received = s.received ++ [⟨m, request, delivered metadata⟩] ∧
        t.replies = s.replies.tail := by
  cases h with
  | unconnected => exact .inl ⟨rfl, rfl⟩
  | endless => exact .inl ⟨rfl, rfl⟩
  | misconfigured => exact .inl ⟨rfl, rfl⟩
  | unsent => exact .inl ⟨rfl, rfl⟩
  | late _ valid limited _ late =>
    exact .inr ⟨.inl ((late_iff valid).mp ⟨_, limited, late⟩), _, valid, rfl, rfl⟩
  | answered _ valid =>
    refine .inr ⟨.inr ?_, _, valid, rfl, rfl⟩
    cases body : s.nextReply.body m with
    | error status => exact .inl ⟨status, rfl⟩
    | ok response =>
      refine .inr ⟨response, rfl, Nat.lt_of_not_le fun short => ?_⟩
      rw [Reply.answer_eq_ok.mpr ⟨body, short⟩] at bad
      cases bad

/-! ## 3. Conversations -/

/-- **What a conversation for pages leaves of a session.** The server has received all that was
    asked, perhaps without the last; it used up a reply for each, and the pages came of the first of
    these, one for each that was answered. The reply behind them gave none, if it was used up. -/
structure Paged (l : Listing) (options : CallOptions) (metadata : Metadata) (s : Session)
    (es sent : List (Exchange l.Scope l.Item CallFault))
    (responses : List l.method.Response) (t : Session) : Prop where
  asked : sent <+: es
  received : t.received = s.received ++ sent.map (Exchange.asReceived l metadata)
  replies : t.replies = s.replies.drop sent.length
  bodies : (s.replies.take responses.length).map (fun reply => reply.body l.method) =
    responses.map .ok
  short : ∀ response ∈ responses, Message.encodedLength response ≤ maxAnswer
  answers : (es.take responses.length).map Exchange.answer =
    responses.map fun response => .ok (l.toPage response)
  pages : fetched es = responses.flatMap fun response => (l.toPage response).items
  fewer : responses.length ≤ sent.length
  last : es.length ≤ responses.length + 1
  failed : responses.length < sent.length →
    (s.replies.getD responses.length .exhausted).Fails l.method options

section Pages

variable {l : Listing} {options : CallOptions} {metadata : Metadata} {s t u : Session}
  {es : List (Exchange l.Scope l.Item CallFault)}

/-- A page that comes used up a reply, and was asked for with the metadata of the options. -/
theorem list_answered (valid : options.metadata = .ok metadata) {request : PageRequest l.Scope}
    {page : Page l.Item} (h : Session.list l options request s = (.ok page, t)) :
    ∃ reply response, s.replies = reply :: t.replies ∧ reply.answer l.method = .ok response ∧
      page = l.toPage response ∧
      t.received = s.received ++ [⟨l.method, l.ofPageRequest request, delivered metadata⟩] := by
  obtain ⟨reply, response, replies, given, same, count⟩ := list_ok h
  obtain ⟨_, called, _⟩ := list_called l options request s
  rw [h] at called
  refine ⟨reply, response, replies, given, same, ?_⟩
  rcases called.forth.received with ⟨none, _⟩ | ⟨metadata', valid', one, _⟩
  · rw [none] at count
    omega
  · rw [valid] at valid'
    cases valid'
    exact one

/-- A page that does not come is a call that fails. -/
theorem list_failed {request : PageRequest l.Scope} {e : CallFault}
    (h : Session.list l options request s = (.error e, t)) :
    Called s l.method (l.ofPageRequest request) options (.error e) t := by
  obtain ⟨answer, called, page⟩ := list_called l options request s
  rw [h] at called page
  cases answer with
  | ok response => cases page
  | error e' =>
    cases page
    exact called

theorem paged_nil (l : Listing) (options : CallOptions) (metadata : Metadata) (s : Session) :
    Paged l options metadata s [] [] [] s where
  asked := List.prefix_rfl
  received := (List.append_nil _).symm
  replies := rfl
  bodies := rfl
  short := nofun
  answers := rfl
  pages := rfl
  fewer := Nat.le_refl 0
  last := Nat.zero_le 1
  failed less := absurd less (Nat.lt_irrefl 0)

/-- One more page before others. -/
theorem Paged.cons {sent : List (Exchange l.Scope l.Item CallFault)}
    {responses : List l.method.Response} (h : Paged l options metadata t es sent responses u)
    (valid : options.metadata = .ok metadata) {request : PageRequest l.Scope} {page : Page l.Item}
    (answer : Session.list l options request s = (.ok page, t)) :
    ∃ response, Paged l options metadata s (⟨request, .ok page⟩ :: es)
      (⟨request, .ok page⟩ :: sent) (response :: responses) u := by
  obtain ⟨reply, response, replies, given, rfl, received⟩ := list_answered valid answer
  obtain ⟨body, short⟩ := Reply.answer_eq_ok.mp given
  refine ⟨response, List.prefix_cons_inj _ |>.mpr h.asked, ?_, ?_, ?_, ?_, ?_, ?_, ?_, ?_, ?_⟩
  · rw [h.received, received, List.map_cons, List.append_assoc]
    rfl
  · rw [h.replies, replies, List.length_cons, List.drop_succ_cons]
  · rw [replies, List.length_cons, List.take_succ_cons, List.map_cons, List.map_cons, body,
      h.bodies]
  · exact List.forall_mem_cons.mpr ⟨short, h.short⟩
  · rw [List.length_cons, List.take_succ_cons, List.map_cons, List.map_cons, h.answers]
  · rw [fetched_cons, List.flatMap_cons, h.pages]
    rfl
  · rw [List.length_cons, List.length_cons]
    exact Nat.succ_le_succ h.fewer
  · rw [List.length_cons, List.length_cons]
    exact Nat.succ_le_succ h.last
  · intro less
    rw [replies, List.length_cons, List.getD_cons_succ]
    exact h.failed (Nat.lt_of_succ_lt_succ less)

/-- A page that does not come. -/
theorem paged_failed (valid : options.metadata = .ok metadata) {request : PageRequest l.Scope}
    {e : CallFault} (answer : Session.list l options request s = (.error e, t)) :
    ∃ sent, Paged l options metadata s [⟨request, .error e⟩] sent [] t := by
  rcases (list_failed answer).failed rfl with ⟨none, left⟩ | ⟨fails, metadata', valid', one, left⟩
  · refine ⟨[], List.nil_prefix, ?_, left, rfl, nofun, rfl, rfl, Nat.le_refl 0, Nat.le_refl 1,
      fun less => absurd less (Nat.lt_irrefl 0)⟩
    rw [none, List.map_nil, List.append_nil]
  · rw [valid] at valid'
    cases valid'
    refine ⟨[⟨request, .error e⟩], List.prefix_rfl, one, left.trans List.drop_one.symm, rfl, nofun,
      rfl, rfl, Nat.zero_le 1, Nat.le_refl 1, fun _ => ?_⟩
    rw [List.length_nil, List.getD_eq_getElem?_getD, ← List.head?_eq_getElem?,
      ← List.headD_eq_head?_getD]
    exact fails

/-- **So it is for every conversation.** -/
theorem conversation_paged (valid : options.metadata = .ok metadata)
    (h : Conversation (Session.list l options) s es t) :
    ∃ sent responses, Paged l options metadata s es sent responses t := by
  induction h with
  | nil s => exact ⟨[], [], paged_nil l options metadata s⟩
  | answered answer _ ih =>
    obtain ⟨sent, responses, paged⟩ := ih
    obtain ⟨response, more⟩ := paged.cons valid answer
    exact ⟨_, _, more⟩
  | failed answer =>
    obtain ⟨sent, paged⟩ := paged_failed valid answer
    exact ⟨sent, [], paged⟩

end Pages

/-! ## 4. After a failure -/

/-- **How a call goes on from a session.** Without a connection it dials; a connection that is there
    it uses, and the server receives it if its options are valid, unless they allow it no time. -/
def Resumes (s : Session) (m : Method) (request : m.Request) (options : CallOptions)
    (t : Session) : Prop :=
  (s.connection.connected = false → t.connection.dials = s.connection.dials + 1) ∧
    (s.connection.connected = true → t.connection = s.connection ∧
      ∀ metadata, options.metadata = .ok metadata → (∀ w, options.Allows w → 0 < w.nanos) →
        ∃ sent, Delivers metadata sent ∧ t.received = s.received ++ [⟨m, request, sent⟩])

theorem Called.resumes {s t : Session} {m : Method} {request : m.Request} {options : CallOptions}
    {answer : Except CallFault m.Response} (h : Called s m request options answer t) :
    s.Resumes m request options t := by
  obtain ⟨access, single⟩ := h.forth.single
  refine ⟨single.dials, fun made => ⟨single.kept made, fun metadata valid timed => ?_⟩⟩
  -- with a connection nobody is denied it
  have granted {access : Access} {c : Connection}
      (other : s.connection.Single options.timeout access c) : access = .granted := by
    cases other with
    | shared => rfl
    | connected => rfl
    | refused unmade => rw [made] at unmade; cases unmade
    | abandoned unmade => rw [made] at unmade; cases unmade
    | endless unmade => rw [made] at unmade; cases unmade
  have same : ∀ {metadata'}, options.metadata = .ok metadata' → metadata' = metadata :=
    fun valid' => Except.ok.inj (valid'.symm.trans valid)
  cases h with
  | unconnected denied => cases granted denied
  | endless never => cases granted never
  | misconfigured _ invalid => rw [valid] at invalid; cases invalid
  | unsent _ valid' instant =>
    cases same valid'
    obtain ⟨w, allowed, none⟩ := (deadlineOf_eq_some_iff valid).mp instant
    have passed : w.nanos ≤ 0 * 1000000 := Duration.ticks_le_iff.mp (Nat.le_of_eq none)
    have some := timed w allowed
    omega
  | late _ valid' =>
    cases same valid'
    exact ⟨_, delivers_delivered metadata, rfl⟩
  | answered _ valid' =>
    cases same valid'
    exact ⟨_, delivers_delivered metadata, rfl⟩

/-- The first fetch of a new iterator is a call for its first request but for the size. -/
theorem iterate_resumes (s : Session) (k : Listing) (request : k.method.Request) (o : CallOptions)
    (want : Option Nat) :
    ∃ size token, s.Resumes k.method (k.withPaging request size token) o
      ((Session.iterate k request).step (Session.list k o) want s).2 := by
  have fetched : ((Session.iterate k request).step (Session.list k o) want s).2 =
      (Session.list k o ((Session.iterate k request).nextRequest want) s).2 := by
    rw [Pager.step_of_more (Session.list k o) want s rfl rfl rfl]
    rfl
  obtain ⟨answer, called, _⟩ :=
    list_called k o ((Session.iterate k request).nextRequest want) s
  have same : k.ofPageRequest ((Session.iterate k request).nextRequest want) =
      k.withPaging request _ _ := k.ofPageRequest_eq request rfl
  rw [same, ← fetched] at called
  exact ⟨_, _, called.resumes⟩

/-- **What a fetch that failed leaves behind it.** -/
structure FailedFetch (l : Listing) (options : CallOptions) (e : CallFault) (s : Session) :
    Prop where
  /-- The session is as the call left it that failed. -/
  left : ∃ u request, Called u l.method request options (.error e) s
  /-- Every other call goes on from there. -/
  calls : ∀ (m : Method) (request : m.Request) (o : CallOptions),
    s.Resumes m request o (s.call m request o).2
  /-- So does the first fetch of every new iterator. -/
  iterators : ∀ (k : Listing) (request : k.method.Request) (o : CallOptions) (want : Option Nat),
    ∃ size token, s.Resumes k.method (k.withPaging request size token) o
      ((Session.iterate k request).step (Session.list k o) want s).2

/-- **A fetch that fails leaves this behind it.** -/
theorem failedFetch {l : Listing} {options : CallOptions} {request : PageRequest l.Scope}
    {e : CallFault} {u s : Session} (h : Session.list l options request u = (.error e, s)) :
    FailedFetch l options e s where
  left := ⟨u, _, list_failed h⟩
  calls m request' o := (call_called s m request' o).resumes
  iterators := iterate_resumes s

end Session

/-! ## 5. Iterators -/

/-- **Whatever is done with an iterator, its calls are alike**, and what it gives and holds is what
    the server responded. -/
theorem iterator_alike {l : Listing} {request : l.method.Request} {options : CallOptions}
    {metadata : Metadata} (valid : options.metadata = .ok metadata) {s t : Session}
    {ms : List (Moment l.Scope l.Item CallFault)} {q : Pager l.Scope l.Item CallFault}
    (used : Walk (Session.list l options) (Session.iterate l request) s ms q t) :
    ∃ (sent : Metadata) (pagings : List (Int64 × String)) (responses : List l.method.Response),
      Delivers metadata sent ∧
      t.received = s.received ++ pagings.map (fun paging =>
        ⟨l.method, l.withPaging request paging.1 paging.2, sent⟩) ∧
      t.replies = s.replies.drop pagings.length ∧
      pagings.map Prod.snd <+: l.tokenOf request :: responses.map l.tokenIn ∧
      (s.replies.take responses.length).map (fun reply => reply.body l.method) =
        responses.map .ok ∧
      (∀ response ∈ responses, Message.encodedLength response ≤ 4194304) ∧
      deliveredIn ms ++ q.buffer = responses.flatMap l.itemsIn ∧
      responses.length ≤ pagings.length ∧ pagings.length ≤ responses.length + 1 ∧
      (responses.length < pagings.length →
        (s.replies.getD responses.length .exhausted).Fails l.method options) := by
  obtain ⟨sent, responses, paged⟩ := Session.conversation_paged valid used.conversation
  have count : (sent.map fun e => (e.request.pageSize, e.request.pageToken)).length =
      sent.length := List.length_map _
  refine ⟨_, sent.map fun e => (e.request.pageSize, e.request.pageToken), responses,
    delivers_delivered metadata, ?_, ?_, ?_, paged.bodies, paged.short, ?_, ?_, ?_, ?_⟩
  · rw [paged.received, List.map_map]
    refine congrArg _ (List.map_congr_left fun e he => ?_)
    have same := used.scope.2 e (paged.asked.subset he)
    rw [Exchange.asReceived, l.ofPageRequest_eq request same]
    rfl
  · rw [paged.replies, count]
  · have linked : Linked (some (l.toPageRequest request).pageToken) (askedIn ms) :=
      (used.placed (placed_new (l.toPageRequest request))).linked
    have answers : ((askedIn ms).take (responses.map l.toPage).length).map Exchange.answer =
        (responses.map l.toPage).map .ok := by
      rw [List.length_map, paged.answers, List.map_map]
      rfl
    have tokens := linked.tokens answers ((List.length_map l.toPage).symm ▸ paged.last)
    have next : (responses.map l.toPage).map Page.next = responses.map l.tokenIn := by
      rw [List.map_map]
      exact List.map_congr_left fun response _ => l.next_toPage response
    rw [next, l.pageToken_toPageRequest] at tokens
    rw [List.map_map]
    exact (paged.asked.map _).trans tokens
  · have items : responses.flatMap l.itemsIn =
        responses.flatMap fun response => (l.toPage response).items :=
      congrArg (responses.flatMap ·) (funext fun response => (l.items_toPage response).symm)
    rw [items, ← paged.pages]
    exact used.orderly.balance
  · rw [count]
    exact paged.fewer
  · rw [count]
    exact Nat.le_trans paged.asked.length_le paged.last
  · rw [count]
    exact paged.failed

/-- **Every fetch of an iterator is the same call but for its paging.** An iterator with valid
    options is used in any way and may then be polled as a stream.

    All that the server receives meanwhile are calls of its method, with the first request but for
    the size and the token, and with the same metadata: those of the options, less what stays
    behind. The first asks with the token of that request, each other one with the token that the
    response before it gives.

    The replies that are used up come from the front; the items that were delivered, followed by
    what is still held, are those of the responses, none of them longer than 4 MiB, and these are
    what their octets are read as. At most one call has no response, the last one: its reply is
    late, a failure or too long.

    A fetch that fails is the last: neither the pager nor the stream asks for anything any more, and
    the session is left to other calls and iterators as that fetch left it. -/
theorem every_fetch_alike (l : Listing) (request : l.method.Request) (options : CallOptions)
    {metadata : Metadata} (valid : options.metadata = .ok metadata) (s : Session)
    (actions : List Pager.Action) (n : Nat) :
    let h := Pager.history (Session.list l options) actions (Session.iterate l request) s
    let t := ItemStream.polls (Session.list l options) n (.live h.pager) h.server
    (∃ (sent : Metadata) (pagings : List (Int64 × String)) (responses : List l.method.Response),
      Delivers metadata sent ∧
      t.server.received = s.received ++ pagings.map (fun paging =>
        ⟨l.method, l.withPaging request paging.1 paging.2, sent⟩) ∧
      t.server.replies = s.replies.drop pagings.length ∧
      pagings.map Prod.snd <+: l.tokenOf request :: responses.map l.tokenIn ∧
      (s.replies.take responses.length).map (fun reply => reply.body l.method) =
        responses.map .ok ∧
      (∀ response ∈ responses, Message.encodedLength response ≤ 4194304) ∧
      h.delivered ++ t.delivered ++ t.stream.buffer = responses.flatMap l.itemsIn ∧
      responses.length ≤ pagings.length ∧ pagings.length ≤ responses.length + 1 ∧
      (responses.length < pagings.length →
        (s.replies.getD responses.length .exhausted).Fails l.method options) ∧
      (∀ r ∈ t.server.received, (Message.encode r.request).length < 2 ^ 64 →
        Message.decode r.method.Request (Message.encode r.request) = .ok r.request) ∧
      ∀ response ∈ responses,
        Message.decode l.method.Response (Message.encode response) = .ok response) ∧
    (∀ e, h.pager.failure = some e → Session.FailedFetch l options e h.server ∧
      (∀ more, (Pager.history (Session.list l options) more h.pager h.server).server = h.server) ∧
      t.server = h.server) ∧
    ∀ e, .failure e ∈ t.entries → Session.FailedFetch l options e t.server ∧
      ∀ more, (ItemStream.polls (Session.list l options) more t.stream t.server).server =
        t.server := by
  intro h t
  have used := Pager.history_walk (Session.list l options) actions (Session.iterate l request) s
  have sound : h.pager.Sound := used.sound (Pager.sound_new _)
  have hands : h.pager.EmptyHanded := used.emptyHanded fun _ => rfl
  obtain ⟨q, polled, buffer, given⟩ :=
    ItemStream.polls_walk (Session.list l options) n h.server sound
  refine ⟨?_, fun e failed => ⟨?_, fun more => ?_, ?_⟩, fun e entry => ⟨?_, fun more => ?_⟩⟩
  · obtain ⟨sent, pagings, responses, delivers, received, replies, tokens, bodies, short, pages,
      fewer, last, fails⟩ := iterator_alike valid (used.append polled)
    have delivered : h.delivered = deliveredIn h.moments :=
      Pager.history_delivered (Session.list l options) actions (Session.iterate l request) s
    have items : h.delivered ++ t.delivered ++ t.stream.buffer =
        responses.flatMap l.itemsIn := by
      rw [delivered, given, buffer, ← pages, deliveredIn_append]
    refine ⟨sent, pagings, responses, delivers, received, replies, tokens, bodies, short, items,
      fewer, last, fails, fun r _ short => r.method.decode_request r.request short,
      fun response member => ?_⟩
    exact l.method.decode_response response (writable_of_short (short response member))
  · obtain ⟨_, _, last⟩ := used.failed_last rfl failed
    exact Session.failedFetch last
  · have current : h.pager.current = none := hands (by rw [failed]; exact Option.some_ne_none e)
    exact (Pager.history_of_failure (Session.list l options) more h.server failed current).2.2.2.2
  · exact (ItemStream.polls_stopped (Session.list l options) n h.server failed).2
  · obtain ⟨_, _, last⟩ := ItemStream.polls_failed_last used rfl n entry
    exact Session.failedFetch last
  · have ended := ItemStream.polls_over_of_failure n h.server entry
    exact (ItemStream.polls_of_over (Session.list l options) more t.server ended).2.2.2

/-- Options with a header. -/
def tenantOptions : CallOptions := ⟨[("X-Tenant", "acme")], none⟩

/-- A session that has two pages of instances, and no third. -/
def twoPages : Session :=
  let reply := fun (page : ListInstancesResponse) =>
    (⟨0, fun | .listInstances => .ok page | _ => .error scriptExhausted⟩ : Reply)
  Session.new ⟨[], Dialler.success⟩ [reply ⟨[{ id := "a" }], "t"⟩, reply ⟨[{ id := "b" }], "u"⟩]

/-- The use of an iterator over them up to its failure; the page size is changed on the way. -/
def twoPagesUse : Pager.History FolderScope Instance CallFault Session :=
  Pager.history (Session.list .instances tenantOptions) [.advance, .withPageSize 7, .takeAll]
    (Session.iterate .instances (⟨"f", 1, "", "x"⟩ : ListInstancesRequest)) twoPages

/-- Two pages and a failure, asked for alike, and the items that came before it. -/
theorem two_pages_alike :
    twoPagesUse.server.received.length = 3 ∧
      twoPagesUse.delivered = [({ id := "a" } : Instance), { id := "b" }] ∧
      (∃ (sent : Metadata) (pagings : List (Int64 × String)),
        sent.values "x-tenant" = ["acme"] ∧
        twoPagesUse.server.received = pagings.map fun paging =>
          ⟨.listInstances, (⟨"f", paging.1, paging.2, "x"⟩ : ListInstancesRequest), sent⟩) ∧
      Session.FailedFetch .instances tenantOptions (.status scriptExhausted)
        twoPagesUse.server := by
  have valid : tenantOptions.metadata = .ok ⟨[("x-tenant", "acme")]⟩ := by decide +kernel
  have failed : twoPagesUse.pager.failure = some (.status scriptExhausted) := by decide +kernel
  have free : ¬ Withheld ⟨[("x-tenant", "acme")]⟩ "x-tenant" := by
    rw [withheld_iff]
    decide +kernel
  obtain ⟨⟨sent, pagings, _, delivers, received, _⟩, broken, _⟩ :=
    every_fetch_alike .instances (⟨"f", 1, "", "x"⟩ : ListInstancesRequest) tenantOptions valid
      twoPages [.advance, .withPageSize 7, .takeAll] 0
  have tenant : sent.values "x-tenant" = ["acme"] := delivers.kept "x-tenant" free
  exact ⟨by decide +kernel, by rfl, ⟨sent, pagings, tenant, received⟩, (broken _ failed).1⟩

end ControlPlane
