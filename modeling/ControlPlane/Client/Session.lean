import ControlPlane.Client.Fault
import ControlPlane.Client.Method
import ControlPlane.Connection
import ControlPlane.Text.Blank

/-!
# Calls over a shared connection

A session is a shared connection to a server that answers one call after another from a script.

* `Session.call` -- a call: first the connection within the call's deadline, then the metadata of
  its options, then the exchange with the server;
* `Session.exchange` -- what the server receives, and what comes back before the deadline that the
  metadata state;
* `Session.list` -- a call for a page, which is logged.

The transport between the two is modelled as far as callers see it: the keys that it keeps to
itself (`delivered`), the deadline, and the most octets that it takes in as an answer
(`Reply.outcome`). What it adds under its own keys is not, nor are the limits of a server on what
that receives, nor how many octets all metadata together may have.
-/

namespace ControlPlane

/-! ## 1. The server -/

/-- An answer of the server: how long it takes, in milliseconds, and what it is for a method. -/
structure Reply where
  delay : Nat
  body : (m : Method) → Except Status m.Response

/-- A call as the server receives it. -/
structure Received where
  method : Method
  request : method.Request
  metadata : Metadata

/-- The answer when the script is used up. -/
def Reply.exhausted : Reply := ⟨0, fun _ => .error scriptExhausted⟩

/-- The keys of metadata that the transport keeps to itself: a caller's values do not reach the
    server under them, or not as they are. Of `user-agent` they become a part of its own value. -/
def reservedKeys : List String :=
  ["te", "content-type", "grpc-message", "grpc-message-type", "grpc-status", "user-agent"]

/-- The keys that a value of `connection` lists; one that is not all ASCII lists none. -/
def listedKeys (value : String) : List String :=
  if value.toList.all fun c => c.toNat < 0x80 then
    (value.toList.splitOn ',').filterMap fun name => Metadata.key? (Text.trim (String.ofList name))
  else []

/-- The keys that speak of one connection, which have no place in a call on a shared one: those
    below and those that the first value of `connection` lists. -/
def connectionKeys (m : Metadata) : List String :=
  ["connection", "keep-alive", "proxy-connection", "transfer-encoding", "upgrade"] ++
    (m.values "connection").head?.elim [] listedKeys

/-- The metadata that reach the server as the caller gave them. -/
def delivered (m : Metadata) : Metadata := m.without (reservedKeys ++ connectionKeys m)

/-- A failure as it arrives. One with the code of success is no failure and holds no answer. -/
def arrived (s : Status) : Status := if s.code = .ok then .missingResponse else s

/-- The most octets that are taken in as an answer. -/
def maxAnswer : Nat := 4194304

/-- What comes of a reply to a method: a response that is not too long, or a failure. -/
def Reply.outcome (reply : Reply) (m : Method) : Except Status m.Response :=
  match reply.body m with
  | .ok response =>
    let length := Message.encodedLength response
    if length ≤ maxAnswer then .ok response else .error (.tooLong length maxAnswer)
  | .error status => .error (arrived status)

/-! ## 2. Sessions -/

/-- A connection and the server behind it: the answers to come, the calls received so far, and
    what was logged, the latest last. -/
structure Session where
  connection : Connection
  replies : List Reply
  received : List Received
  log : List Event

namespace Session

/-- A session in which nothing has happened. -/
def new (dialler : Dialler) (replies : List Reply) : Session := ⟨.new dialler, replies, [], []⟩

/-- A session with one more event logged. -/
def note (s : Session) (e : Event) : Session := { s with log := s.log ++ [e] }

/-- The deadline that metadata state, in milliseconds. -/
def deadlineOf (m : Metadata) : Option Nat :=
  ((m.values Deadline.key).head?.bind Deadline.read).map Duration.ticks

/-- The exchange with the server. A call whose deadline is zero is given up before it is sent, and
    an answer that does not come before the deadline is not waited for. The server gets what is
    delivered of the metadata, and the caller gets the outcome of the reply. -/
def exchange (s : Session) (m : Method) (request : m.Request) (metadata : Metadata) :
    Except CallFault m.Response × Session :=
  let deadline := deadlineOf metadata
  if deadline = some 0 then (.error (.status .timeoutExpired), s)
  else
    let reply := s.replies.headD .exhausted
    let after : Session :=
      { s with
        replies := s.replies.tail
        received := s.received ++ [⟨m, request, delivered metadata⟩] }
    if deadline.any fun d => d ≤ reply.delay then (.error (.status .timeoutExpired), after)
    else ((reply.outcome m).mapError .status, after)

/-- A call. -/
def call (s : Session) (m : Method) (request : m.Request) (options : CallOptions) :
    Except CallFault m.Response × Session :=
  let (access, events, connection) := s.connection.channelWithin options.timeout
  let s : Session := { s with connection, log := s.log ++ events }
  match access with
  | .never => (.error .stalled, s)
  | .denied status => (.error (.status status), s)
  | .granted =>
    match options.metadata with
    | .error fault => (.error (.ofOptions fault), s)
    | .ok metadata => s.exchange m request metadata

/-! ## 3. Listings -/

/-- A call for a page. -/
def list (l : Listing) (options : CallOptions) : ListCall l.Scope l.Item CallFault Session :=
  fun request s =>
    let asked := s.note (requestEvent request)
    let (answer, after) := asked.call l.method (l.ofPageRequest request) options
    let answer := answer.map l.toPage
    (answer, { after with log := after.log ++ answerEvents answer })

/-- The pager over a listing, from a request on. -/
def iterate (l : Listing) (request : l.method.Request) : Pager l.Scope l.Item CallFault :=
  .new (l.toPageRequest request)

/-! ## 4. Clients -/

/-- The text of the client of a service over the connection. -/
def clientText (s : Session) (client : String) : String :=
  client ++ " \x7b conn: " ++ s.connection.text ++ " \x7d"

/-- The texts of the two clients. -/
def clientTexts (s : Session) : List String :=
  [s.clientText "InstanceServiceClient", s.clientText "DiskServiceClient"]

end Session

end ControlPlane
