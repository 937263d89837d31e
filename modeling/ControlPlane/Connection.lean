import ControlPlane.Endpoint
import ControlPlane.Event

/-!
# A shared connection, made when it is first needed

A connection is dialled for the first caller that needs it and kept for all later ones.

* `Dialler` -- how the dials end, one after another: each after a delay with success or a reason
  for its failure, or never;
* `Connection.join` -- several callers at once, each with a deadline or none. They are served first
  come first served: the first that is still waiting dials; if that fails, the failure is its own
  and the next one dials; a dial whose caller's deadline passes is given up;
* `Connection.channelWithin` -- a single caller.

Only success is kept. Time counts in milliseconds from the start of a group, and a dial that ends
at the very time of a deadline is in time.
-/

namespace ControlPlane

/-! ## 1. Dials -/

/-- How a dial ends. -/
inductive DialOutcome where
  | connects
  | fails (reason : String)
  | hangs
  deriving DecidableEq, Repr

/-- A dial: how long it takes, in milliseconds, and how it ends. -/
structure Dial where
  delay : Nat
  outcome : DialOutcome
  deriving DecidableEq, Repr

/-- The dials to come: some in order, and what every dial after those is like. -/
structure Dialler where
  script : List Dial
  thereafter : Dial
  deriving DecidableEq, Repr

/-- The time at which a dial ends that starts at `t`; none if it never does. -/
def Dial.endsAt (d : Dial) (t : Nat) : Option Nat :=
  match d.outcome with
  | .hangs => none
  | .connects | .fails _ => some (t + d.delay)

namespace Dialler

/-- A dial that succeeds at once. -/
def success : Dial := ⟨0, .connects⟩

/-- The next dial, and the dials after it. -/
def next (d : Dialler) : Dial × Dialler :=
  match d.script with
  | [] => (d.thereafter, d)
  | dial :: rest => (dial, { d with script := rest })

/-- Dials of a server that refuses them all, each after a delay. -/
def refusing (delay : Nat) : Dialler := ⟨[], ⟨delay, .fails "transport error"⟩⟩

end Dialler

/-! ## 2. Connections -/

/-- A connection: the dials to come, whether it is made, and how many dials were started. -/
structure Connection where
  dialler : Dialler
  connected : Bool
  dials : Nat
  deriving DecidableEq, Repr

/-- What a caller gets. -/
inductive Access where
  | granted
  | denied (status : Status)
  /-- A caller without a deadline waits for a dial that never ends. -/
  | never
  deriving DecidableEq, Repr

/-- Something that is logged at a time. -/
structure Timed where
  time : Nat
  event : Event
  deriving DecidableEq, Repr

/-- What became of a caller: what it gets, what is logged, the connection, and the time it was
    done; none if it never is. -/
structure Turn where
  access : Access
  events : List Timed
  connection : Connection
  time : Option Nat
  deriving DecidableEq, Repr

/-- What became of a group of callers: what each gets, what is logged, and the connection. -/
structure Joined where
  accesses : List Access
  events : List Timed
  connection : Connection
  deriving DecidableEq, Repr

namespace Connection

/-- A connection that is not made yet. -/
def new (dialler : Dialler) : Connection := ⟨dialler, false, 0⟩

/-- A connection to an endpoint, not made yet; none if the text names no endpoint. -/
def connectTo? (dialler : Dialler) (url : String) : Option Connection :=
  if Endpoint.isValid url then some (new dialler) else none

/-- The text of a connection. -/
def text (c : Connection) : String :=
  "LazyChannel \x7b connected: " ++ Event.flag c.connected ++ " \x7d"

/-- The status of a caller whose deadline passed. -/
def timedOut (deadline : Duration) : Status :=
  ⟨.deadlineExceeded, "Failed to connect within " ++ deadline.text, none⟩

/-- Whether a deadline passed before a time; the time `none` never comes. -/
def passedBefore (deadline : Duration) : Option Nat → Bool
  | none => true
  | some now => deadline.ticks < now

/-- The turn of a caller that dials at a time. -/
def dial (c : Connection) (t : Nat) (deadline : Option Duration) : Turn :=
  let (dial, dialler) := c.dialler.next
  let after : Connection := ⟨dialler, false, c.dials + 1⟩
  let started : Timed := ⟨t, .dialling⟩
  match deadline.filter fun d => passedBefore d (dial.endsAt t), dial.outcome with
  | some d, _ =>
    ⟨.denied (timedOut d), [started, ⟨d.ticks, .dialTimedOut d⟩], after, some d.ticks⟩
  | none, .hangs => ⟨.never, [started], after, none⟩
  | none, .connects => ⟨.granted, [started], { after with connected := true }, some (t + dial.delay)⟩
  | none, .fails reason =>
    ⟨.denied (Status.unreachable reason), [started, ⟨t + dial.delay, .dialFailed reason⟩], after,
      some (t + dial.delay)⟩

/-- The turn of a caller at a time, at which the one before was done. A caller whose deadline
    passed while waiting dials nothing; without a connection the caller dials. -/
def turn (c : Connection) (now : Option Nat) (deadline : Option Duration) : Turn :=
  match deadline.filter fun d => passedBefore d now, now with
  | some d, _ => ⟨.denied (timedOut d), [⟨d.ticks, .dialTimedOut d⟩], c, now⟩
  | none, none => ⟨.never, [], c, none⟩
  | none, some t => if c.connected then ⟨.granted, [], c, now⟩ else c.dial t deadline

/-- What the callers get from a time on, one after another. -/
def serve (c : Connection) (now : Option Nat) : List (Option Duration) → Joined
  | [] => ⟨[], [], c⟩
  | deadline :: rest =>
    let first := c.turn now deadline
    let others := first.connection.serve first.time rest
    ⟨first.access :: others.accesses, first.events ++ others.events, others.connection⟩

/-- Puts something logged before the first that came later. -/
def insertTimed (x : Timed) : List Timed → List Timed
  | [] => [x]
  | y :: rest => if x.time ≤ y.time then x :: y :: rest else y :: insertTimed x rest

/-- What was logged, in the order of time; what came at one time keeps its order. -/
def inOrder (events : List Timed) : List Event :=
  (events.foldr insertTimed []).map Timed.event

/-- What a group of callers gets. -/
def join (c : Connection) (deadlines : List (Option Duration)) : Joined :=
  c.serve (some 0) deadlines

end Connection

/-- What is logged for a group, in the order of time. -/
def Joined.log (j : Joined) : List Event := Connection.inOrder j.events

namespace Connection

/-- What a single caller gets, what is logged, and the connection. -/
def channelWithin (c : Connection) (deadline : Option Duration) :
    Access × List Event × Connection :=
  let j := c.join [deadline]
  (j.accesses.headD .never, j.log, j.connection)

end Connection

end ControlPlane
