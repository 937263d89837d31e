import ControlPlane.CallOptions
import ControlPlane.Event
import ControlPlane.Pager.Server
import ControlPlane.Pager.Stream

/-!
# How calls end without an answer

* `CallFault` -- a status, a crash of the program, or no end at all;
* `afterCrash`, `pollGuarded`, `collectGuarded` -- pagers and streams whose call may crash: a crash
  is no failure of the listing, so a pager may be pulled again, but a stream may not be polled;
* `Exchange.events` -- what is logged for the exchange of a page.
-/

namespace ControlPlane

variable {κ α σ : Type}

/-! ## 1. Faults -/

/-- How a call ends without an answer. -/
inductive CallFault where
  | status (s : Status)
  /-- The program stops with these words. -/
  | crash (words : String)
  /-- The call waits for ever. -/
  | stalled
  deriving DecidableEq, Repr

/-- The fault of options that give no metadata. -/
def CallFault.ofOptions (f : OptionFault) : CallFault :=
  match f.status? with
  | some s => .status s
  | none => .crash f.message

/-! ## 2. Crashes -/

/-- The words of a crash of a pager, if its last call crashed, and the pager to go on with. -/
def afterCrash (p : Pager κ α CallFault) : Option String × Pager κ α CallFault :=
  match p.failure with
  | some (.crash words) => (some words, { p with failure := none })
  | _ => (none, p)

/-- The wording for a poll of a stream that crashed. -/
def crashedWords : String := "`async fn` resumed after panicking"

/-- The next entry of a stream. -/
def pollGuarded (call : ListCall κ α CallFault σ) (stream : ItemStream κ α CallFault) (s : σ) :
    Entry α CallFault × ItemStream κ α CallFault × σ :=
  match stream.poll call s with
  | (.failure (.crash words), _, t) => (.failure (.crash words), .ended crashedWords, t)
  | polled => polled

/-- Whether a stream gives nothing after an entry. -/
def isLastGuarded : Entry α CallFault → Bool
  | .failure (.crash _) => true
  | entry => entry.isLast

/-- The entries of a stream up to the last. -/
def collectGuarded (call : ListCall κ α CallFault σ) (stream : ItemStream κ α CallFault) (s : σ) :
    List (Entry α CallFault) × ItemStream κ α CallFault × σ :=
  ItemStream.entries (pollGuarded call) isLastGuarded unlimited stream s

/-! ## 3. Events -/

/-- The event of a request for a page. -/
def requestEvent (request : PageRequest κ) : Event :=
  .fetching request.pageSize (!request.pageToken.isEmpty)

/-- The events of an answer; a call that does not end in an answer or a status has none. -/
def answerEvents : Except CallFault (Page α) → List Event
  | .ok page => [.received page.items.length page.next.isEmpty]
  | .error (.status status) => [.listFailed status]
  | .error _ => []

/-- What is logged for an exchange. -/
def Exchange.events (e : Exchange κ α CallFault) : List Event :=
  requestEvent e.request :: answerEvents e.answer

end ControlPlane
