import ControlPlane.Status
import ControlPlane.Text.Integer

/-!
# Pulling the items of a listing

A server gives a listing page by page; each page comes with the token of the next, and an empty
token marks the last page. A pager pulls the items one by one or many at once:

* `ListCall` -- the server: it answers the request for a page, and its own state may change;
* `Pager.advance` -- moves to the next item; a page is asked for only when the buffer is empty;
* `Pager.take` -- collects items; no page request asks for more than is still wanted;
* `Pager.failure` -- the first failure ends the listing for good: nothing is asked for after it.

The items, the failures, the state of the server and the part of a request that stays the same
are left open.
-/

namespace ControlPlane

/-! ## 1. Pages -/

/-- A request for a page: what is listed, how many items are wanted, and where to go on. -/
structure PageRequest (κ : Type) where
  scope : κ
  pageSize : Int64
  pageToken : String
  deriving DecidableEq

/-- A page, with the token of the next one. -/
structure Page (α : Type) where
  items : List α
  next : String
  deriving DecidableEq, Inhabited

/-- A server of pages with a state of type `σ`. -/
abbrev ListCall (κ α ε σ : Type) : Type := PageRequest κ → σ → Except ε (Page α) × σ

/-- What a take collected, and the failure that ended it early, if any. -/
structure Haul (α ε : Type) where
  items : List α
  failure : Option ε
  deriving DecidableEq

/-- The page size of a request that does not state one. -/
def defaultPageSize : Int64 := 1000

/-- A stated page size, or the default if it is not positive. -/
def effectivePageSize (n : Int64) : Int64 := if 0 < n then n else defaultPageSize

/-- The size to ask for: the configured one, or what is still wanted if that is less. -/
def askedSize (configured : Int64) : Option Nat → Int64
  | none => configured
  | some want => if (want : Int) < configured.toInt then Int64.ofNat want else configured

/-- The count that stands for no limit, the largest word of 64 bits. -/
def unlimited : Nat := Text.maxWord64

/-! ## 2. Pagers -/

/-- A pager: the next request, the configured page size, what was received and not delivered yet,
    the item it stands on, and the failure that ended it. -/
structure Pager (κ α ε : Type) where
  request : PageRequest κ
  pageSize : Int64
  /-- Whether a page has been asked for. -/
  started : Bool
  buffer : List α
  current : Option α
  failure : Option ε
  deriving DecidableEq

namespace Pager

variable {κ α ε σ : Type}

/-- A pager that starts from a request. -/
def new (request : PageRequest κ) : Pager κ α ε :=
  ⟨request, effectivePageSize request.pageSize, false, [], none, none⟩

/-- A pager with another page size from here on. -/
def withPageSize (p : Pager κ α ε) (n : Int64) : Pager κ α ε :=
  { p with pageSize := effectivePageSize n }

/-- The token the next page would be asked for with. -/
def nextPageToken (p : Pager κ α ε) : String := p.request.pageToken

/-- The request for the next page, when `want` items are still wanted. -/
def nextRequest (p : Pager κ α ε) (want : Option Nat) : PageRequest κ :=
  { p.request with pageSize := askedSize p.pageSize want }

/-- A pager that has asked for a page and received an answer. -/
def received (p : Pager κ α ε) (request : PageRequest κ) :
    Except ε (Page α) → Pager κ α ε
  | .ok page =>
    { p with
      request := { request with pageToken := page.next }
      started := true
      buffer := page.items.tail
      current := page.items.head? }
  | .error e =>
    { p with request := request, started := true, buffer := [], current := none, failure := some e }

/-- Asks for a page. -/
def fetch (call : ListCall κ α ε σ) (want : Option Nat) (p : Pager κ α ε) (s : σ) :
    Pager κ α ε × σ :=
  let request := p.nextRequest want
  let (answer, s') := call request s
  (p.received request answer, s')

/-- Whether the last page has been received. -/
def atEnd (p : Pager κ α ε) : Bool := p.started && p.request.pageToken.isEmpty

/-- Moves to the next item, from the buffer or from a new page; without one, to no item. -/
def step (call : ListCall κ α ε σ) (want : Option Nat) (p : Pager κ α ε) (s : σ) :
    Pager κ α ε × σ :=
  match p.failure, p.buffer with
  | some _, _ => ({ p with current := none }, s)
  | none, a :: rest => ({ p with buffer := rest, current := some a }, s)
  | none, [] => if p.atEnd then ({ p with current := none }, s) else p.fetch call want s

/-- Moves to the next item; the pager then stands on one (`current`), or there is none. -/
def advance (call : ListCall κ α ε σ) (p : Pager κ α ε) (s : σ) : Pager κ α ε × σ :=
  p.step call none s

/-- The wording when an item is asked for and the pager stands on none. -/
def noCurrentMessage : String := "Pager::current called without a successful Pager::advance"

/-- The item the pager stands on. Where there is none it must not be asked for; the words are those
    of a program that asks all the same. -/
def standsOn (p : Pager κ α ε) : Except String α :=
  match p.current with
  | some a => .ok a
  | none => .error noCurrentMessage

/-- Delivers items until `want` of them have come or none is left. -/
def pull (call : ListCall κ α ε σ) : Nat → Pager κ α ε → σ → List α × Pager κ α ε × σ
  | 0, p, s => ([], p, s)
  | want + 1, p, s =>
    let (q, t) := p.step call (some (want + 1)) s
    match q.current with
    | none => ([], q, t)
    | some a =>
      let (items, last, u) := pull call want { q with current := none } t
      (a :: items, last, u)

/-- Collects up to `limit` items; zero stands for no limit. -/
def take (call : ListCall κ α ε σ) (limit : Nat) (p : Pager κ α ε) (s : σ) :
    Haul α ε × Pager κ α ε × σ :=
  match p.failure with
  | some e => (⟨[], some e⟩, p, s)
  | none =>
    let (items, q, t) := pull call (if limit = 0 then unlimited else limit) p s
    (⟨items, q.failure⟩, q, t)

/-- Collects all items that are left. -/
def takeAll (call : ListCall κ α ε σ) (p : Pager κ α ε) (s : σ) : Haul α ε × Pager κ α ε × σ :=
  p.take call 0 s

end Pager

/-- The wording for a listing that stopped after some items. -/
def stoppedMessage (count : Nat) (status : Status) : String :=
  "Listing stopped after " ++ String.ofList (Text.decimal count) ++ " item(s): '" ++
    status.text ++ "'"

end ControlPlane
