import ControlPlane.Proofs.Pager.Delivery
import ControlPlane.Proofs.Pager.PlainList

/-!
# Going on after a failure

A listing that failed is taken up again by a new pager that starts from the token of the failed one.

* `Fallible` -- a server that is faithful to a list when it answers, and may fail any call;
* `interrupted` -- a server whose calls fail as a schedule says; `interrupted_fallible` -- **a
  faithful server that is interrupted is fallible**, whatever the schedule;
* `Reached` -- the invariant: the token of a pager stands for the offset up to which it has received
  the list, unless it has received all;
* `Step.reached`, `Walk.reached` -- a step keeps it, hence whatever is done with a pager does;
* `resumed_complete` -- **what the failed pager delivered and what the new one takes are the list**.
-/

namespace ControlPlane

variable {κ α ε σ : Type}

/-! ## 1. Servers that may fail -/

/-- An answer to a request for what stands in a list from an offset on, after which the server is in
    a state: a page from there on, whose token stands for its end; or a failure, after which the
    token of the request stands for what it stood for. -/
def AnswersFrom (items : List α) (stands : σ → String → Nat → Prop) (offset : Nat) (token : String)
    (t : σ) : Except ε (Page α) → Prop
  | .ok page => page.At items offset ∧
      (page.next ≠ "" → stands t page.next (offset + page.items.length))
  | .error _ => stands t token offset

/-- **A server that is faithful to a list when it answers**; any call may fail. -/
def Fallible (call : ListCall κ α ε σ) (items : List α) (scope : κ)
    (stands : σ → String → Nat → Prop) : Prop :=
  ∀ ⦃request : PageRequest κ⦄ ⦃s : σ⦄ ⦃offset : Nat⦄, request.scope = scope →
    0 < request.pageSize → stands s request.pageToken offset →
      AnswersFrom items stands offset request.pageToken (call request s).2 (call request s).1

/-- A faithful server is one that does not fail. -/
theorem Faithful.fallible {call : ListCall κ α ε σ} {items : List α} {scope : κ}
    {stands : σ → String → Nat → Prop} (faithful : Faithful call items scope stands) :
    Fallible call items scope stands := by
  intro request s offset same positive stand
  obtain ⟨page, t, hc, hpage, hnext⟩ := faithful same positive stand
  rw [hc]
  exact ⟨hpage, hnext⟩

/-- A server that is interrupted: the calls at some places of a schedule fail. Behind its end none
    does. -/
def interrupted (call : ListCall κ α ε σ) : ListCall κ α ε (List (Option ε) × σ)
  | _, (some e :: schedule, s) => (.error e, schedule, s)
  | request, (none :: schedule, s) =>
    let (answer, t) := call request s
    (answer, schedule, t)
  | request, ([], s) =>
    let (answer, t) := call request s
    (answer, [], t)

/-- **A faithful server may be interrupted at any calls**: it is fallible then. -/
theorem interrupted_fallible {call : ListCall κ α ε σ} {items : List α} {scope : κ}
    {stands : σ → String → Nat → Prop} (faithful : Faithful call items scope stands) :
    Fallible (interrupted call) items scope fun s => stands s.2 := by
  rintro request ⟨schedule, s⟩ offset same positive stand
  -- a call that is let through is answered by the server itself
  have through := faithful.fallible same positive stand
  rcases schedule with _ | ⟨_ | e, rest⟩
  · exact through
  · exact through
  · exact stand

/-! ## 2. How far a pager has read -/

/-- **How far a pager has read**: it stands behind the last page and has received the whole list, or
    its token stands for the offset up to which it has received the list. -/
structure Reached (items : List α) (scope : κ) (stands : σ → String → Nat → Prop)
    (p : Pager κ α ε) (s : σ) (read : List α) : Prop where
  scope : p.request.scope = scope
  positive : 0 < p.pageSize
  place : (p.failure = none ∧ p.atEnd = true ∧ read = items) ∨
    ∃ offset, stands s p.nextPageToken offset ∧ read = items.take offset

section Reading

variable {call : ListCall κ α ε σ} {items : List α} {scope : κ}
  {stands : σ → String → Nat → Prop} {p q : Pager κ α ε} {s t : σ} {read : List α}

theorem reached_new {request : PageRequest κ} (h : stands s request.pageToken 0) :
    Reached items request.scope stands (Pager.new request : Pager κ α ε) s [] where
  scope := rfl
  positive := effectivePageSize_pos _
  place := .inr ⟨0, h, rfl⟩

/-- A page of a list prolongs what was received of it. -/
theorem Page.At.take_append {page : Page α} {offset : Nat} (h : page.At items offset) :
    items.take offset ++ page.items = items.take (offset + page.items.length) := by
  rw [List.take_add, ← List.prefix_iff_eq_take.mp h.slice]

/-- Where a page is asked for, the token stands for the offset up to which the list was received,
    and the answer is one to a request for what follows. -/
theorem Reached.asked (fallible : Fallible call items scope stands)
    (hp : Reached items scope stands p s read) {want : Option Nat} (asks : want ≠ some 0)
    (more : p.atEnd = false) {answer : Except ε (Page α)}
    (answered : call (p.nextRequest want) s = (answer, t)) :
    ∃ offset, read = items.take offset ∧
      AnswersFrom items stands offset p.nextPageToken t answer := by
  rcases hp.place with ⟨_, last, _⟩ | ⟨offset, stand, hr⟩
  · rw [more] at last
    cases last
  · have size : 0 < (p.nextRequest want).pageSize := askedSize_pos hp.positive asks
    have answers := @fallible (p.nextRequest want) s offset hp.scope size stand
    rw [answered] at answers
    exact ⟨offset, hr, answers⟩

/-- **A step keeps track**: what it receives prolongs what was received, and the new token stands
    for its end; a failure leaves both as they were. -/
theorem Pager.Step.reached (fallible : Fallible call items scope stands) {want : Option Nat}
    (asks : want ≠ some 0) {made : List (Exchange κ α ε)} (h : Step call want p s made q t)
    (hp : Reached items scope stands p s read) :
    Reached items scope stands q t (read ++ fetched made) := by
  cases h with
  | stopped => rw [fetched_nil, List.append_nil]; exact ⟨hp.scope, hp.positive, hp.place⟩
  | buffered => rw [fetched_nil, List.append_nil]; exact ⟨hp.scope, hp.positive, hp.place⟩
  | ended => rw [fetched_nil, List.append_nil]; exact ⟨hp.scope, hp.positive, hp.place⟩
  | @received page t sound empty more answer =>
    obtain ⟨offset, hr, hpage, hnext⟩ := hp.asked fallible asks more answer
    have got : read ++ fetched [(⟨p.nextRequest want, .ok page⟩ : Exchange κ α ε)] =
        items.take (offset + page.items.length) := by
      rw [fetched_cons, fetched_nil, List.append_nil, hr]
      exact hpage.take_append
    rw [got]
    refine ⟨hp.scope, hp.positive, ?_⟩
    by_cases last : page.next = ""
    · refine .inl ⟨sound, by simp [atEnd, Pager.received, last], ?_⟩
      rw [hpage.last.mp last, List.take_length]
    · exact .inr ⟨_, hnext last, rfl⟩
  | refused sound empty more answer =>
    obtain ⟨offset, hr, stand⟩ := hp.asked fallible asks more answer
    rw [fetched_cons, fetched_nil, List.append_nil]
    exact ⟨hp.scope, hp.positive, .inr ⟨offset, stand, (List.append_nil read).trans hr⟩⟩

/-- **So does a walk.** -/
theorem Walk.reached (fallible : Fallible call items scope stands) {ms : List (Moment κ α ε)}
    (h : Walk call p s ms q t) (hp : Reached items scope stands p s read) :
    Reached items scope stands q t (read ++ fetched (askedIn ms)) := by
  induction h generalizing read with
  | stay => rw [askedIn_nil, fetched_nil, List.append_nil]; exact hp
  | step asks first _ ih =>
    rw [askedIn_append, Pager.askedIn_momentsOf, fetched, List.flatMap_append, ← List.append_assoc]
    exact ih (first.reached fallible asks hp)
  | handOver _ ih => exact ih ⟨hp.scope, hp.positive, hp.place⟩
  | resize n _ ih => exact ih ⟨hp.scope, effectivePageSize_pos n, hp.place⟩

/-- **A pager that failed has delivered the list up to the offset of its token.** -/
theorem Walk.delivered_of_failure (fallible : Fallible call items scope stands)
    {ms : List (Moment κ α ε)} (h : Walk call p s ms q t)
    (hp : Reached items scope stands p s []) (nothing : p.buffer = []) (failed : q.failure ≠ none) :
    ∃ offset, stands t q.nextPageToken offset ∧ deliveredIn ms = items.take offset := by
  have balance := h.orderly.balance
  -- a failed pager holds nothing, so all that it received is delivered
  rw [nothing, h.sound (fun _ => nothing) failed, List.append_nil] at balance
  rcases (h.reached fallible hp).place with ⟨sound, _⟩ | ⟨offset, stand, hr⟩
  · exact absurd sound failed
  · exact ⟨offset, stand, balance.trans hr⟩

end Reading

/-! ## 3. Going on -/

/-- A new pager with a token that stands for an offset follows the list from there on. -/
theorem follows_resumed {items : List α} {request : PageRequest κ}
    {stands : σ → String → Nat → Prop} {s : σ} {token : String} {offset : Nat}
    (h : stands s token offset) :
    Follows items request.scope stands
      (Pager.new { request with pageToken := token } : Pager κ α ε) s
      (.start (items.drop offset)) where
  sound := rfl
  current := rfl
  scope := rfl
  positive := effectivePageSize_pos _
  rest := .inr ⟨rfl, offset, h, rfl⟩

/-- **A listing that failed can be resumed without a gap and without doubling.** A server gives a
    list and may fail; a pager over it is used in any way until a call fails. A new pager over a
    server that does not fail, for which the token of the failed pager means the same, starts from
    the same request with that token and takes all. What the failed pager delivered, inside of a
    take that failed too, followed by that take is the list, in order. (A take of all is one of
    `unlimited` items, no more can be counted.) -/
theorem resumed_complete {call : ListCall κ α ε σ} {items : List α} {request : PageRequest κ}
    {stands : σ → String → Nat → Prop} {server : σ}
    (fallible : Fallible call items request.scope stands)
    (start : stands server request.pageToken 0) (actions : List Pager.Action)
    (failed : (Pager.history call actions (.new request) server).pager.failure ≠ none)
    {ε' σ' : Type} {call' : ListCall κ α ε' σ'} {stands' : σ' → String → Nat → Prop} {server' : σ'}
    (faithful : Faithful call' items request.scope stands')
    (same : let h := Pager.history call actions (.new request) server
      ∀ offset, stands h.server h.pager.nextPageToken offset →
        stands' server' h.pager.nextPageToken offset) :
    let h := Pager.history call actions (.new request) server
    let resumed := { request with pageToken := h.pager.nextPageToken }
    let haul := ((Pager.new resumed).takeAll call' server').1
    haul.failure = none ∧
    h.delivered ++ haul.items = items.take (h.delivered.length + unlimited) ∧
    (items.length ≤ unlimited → h.delivered ++ haul.items = items) := by
  intro h resumed haul
  have walk := Pager.history_walk call actions (.new request) server
  obtain ⟨offset, stand, delivered⟩ :=
    walk.delivered_of_failure fallible (reached_new start) rfl failed
  rw [← Pager.history_delivered] at delivered
  have follows : Follows items request.scope stands' (Pager.new resumed : Pager κ α ε') server'
      (.start (items.drop offset)) := follows_resumed (same offset stand)
  have taken : haul = ⟨(items.drop offset).take unlimited, none⟩ :=
    (take_follows faithful 0 follows).1
  have whole : h.delivered ++ haul.items = items.take (h.delivered.length + unlimited) := by
    rw [taken, show h.delivered = items.take offset from delivered, List.take_add, List.length_take]
    rcases Nat.le_total offset items.length with inside | beyond
    · rw [Nat.min_eq_left inside]
    · -- nothing is left behind the end of the list
      rw [Nat.min_eq_right beyond, List.take_of_length_le beyond, List.take_length,
        List.drop_of_length_le beyond, List.drop_length]
  refine ⟨by rw [taken], whole, fun short => ?_⟩
  rw [whole, List.take_of_length_le (by omega)]

/-- Seven numbers in pages of two: the third call fails inside of a take, and a server with larger
    pages goes on. -/
theorem offsets_resumed :
    let call : ListCall Unit Nat Status _ := interrupted (offsets 7 (some 2))
    let request : PageRequest Unit := ⟨(), 10, ""⟩
    let h := Pager.history call [.advance, .withPageSize 3, .take 5, .current, .advance]
      (.new request) ([none, none, some scriptExhausted], ())
    let resumed := { request with pageToken := h.pager.nextPageToken }
    let haul := ((Pager.new resumed : Pager Unit Nat Status).takeAll (offsets 7 (some 5)) ()).1
    h.answers = [.moved (some 0), .resized, .haul ⟨[1, 2, 3], some scriptExhausted⟩, .stood none,
      .moved none] ∧
    h.pager.nextPageToken = "4" ∧ haul.failure = none ∧
      h.delivered ++ haul.items = List.range 7 := by
  intro call request h resumed haul
  have answers : h.answers = [.moved (some 0), .resized,
      .haul ⟨[1, 2, 3], some scriptExhausted⟩, .stood none, .moved none] := by decide
  have token : h.pager.nextPageToken = "4" := by decide
  have failed : h.pager.failure ≠ none := by decide
  obtain ⟨sound, -, whole⟩ :=
    @resumed_complete Unit Nat Status _ call (List.range 7) request _
      ([none, none, some scriptExhausted], ())
      (interrupted_fallible (offsets_faithful (by decide) (by decide) ())) ⟨by decide, by decide⟩
      [.advance, .withPageSize 3, .take 5, .current, .advance] failed Status Unit
      (offsets 7 (some 5)) _ () (offsets_faithful (by decide) (by decide) ()) fun _ stand => stand
  -- the take of all is compared as it stands, not evaluated
  with_reducible exact ⟨answers, token, sound, whole (by decide)⟩

end ControlPlane
