import ControlPlane.Proofs.Pager.Delivery

/-!
# The chain of tokens

An answer hands out the token of the next request, and none where there must be no further one.

* `Exchange.next?` -- the token that the next request has to carry;
* `Linked` -- **each request carries the token that the answer before it gave**, and none follows an
  answer that gave none; `Linked.tokens`, for the tokens alone;
* `Placed` -- the invariant: where a pager stands after some exchanges;
* `Step.placed`, `Walk.placed` -- a step keeps it, hence whatever is done with a pager does;
* `calls_linked` -- the chain for every history, with a stream at its end.
-/

namespace ControlPlane

variable {κ α ε σ : Type}

/-! ## 1. Linked exchanges -/

/-- The token that a request after this exchange has to carry; none if there must be no request,
    after a failure and after the last page. -/
def Exchange.next? (e : Exchange κ α ε) : Option String :=
  match e.answer with
  | .ok page => if page.next.isEmpty then none else some page.next
  | .error _ => none

/-- The token that a request after some exchanges has to carry. -/
def nextAfter (token : Option String) : List (Exchange κ α ε) → Option String
  | [] => token
  | e :: es => nextAfter e.next? es

/-- **Exchanges of which the first carries a token, and each other one the token that the answer
    right before it gave.** -/
def Linked (token : Option String) : List (Exchange κ α ε) → Prop
  | [] => True
  | e :: es => token = some e.request.pageToken ∧ Linked e.next? es

/-- The token of the last page received; the first token if there was none. -/
def tokenAfter (token : String) : List (Exchange κ α ε) → String
  | [] => token
  | e :: es =>
    match e.answer with
    | .ok page => tokenAfter page.next es
    | .error _ => tokenAfter token es

/-- Exchanges may be linked to others by one that carries the right token. -/
theorem linked_append {token : Option String} {es fs : List (Exchange κ α ε)} :
    Linked token (es ++ fs) ↔ Linked token es ∧ Linked (nextAfter token es) fs := by
  induction es generalizing token with
  | nil => exact ⟨fun h => ⟨trivial, h⟩, fun h => h.2⟩
  | cons e es ih =>
    rw [List.cons_append, Linked, Linked, nextAfter, ih, and_assoc]

theorem next?_eq_none {e : Exchange κ α ε} {page : Page α} (h : e.answer = .ok page) :
    e.next? = none ↔ page.next = "" := by
  rw [Exchange.next?, h]
  simp

/-- A token that is carried on is that of the page. -/
theorem next_eq_of_some {e : Exchange κ α ε} {page : Page α} {token : String}
    (h : e.answer = .ok page) (carried : e.next? = some token) : page.next = token := by
  unfold Exchange.next? at carried
  rw [h] at carried
  dsimp only at carried
  split at carried
  · cases carried
  · exact Option.some.inj carried

/-- Each linked exchange but the last one gave a token. -/
theorem Linked.next_ne_none {token : Option String} {es : List (Exchange κ α ε)}
    (h : Linked token es) : ∀ e ∈ es.dropLast, e.next? ≠ none := by
  induction es generalizing token with
  | nil => exact fun e he => absurd he List.not_mem_nil
  | cons e es ih =>
    cases es with
    | nil => exact fun e he => absurd he List.not_mem_nil
    | cons f fs =>
      rw [List.dropLast_cons_cons]
      refine List.forall_mem_cons.mpr ⟨?_, ih h.2⟩
      rw [h.2.1]
      exact Option.some_ne_none _

/-- **The tokens of linked exchanges** are the first one and those of the pages received, one after
    another, if only the last of them may have got none. -/
theorem Linked.tokens {token : String} {es : List (Exchange κ α ε)} (h : Linked (some token) es)
    {pages : List (Page α)}
    (received : (es.take pages.length).map Exchange.answer = pages.map .ok)
    (last : es.length ≤ pages.length + 1) :
    es.map (fun e => e.request.pageToken) <+: token :: pages.map Page.next := by
  induction es generalizing token pages with
  | nil => exact List.nil_prefix
  | cons e es ih =>
    have first : token = e.request.pageToken := Option.some.inj h.1
    rw [List.map_cons, ← first]
    refine (List.prefix_cons_inj token).mpr ?_
    cases es with
    | nil => exact List.nil_prefix
    | cons f fs =>
      cases pages with
      | nil =>
        rw [List.length_cons, List.length_cons, List.length_nil] at last
        omega
      | cons page pages =>
        -- a request follows, so the page that came had a token
        obtain ⟨answer, others⟩ := List.cons.inj received
        have next : e.next? = some page.next := by
          rw [h.2.1, next_eq_of_some answer h.2.1]
        have linked : Linked (some page.next) (f :: fs) := next ▸ h.2
        exact ih linked others (Nat.le_of_succ_le_succ last)

theorem nextAfter_eq_getLast? (token : Option String) (es : List (Exchange κ α ε)) :
    nextAfter token es = (es.getLast?.map Exchange.next?).getD token := by
  induction es generalizing token with
  | nil => rfl
  | cons e es ih =>
    rw [nextAfter, ih, List.getLast?_cons]
    cases es.getLast? <;> rfl

theorem nextAfter_append (token : Option String) (es fs : List (Exchange κ α ε)) :
    nextAfter token (es ++ fs) = nextAfter (nextAfter token es) fs := by
  induction es generalizing token with
  | nil => rfl
  | cons e es ih => exact ih _

theorem tokenAfter_append (token : String) (es fs : List (Exchange κ α ε)) :
    tokenAfter token (es ++ fs) = tokenAfter (tokenAfter token es) fs := by
  induction es generalizing token with
  | nil => rfl
  | cons e es ih =>
    rw [List.cons_append, tokenAfter, tokenAfter]
    cases e.answer with
    | ok page => exact ih _
    | error => exact ih _

/-! ## 2. Where a pager stands -/

/-- The token that a pager asks for a page with; none if it asks for no page any more. -/
def Pager.next? (p : Pager κ α ε) : Option String :=
  match p.failure with
  | some _ => none
  | none => if p.atEnd then none else some p.nextPageToken

/-- **Where a pager stands after some exchanges**: these are linked from its first request on, they
    all ask for the same, and the pager has the token that the last of them gave. -/
structure Placed (request : PageRequest κ) (es : List (Exchange κ α ε)) (p : Pager κ α ε) :
    Prop where
  linked : Linked (some request.pageToken) es
  next : nextAfter (some request.pageToken) es = p.next?
  token : p.nextPageToken = tokenAfter request.pageToken es
  same : ∀ e ∈ es, e.request.scope = request.scope
  scope : p.request.scope = request.scope

theorem placed_new (request : PageRequest κ) :
    Placed request [] (Pager.new request : Pager κ α ε) where
  linked := trivial
  next := rfl
  token := rfl
  same _ h := absurd h List.not_mem_nil
  scope := rfl

/-- A pager that asks for a page is placed after its exchange as the answer says. -/
theorem Placed.asked {request : PageRequest κ} {es : List (Exchange κ α ε)} {p q : Pager κ α ε}
    (h : Placed request es p) (sound : p.failure = none) (more : p.atEnd = false)
    {want : Option Nat} {answer : Except ε (Page α)}
    (hn : (⟨p.nextRequest want, answer⟩ : Exchange κ α ε).next? = q.next?)
    (ht : q.nextPageToken = tokenAfter p.nextPageToken [⟨p.nextRequest want, answer⟩])
    (hs : q.request.scope = p.request.scope) :
    Placed request (es ++ [⟨p.nextRequest want, answer⟩]) q where
  linked := by
    refine linked_append.mpr ⟨h.linked, ?_, trivial⟩
    rw [h.next, Pager.next?, sound, more]
    rfl
  next := by rw [nextAfter_append]; exact hn
  token := by rw [tokenAfter_append, ← h.token]; exact ht
  same e he := by
    rcases List.mem_append.mp he with he | he
    · exact h.same e he
    · rw [List.mem_singleton.mp he]
      exact h.scope
  scope := hs.trans h.scope

/-- **A step keeps a pager placed.** -/
theorem Pager.Step.placed {call : ListCall κ α ε σ} {want : Option Nat} {p q : Pager κ α ε}
    {s t : σ} {made es : List (Exchange κ α ε)} {request : PageRequest κ}
    (h : Step call want p s made q t) (hp : Placed request es p) :
    Placed request (es ++ made) q := by
  cases h with
  | stopped => rw [List.append_nil]; exact ⟨hp.linked, hp.next, hp.token, hp.same, hp.scope⟩
  | buffered => rw [List.append_nil]; exact ⟨hp.linked, hp.next, hp.token, hp.same, hp.scope⟩
  | ended => rw [List.append_nil]; exact ⟨hp.linked, hp.next, hp.token, hp.same, hp.scope⟩
  | received sound _ more =>
    refine hp.asked sound more ?_ rfl rfl
    simp only [Exchange.next?, next?, Pager.received, sound, atEnd, Bool.true_and, nextPageToken]
  | refused sound _ more => exact hp.asked sound more rfl rfl rfl

/-- **So does a walk.** -/
theorem Walk.placed {call : ListCall κ α ε σ} {p q : Pager κ α ε} {s t : σ}
    {ms : List (Moment κ α ε)} {es : List (Exchange κ α ε)} {request : PageRequest κ}
    (h : Walk call p s ms q t) (hp : Placed request es p) :
    Placed request (es ++ askedIn ms) q := by
  induction h generalizing es with
  | stay => rw [askedIn_nil, List.append_nil]; exact hp
  | step _ first _ ih =>
    rw [askedIn_append, Pager.askedIn_momentsOf, ← List.append_assoc]
    exact ih (first.placed hp)
  | handOver _ ih => exact ih ⟨hp.linked, hp.next, hp.token, hp.same, hp.scope⟩
  | resize _ _ ih => exact ih ⟨hp.linked, hp.next, hp.token, hp.same, hp.scope⟩

/-! ## 3. One call at a time -/

/-- A step asks for one page at most. -/
theorem Pager.Step.made_le {call : ListCall κ α ε σ} {want : Option Nat} {p q : Pager κ α ε}
    {s t : σ} {made : List (Exchange κ α ε)} (h : Step call want p s made q t) :
    made.length ≤ 1 := by
  cases h with
  | stopped => exact Nat.zero_le 1
  | buffered => exact Nat.zero_le 1
  | ended => exact Nat.zero_le 1
  | received => exact Nat.le_refl 1
  | refused => exact Nat.le_refl 1

/-- A step adds one exchange at most to the record of its server. -/
theorem Pager.step_record (call : ListCall κ α ε σ) (want : Option Nat) (p : Pager κ α ε)
    (s : Recorded κ α ε σ) :
    ∃ made, made.length ≤ 1 ∧
      (p.step (recorded call) want s).2.exchanges = s.exchanges ++ made := by
  obtain ⟨made, h, _⟩ := Pager.step_spec (recorded call) want p s
  exact ⟨made, h.made_le, h.record⟩

/-- So does a poll. -/
theorem ItemStream.poll_record (call : ListCall κ α ε σ) (stream : ItemStream κ α ε)
    (s : Recorded κ α ε σ) :
    ∃ made, made.length ≤ 1 ∧
      (poll (recorded call) stream s).2.2.exchanges = s.exchanges ++ made := by
  cases stream with
  | live p =>
    have same : (poll (recorded call) (.live p) s).2.2 = (p.step (recorded call) none s).2 := by
      cases hc : (p.step (recorded call) none s).1.current with
      | some a => rw [poll_live_of_item (recorded call) s hc]
      | none => exact (poll_live_of_none (recorded call) s hc).2.2
    rw [same]
    exact Pager.step_record call none p s
  | failed => exact ⟨[], Nat.zero_le 1, (List.append_nil _).symm⟩
  | ended => exact ⟨[], Nat.zero_le 1, (List.append_nil _).symm⟩

/-! ## 4. Histories -/

/-- **The chain of tokens.** A pager is used in any way and may then be polled as a stream; its
    server is recorded. The first call carries the first token, each other one the token of the
    answer right before it; none follows a failure or the last page; all ask for the same. The
    pager has the token of the last page received, or the first one. A step to the next item, or a
    poll, makes one call at most. -/
theorem calls_linked (call : ListCall κ α ε σ) (request : PageRequest κ) (server : σ)
    (actions : List Pager.Action) (n : Nat) :
    let h := Pager.history (recorded call) actions (.new request) ⟨server, []⟩
    let t := ItemStream.polls (recorded call) n (.live h.pager) h.server
    Linked (some request.pageToken) t.server.exchanges ∧
    (∀ e ∈ t.server.exchanges, e.request.scope = request.scope) ∧
    h.pager.nextPageToken = tokenAfter request.pageToken h.server.exchanges ∧
    (∃ made, made.length ≤ 1 ∧
      (h.pager.advance (recorded call) h.server).2.exchanges = h.server.exchanges ++ made) ∧
    ∃ made, made.length ≤ 1 ∧
      (ItemStream.poll (recorded call) t.stream t.server).2.2.exchanges =
        t.server.exchanges ++ made := by
  intro h t
  have w := Pager.history_walk (recorded call) actions (.new request) ⟨server, []⟩
  obtain ⟨q, wt, _⟩ := ItemStream.polls_walk (recorded call) n h.server
    (w.sound (Pager.sound_new request))
  have all := w.append wt
  have hp : Placed request h.server.exchanges h.pager := by
    rw [show h.server.exchanges = _ from w.record]
    exact w.placed (placed_new request)
  have tp : Placed request t.server.exchanges q := by
    rw [show t.server.exchanges = _ from all.record]
    exact all.placed (placed_new request)
  exact ⟨tp.linked, tp.same, hp.token, Pager.step_record call none h.pager h.server,
    ItemStream.poll_record call t.stream t.server⟩

end ControlPlane
