import ControlPlane.Proofs.Client.Called
import ControlPlane.Proofs.Pager.Extent

/-!
# Calls that are answered

A call gets an answer from a session only by using up a reply of the server:

* `Session.call_ok`, `Session.list_ok` -- what an answered call, and an answered call for a page,
  leave of a session;
* `Session.Served` -- some replies were used up one by one, each by a call that was received;
* `Walk.served` -- **a walk over a session without a failure was served all its pages**.
-/

namespace ControlPlane

namespace Session

variable {s t u : Session} {m : Method} {options : CallOptions}

/-! ## 1. Calls -/

theorem exchange_ok {request : m.Request} {metadata : Metadata} {response : m.Response}
    (h : s.exchange m request metadata = (.ok response, t)) :
    ∃ reply, s.replies = reply :: t.replies ∧ reply.answer m = .ok response ∧
      t.received = s.received ++ [⟨m, request, delivered metadata⟩] := by
  unfold exchange at h
  simp only at h
  split at h
  · cases h
  split at h
  · cases h
  cases hr : s.replies with
  | nil =>
    -- the answer of a script that is used up is a failure
    rw [hr] at h
    cases h
  | cons reply rest =>
    rw [hr] at h
    simp only [List.headD_cons, Prod.mk.injEq] at h
    obtain ⟨answer, rfl⟩ := h
    exact ⟨reply, rfl, answer, rfl⟩

/-- **An answered call used up a reply, and was received with the metadata of its options.** -/
theorem call_ok {request : m.Request} {response : m.Response}
    (h : s.call m request options = (.ok response, t)) :
    ∃ reply metadata, options.metadata = .ok metadata ∧ s.replies = reply :: t.replies ∧
      reply.answer m = .ok response ∧
      t.received = s.received ++ [⟨m, request, delivered metadata⟩] := by
  unfold call at h
  simp only at h
  split at h
  · cases h
  · cases h
  split at h
  · cases h
  · rename_i metadata hm
    obtain ⟨reply, hr, hb, ht⟩ := exchange_ok h
    exact ⟨reply, metadata, hm, hr, hb, ht⟩

/-- So did an answered call for a page. -/
theorem list_ok {l : Listing} {request : PageRequest l.Scope} {page : Page l.Item}
    (h : Session.list l options request s = (.ok page, t)) :
    ∃ reply response, s.replies = reply :: t.replies ∧ reply.answer l.method = .ok response ∧
      page = l.toPage response ∧ t.received.length = s.received.length + 1 := by
  unfold list at h
  simp only [Prod.mk.injEq] at h
  obtain ⟨answer, rfl⟩ := h
  rcases hc : (s.note (requestEvent request)).call l.method (l.ofPageRequest request) options
    with ⟨_ | response, after⟩
  · rw [hc] at answer
    cases answer
  · rw [hc] at answer
    cases answer
    obtain ⟨reply, _, _, hr, hb, ht⟩ := call_ok hc
    exact ⟨reply, response, hr, hb, rfl, by rw [ht, List.length_append]; rfl⟩

/-! ## 2. Calls in a row -/

/-- A session that got some responses from the replies of the server, one call for each. -/
structure Served (m : Method) (responses : List m.Response) (s t : Session) : Prop where
  replies : ∃ used, s.replies = used ++ t.replies ∧
    used.map (fun reply => reply.body m) = responses.map .ok
  received : t.received.length = s.received.length + responses.length

theorem Served.nil (m : Method) (s : Session) : Served m [] s s := ⟨⟨[], rfl, rfl⟩, rfl⟩

theorem Served.append {here there : List m.Response} (h : Served m here s t)
    (k : Served m there t u) : Served m (here ++ there) s u where
  replies := by
    obtain ⟨used, hs, hu⟩ := h.replies
    obtain ⟨used', ks, ku⟩ := k.replies
    exact ⟨used ++ used', by rw [hs, ks, List.append_assoc], by
      rw [List.map_append, List.map_append, hu, ku]⟩
  received := by rw [k.received, h.received, List.length_append, Nat.add_assoc]

/-- The replies that were used up are the first ones, as many as there are calls. -/
theorem Served.take {responses : List m.Response} (h : Served m responses s t) :
    (s.replies.take responses.length).map (fun reply => reply.body m) = responses.map .ok := by
  obtain ⟨used, hs, hu⟩ := h.replies
  have length := congrArg List.length hu
  rw [List.length_map, List.length_map] at length
  rw [hs, ← length, List.take_left, hu]

end Session

/-! ## 3. Walks -/

section Walks

variable {l : Listing} {options : CallOptions} {p q : Pager l.Scope l.Item CallFault}
  {s t : Session}

/-- A step without a failure was served the pages that it received. -/
theorem Pager.Step.served {want : Option Nat} {made : List (Exchange l.Scope l.Item CallFault)}
    (h : Step (Session.list l options) want p s made q t) (sound : q.failure = none) :
    ∃ responses, Session.Served l.method responses s t ∧
      made.map Exchange.answer = (responses.map l.toPage).map .ok := by
  cases h with
  | stopped => exact ⟨[], .nil _ _, rfl⟩
  | buffered => exact ⟨[], .nil _ _, rfl⟩
  | ended => exact ⟨[], .nil _ _, rfl⟩
  | received _ _ _ answer =>
    obtain ⟨reply, response, hs, given, rfl, ht⟩ := Session.list_ok answer
    have hb := (Reply.answer_eq_ok.mp given).1
    exact ⟨[response], ⟨⟨[reply], hs, congrArg (· :: []) hb⟩, ht⟩, rfl⟩
  | refused => cases sound

/-- **A walk without a failure was served all the pages that it received.** -/
theorem Walk.served {ms : List (Moment l.Scope l.Item CallFault)}
    (h : Walk (Session.list l options) p s ms q t) (sound : q.failure = none) :
    ∃ responses, Session.Served l.method responses s t ∧
      (askedIn ms).map Exchange.answer = (responses.map l.toPage).map .ok := by
  induction h with
  | stay p s => exact ⟨[], .nil _ _, rfl⟩
  | step _ first others ih =>
    obtain ⟨here, h₁, ha₁⟩ := first.served (others.failure_stays sound)
    obtain ⟨there, h₂, ha₂⟩ := ih sound
    refine ⟨here ++ there, h₁.append h₂, ?_⟩
    rw [askedIn_append, Pager.askedIn_momentsOf, List.map_append, List.map_append, List.map_append,
      ha₁, ha₂]
  | handOver _ ih => exact ih sound
  | resize _ _ ih => exact ih sound

end Walks

end ControlPlane
