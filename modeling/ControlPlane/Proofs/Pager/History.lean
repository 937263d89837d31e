import ControlPlane.Pager.Server
import ControlPlane.Pager.Stream

/-!
# Histories of a pager

What is done with a pager, one thing after another, and what happens meanwhile:

* `Moment` -- an exchange with the server or the delivery of an item, in the order they happen;
* `Pager.act`, `Pager.history` -- an action with its answer, and actions in a row;
* `ItemStream.polls` -- polls in a row of the stream that a pager was turned into;
* `Pager.Step` -- **everything a single step can do**, and what the server is asked in it;
* `Walk` -- steps in a row; in between the item in hand may be moved out and the page size may
  change. **Every history and all polls are walks** (`history_walk`, `polls_walk`), so what a step
  keeps is kept by whatever is done with a pager.
-/

namespace ControlPlane

variable {κ α ε σ : Type}

/-! ## 1. Moments -/

/-- Something that happens between a pager, its server and its caller. -/
inductive Moment (κ α ε : Type) where
  | asked (e : Exchange κ α ε)
  | delivered (a : α)

namespace Moment

def exchange? : Moment κ α ε → Option (Exchange κ α ε)
  | .asked e => some e
  | .delivered _ => none

def item? : Moment κ α ε → Option α
  | .asked _ => none
  | .delivered a => some a

end Moment

/-- The exchanges with the server, in order. -/
def askedIn (ms : List (Moment κ α ε)) : List (Exchange κ α ε) := ms.filterMap Moment.exchange?

/-- The items delivered, in order. -/
def deliveredIn (ms : List (Moment κ α ε)) : List α := ms.filterMap Moment.item?

/-- The items of an answer; a failure has none. -/
def Exchange.items (e : Exchange κ α ε) : List α :=
  match e.answer with
  | .ok page => page.items
  | .error _ => []

/-- The pages of all answers, one after another. -/
def fetched (es : List (Exchange κ α ε)) : List α := es.flatMap Exchange.items

@[simp] theorem askedIn_nil : askedIn ([] : List (Moment κ α ε)) = [] := rfl

@[simp] theorem askedIn_asked (e : Exchange κ α ε) (ms : List (Moment κ α ε)) :
    askedIn (.asked e :: ms) = e :: askedIn ms := rfl

@[simp] theorem askedIn_delivered (a : α) (ms : List (Moment κ α ε)) :
    askedIn (.delivered a :: ms) = askedIn ms := rfl

@[simp] theorem askedIn_append (ms ns : List (Moment κ α ε)) :
    askedIn (ms ++ ns) = askedIn ms ++ askedIn ns := List.filterMap_append

@[simp] theorem deliveredIn_nil : deliveredIn ([] : List (Moment κ α ε)) = [] := rfl

@[simp] theorem deliveredIn_asked (e : Exchange κ α ε) (ms : List (Moment κ α ε)) :
    deliveredIn (.asked e :: ms) = deliveredIn ms := rfl

@[simp] theorem deliveredIn_delivered (a : α) (ms : List (Moment κ α ε)) :
    deliveredIn (.delivered a :: ms) = a :: deliveredIn ms := rfl

@[simp] theorem deliveredIn_append (ms ns : List (Moment κ α ε)) :
    deliveredIn (ms ++ ns) = deliveredIn ms ++ deliveredIn ns := List.filterMap_append

@[simp] theorem fetched_nil : fetched ([] : List (Exchange κ α ε)) = [] := rfl

@[simp] theorem fetched_cons (e : Exchange κ α ε) (es : List (Exchange κ α ε)) :
    fetched (e :: es) = e.items ++ fetched es := rfl

/-! ## 2. Actions -/

namespace Pager

/-- Something that is done with a pager. -/
inductive Action where
  | advance
  | current
  | take (limit : Nat)
  | takeAll
  | withPageSize (n : Int64)
  deriving DecidableEq

/-- What comes back. -/
inductive Answer (α ε : Type) where
  /-- The item moved to, if there was one. -/
  | moved (item : Option α)
  /-- The item stood on; where there is none, it may not be asked for. -/
  | stood (item : Option α)
  | haul (h : Haul α ε)
  | resized
  deriving DecidableEq

/-- The items that an answer delivers. -/
def Answer.items : Answer α ε → List α
  | .moved item => item.toList
  | .haul h => h.items
  | .stood _ | .resized => []

/-- How many items a take may collect; zero stands for no limit. -/
def wanted (limit : Nat) : Nat := if limit = 0 then unlimited else limit

/-- Does something with a pager. -/
def act (call : ListCall κ α ε σ) : Action → Pager κ α ε → σ → Answer α ε × Pager κ α ε × σ
  | .advance, p, s =>
    let (q, t) := p.advance call s
    (.moved q.current, q, t)
  | .current, p, s => (.stood p.current, p, s)
  | .take limit, p, s =>
    let (haul, q, t) := p.take call limit s
    (.haul haul, q, t)
  | .takeAll, p, s =>
    let (haul, q, t) := p.takeAll call s
    (.haul haul, q, t)
  | .withPageSize n, p, s => (.resized, p.withPageSize n, s)

/-- What happens in a step: what the server is asked, then the delivery of an item. -/
def stepMoments (call : ListCall κ α ε σ) (want : Option Nat) (p : Pager κ α ε) (s : σ) :
    List (Moment κ α ε) :=
  let (q, record) := p.step (recorded call) want ⟨s, []⟩
  record.exchanges.map .asked ++ q.current.toList.map .delivered

/-- What happens while items are pulled, step by step as they are. -/
def pullMoments (call : ListCall κ α ε σ) : Nat → Pager κ α ε → σ → List (Moment κ α ε)
  | 0, _, _ => []
  | want + 1, p, s =>
    let (q, t) := p.step call (some (want + 1)) s
    p.stepMoments call (some (want + 1)) s ++
      match q.current with
      | none => []
      | some _ => pullMoments call want { q with current := none } t

/-- What happens in a take. -/
def takeMoments (call : ListCall κ α ε σ) (limit : Nat) (p : Pager κ α ε) (s : σ) :
    List (Moment κ α ε) :=
  match p.failure with
  | some _ => []
  | none => pullMoments call (wanted limit) p s

/-- What happens in an action. -/
def actMoments (call : ListCall κ α ε σ) : Action → Pager κ α ε → σ → List (Moment κ α ε)
  | .advance, p, s => p.stepMoments call none s
  | .take limit, p, s => p.takeMoments call limit s
  | .takeAll, p, s => p.takeMoments call 0 s
  | .current, _, _ | .withPageSize _, _, _ => []

/-- What comes of some actions: the answers, what happened, the pager and the server. -/
structure History (κ α ε σ : Type) where
  answers : List (Answer α ε)
  moments : List (Moment κ α ε)
  pager : Pager κ α ε
  server : σ

/-- The items delivered, those inside of a take that failed included. -/
def History.delivered (h : History κ α ε σ) : List α := h.answers.flatMap Answer.items

/-- Does one thing after another with a pager. -/
def history (call : ListCall κ α ε σ) : List Action → Pager κ α ε → σ → History κ α ε σ
  | [], p, s => ⟨[], [], p, s⟩
  | action :: rest, p, s =>
    let (answer, q, t) := p.act call action s
    let h := history call rest q t
    ⟨answer :: h.answers, p.actMoments call action s ++ h.moments, h.pager, h.server⟩

end Pager

/-! ## 3. Polls -/

/-- The items that an entry delivers. -/
def Entry.items : Entry α ε → List α
  | .item a => [a]
  | .failure _ | .done | .misuse _ => []

namespace ItemStream

/-- The items that a stream holds and has not delivered. -/
def buffer : ItemStream κ α ε → List α
  | .live p => p.buffer
  | .failed | .ended _ => []

/-- What happens in a poll. -/
def pollMoments (call : ListCall κ α ε σ) : ItemStream κ α ε → σ → List (Moment κ α ε)
  | .live p, s => p.stepMoments call none s
  | .failed, _ | .ended _, _ => []

/-- What comes of some polls: the entries, what happened, the stream and the server. -/
structure Polled (κ α ε σ : Type) where
  entries : List (Entry α ε)
  moments : List (Moment κ α ε)
  stream : ItemStream κ α ε
  server : σ

/-- The items delivered. -/
def Polled.delivered (t : Polled κ α ε σ) : List α := t.entries.flatMap Entry.items

/-- Polls a stream some times, whatever it answers. -/
def polls (call : ListCall κ α ε σ) : Nat → ItemStream κ α ε → σ → Polled κ α ε σ
  | 0, stream, s => ⟨[], [], stream, s⟩
  | n + 1, stream, s =>
    let (entry, next, t) := poll call stream s
    let others := polls call n next t
    ⟨entry :: others.entries, pollMoments call stream s ++ others.moments, others.stream,
      others.server⟩

end ItemStream

/-! ## 4. Steps -/

namespace Pager

/-- **What a step can do**, with the exchanges made in it: nothing after a failure; an item of the
    buffer; nothing after the last page; a page asked for and received, or refused. -/
inductive Step (call : ListCall κ α ε σ) (want : Option Nat) (p : Pager κ α ε) (s : σ) :
    List (Exchange κ α ε) → Pager κ α ε → σ → Prop where
  | stopped {e : ε} (failed : p.failure = some e) :
      Step call want p s [] { p with current := none } s
  | buffered {a : α} {rest : List α} (sound : p.failure = none) (held : p.buffer = a :: rest) :
      Step call want p s [] { p with buffer := rest, current := some a } s
  | ended (sound : p.failure = none) (empty : p.buffer = []) (last : p.atEnd = true) :
      Step call want p s [] { p with current := none } s
  | received {page : Page α} {t : σ} (sound : p.failure = none) (empty : p.buffer = [])
      (more : p.atEnd = false) (answer : call (p.nextRequest want) s = (.ok page, t)) :
      Step call want p s [⟨p.nextRequest want, .ok page⟩]
        (p.received (p.nextRequest want) (.ok page)) t
  | refused {e : ε} {t : σ} (sound : p.failure = none) (empty : p.buffer = [])
      (more : p.atEnd = false) (answer : call (p.nextRequest want) s = (.error e, t)) :
      Step call want p s [⟨p.nextRequest want, .error e⟩]
        (p.received (p.nextRequest want) (.error e)) t

/-- What happens in a step that makes some exchanges and leads to a pager. -/
def momentsOf (made : List (Exchange κ α ε)) (q : Pager κ α ε) : List (Moment κ α ε) :=
  made.map .asked ++ q.current.toList.map .delivered

@[simp] theorem askedIn_momentsOf (made : List (Exchange κ α ε)) (q : Pager κ α ε) :
    askedIn (momentsOf made q) = made := by
  have ha : ∀ es : List (Exchange κ α ε), askedIn (es.map .asked : List (Moment κ α ε)) = es :=
    fun es => by induction es with
      | nil => rfl
      | cons e es ih => simp [ih]
  cases hq : q.current <;> simp [momentsOf, hq, ha]

@[simp] theorem deliveredIn_momentsOf (made : List (Exchange κ α ε)) (q : Pager κ α ε) :
    deliveredIn (momentsOf made q) = q.current.toList := by
  have ha : ∀ es : List (Exchange κ α ε), deliveredIn (es.map .asked : List (Moment κ α ε)) = [] :=
    fun es => by induction es with
      | nil => rfl
      | cons e es ih => simp [ih]
  cases hq : q.current <;> simp [momentsOf, hq, ha]

theorem step_of_failure (call : ListCall κ α ε σ) (want : Option Nat) {p : Pager κ α ε} (s : σ)
    {e : ε} (failed : p.failure = some e) :
    p.step call want s = ({ p with current := none }, s) := by
  cases p
  subst failed
  rfl

theorem step_of_buffer (call : ListCall κ α ε σ) (want : Option Nat) {p : Pager κ α ε} (s : σ)
    {a : α} {rest : List α} (sound : p.failure = none) (held : p.buffer = a :: rest) :
    p.step call want s = ({ p with buffer := rest, current := some a }, s) := by
  cases p
  subst sound held
  rfl

theorem step_of_atEnd (call : ListCall κ α ε σ) (want : Option Nat) {p : Pager κ α ε} (s : σ)
    (sound : p.failure = none) (empty : p.buffer = []) (last : p.atEnd = true) :
    p.step call want s = ({ p with current := none }, s) := by
  cases p
  subst sound empty
  simp only [step, last, if_true]

theorem step_of_more (call : ListCall κ α ε σ) (want : Option Nat) {p : Pager κ α ε} (s : σ)
    (sound : p.failure = none) (empty : p.buffer = []) (more : p.atEnd = false) :
    p.step call want s = p.fetch call want s := by
  cases p
  subst sound empty
  simp only [step, more, Bool.false_eq_true, if_false]

/-- **Every step is one of those**, and its moments are those of its exchanges. -/
theorem step_spec (call : ListCall κ α ε σ) (want : Option Nat) (p : Pager κ α ε) (s : σ) :
    ∃ made, Step call want p s made (p.step call want s).1 (p.step call want s).2 ∧
      p.stepMoments call want s = momentsOf made (p.step call want s).1 := by
  unfold stepMoments
  cases hf : p.failure with
  | some e =>
    rw [step_of_failure call want s hf, step_of_failure (recorded call) want _ hf]
    exact ⟨[], .stopped hf, rfl⟩
  | none =>
    cases hb : p.buffer with
    | cons a rest =>
      rw [step_of_buffer call want s hf hb, step_of_buffer (recorded call) want _ hf hb]
      exact ⟨[], .buffered hf hb, rfl⟩
    | nil =>
      cases he : p.atEnd with
      | true =>
        rw [step_of_atEnd call want s hf hb he, step_of_atEnd (recorded call) want _ hf hb he]
        exact ⟨[], .ended hf hb he, rfl⟩
      | false =>
        rw [step_of_more call want s hf hb he, step_of_more (recorded call) want _ hf hb he]
        rcases hc : call (p.nextRequest want) s with ⟨answer, t⟩
        simp only [fetch, recorded, hc, List.nil_append]
        refine ⟨[⟨p.nextRequest want, answer⟩], ?_, rfl⟩
        cases answer with
        | ok page => exact .received hf hb he hc
        | error e => exact .refused hf hb he hc

end Pager

/-! ## 5. Walks -/

/-- Steps in a row, from a pager and a server to others, with what happens on the way. No step is
    made when no item is wanted any more. -/
inductive Walk (call : ListCall κ α ε σ) :
    Pager κ α ε → σ → List (Moment κ α ε) → Pager κ α ε → σ → Prop where
  | stay (p : Pager κ α ε) (s : σ) : Walk call p s [] p s
  | step {want : Option Nat} {p q r : Pager κ α ε} {s t u : σ} {made : List (Exchange κ α ε)}
      {ms : List (Moment κ α ε)} (asks : want ≠ some 0) (first : Pager.Step call want p s made q t)
      (others : Walk call q t ms r u) : Walk call p s (Pager.momentsOf made q ++ ms) r u
  /-- The item in hand is moved out. -/
  | handOver {p q : Pager κ α ε} {s t : σ} {ms : List (Moment κ α ε)}
      (others : Walk call { p with current := none } s ms q t) : Walk call p s ms q t
  | resize {p q : Pager κ α ε} {s t : σ} {ms : List (Moment κ α ε)} (n : Int64)
      (others : Walk call (p.withPageSize n) s ms q t) : Walk call p s ms q t

theorem Walk.append {call : ListCall κ α ε σ} {p q r : Pager κ α ε} {s t u : σ}
    {ms ns : List (Moment κ α ε)} (h : Walk call p s ms q t) (k : Walk call q t ns r u) :
    Walk call p s (ms ++ ns) r u := by
  induction h with
  | stay => exact k
  | step asks first _ ih => rw [List.append_assoc]; exact .step asks first (ih k)
  | handOver _ ih => exact .handOver (ih k)
  | resize n _ ih => exact .resize n (ih k)

namespace Pager

/-- A single step as a walk. -/
theorem step_walk (call : ListCall κ α ε σ) {want : Option Nat} (asks : want ≠ some 0)
    (p : Pager κ α ε) (s : σ) :
    Walk call p s (p.stepMoments call want s) (p.step call want s).1 (p.step call want s).2 := by
  obtain ⟨made, hs, hm⟩ := step_spec call want p s
  have w := Walk.step asks hs (.stay _ _)
  rw [List.append_nil] at w
  rw [hm]
  exact w

theorem pull_walk (call : ListCall κ α ε σ) (want : Nat) (p : Pager κ α ε) (s : σ) :
    Walk call p s (pullMoments call want p s) (pull call want p s).2.1
      (pull call want p s).2.2 := by
  induction want generalizing p s with
  | zero => exact .stay p s
  | succ want ih =>
    have asks : some (want + 1) ≠ some 0 := fun h => Nat.succ_ne_zero want (Option.some.inj h)
    have first := step_walk call asks p s
    rcases hst : p.step call (some (want + 1)) s with ⟨q, t⟩
    rw [hst] at first
    simp only [pull, pullMoments, hst]
    cases q.current with
    | none => rw [List.append_nil]; exact first
    | some a => exact first.append (.handOver (ih _ _))

/-- What a take collects is what it delivers. -/
theorem pull_items (call : ListCall κ α ε σ) (want : Nat) (p : Pager κ α ε) (s : σ) :
    (pull call want p s).1 = deliveredIn (pullMoments call want p s) := by
  induction want generalizing p s with
  | zero => rfl
  | succ want ih =>
    obtain ⟨made, _, hm⟩ := step_spec call (some (want + 1)) p s
    simp only [pull, pullMoments, hm, deliveredIn_append, deliveredIn_momentsOf]
    cases (p.step call (some (want + 1)) s).1.current with
    | none => rfl
    | some a => simp [ih]

/-- A take from a pager that has not failed is a pull. -/
theorem take_of_sound (call : ListCall κ α ε σ) (limit : Nat) {p : Pager κ α ε} (s : σ)
    (sound : p.failure = none) :
    p.take call limit s =
      (⟨(pull call (wanted limit) p s).1, (pull call (wanted limit) p s).2.1.failure⟩,
        (pull call (wanted limit) p s).2.1, (pull call (wanted limit) p s).2.2) := by
  simp only [take, sound]
  rfl

/-- A take reports the failure of the pager. -/
theorem take_failure (call : ListCall κ α ε σ) (limit : Nat) (p : Pager κ α ε) (s : σ) :
    (p.take call limit s).2.1.failure = (p.take call limit s).1.failure := by
  cases hf : p.failure with
  | some e => simp only [take, hf]
  | none => rw [take_of_sound call limit s hf]

theorem take_walk (call : ListCall κ α ε σ) (limit : Nat) (p : Pager κ α ε) (s : σ) :
    Walk call p s (p.takeMoments call limit s) (p.take call limit s).2.1
      (p.take call limit s).2.2 := by
  cases hf : p.failure with
  | some e =>
    simp only [take, takeMoments, hf]
    exact .stay p s
  | none =>
    rw [take_of_sound call limit s hf, takeMoments, hf]
    exact pull_walk call (wanted limit) p s

theorem take_items (call : ListCall κ α ε σ) (limit : Nat) (p : Pager κ α ε) (s : σ) :
    (p.take call limit s).1.items = deliveredIn (p.takeMoments call limit s) := by
  cases hf : p.failure with
  | some e => simp only [take, takeMoments, hf, deliveredIn_nil]
  | none =>
    rw [take_of_sound call limit s hf, takeMoments, hf]
    exact pull_items call (wanted limit) p s

/-- **An action is a walk, and its answer delivers what the walk delivers.** -/
theorem act_walk (call : ListCall κ α ε σ) (action : Action) (p : Pager κ α ε) (s : σ) :
    Walk call p s (p.actMoments call action s) (p.act call action s).2.1
        (p.act call action s).2.2 ∧
      (p.act call action s).1.items = deliveredIn (p.actMoments call action s) := by
  cases action with
  | advance =>
    refine ⟨step_walk call (Option.some_ne_none 0).symm p s, ?_⟩
    obtain ⟨made, _, hm⟩ := step_spec call none p s
    simp only [act, actMoments, advance, Answer.items, hm, deliveredIn_momentsOf]
  | current => exact ⟨.stay p s, rfl⟩
  | take limit => exact ⟨take_walk call limit p s, take_items call limit p s⟩
  | takeAll => exact ⟨take_walk call 0 p s, take_items call 0 p s⟩
  | withPageSize n => exact ⟨.resize n (.stay _ s), rfl⟩

/-- **A history is a walk.** -/
theorem history_walk (call : ListCall κ α ε σ) (actions : List Action) (p : Pager κ α ε) (s : σ) :
    Walk call p s (history call actions p s).moments (history call actions p s).pager
      (history call actions p s).server := by
  induction actions generalizing p s with
  | nil => exact .stay p s
  | cons action rest ih => exact (act_walk call action p s).1.append (ih _ _)

theorem history_delivered (call : ListCall κ α ε σ) (actions : List Action) (p : Pager κ α ε)
    (s : σ) :
    (history call actions p s).delivered = deliveredIn (history call actions p s).moments := by
  induction actions generalizing p s with
  | nil => rfl
  | cons action rest ih =>
    simp only [history, History.delivered, List.flatMap_cons, deliveredIn_append]
    rw [(act_walk call action p s).2]
    exact congrArg _ (ih _ _)

end Pager

/-! ## 6. Streams -/

namespace Pager

/-- A pager that has failed holds nothing. -/
def Sound (p : Pager κ α ε) : Prop := p.failure ≠ none → p.buffer = []

theorem sound_new (request : PageRequest κ) : (new request : Pager κ α ε).Sound := fun _ => rfl

theorem Step.sound {call : ListCall κ α ε σ} {want : Option Nat} {p q : Pager κ α ε} {s t : σ}
    {made : List (Exchange κ α ε)} (h : Step call want p s made q t) (hp : p.Sound) : q.Sound := by
  cases h with
  | stopped => exact hp
  | buffered sound => exact fun hq => absurd sound hq
  | ended sound => exact fun hq => absurd sound hq
  | received sound => exact fun hq => absurd sound hq
  | refused => exact fun _ => rfl

/-- Where a step finds no item, nothing is left in the buffer. -/
theorem Step.buffer_eq_nil {call : ListCall κ α ε σ} {want : Option Nat} {p q : Pager κ α ε}
    {s t : σ} {made : List (Exchange κ α ε)} (h : Step call want p s made q t) (hp : p.Sound)
    (none : q.current = none) : q.buffer = [] := by
  cases h with
  | stopped failed => exact hp (by rw [failed]; exact Option.some_ne_none _)
  | buffered => cases none
  | ended _ empty => exact empty
  | @received page =>
    have hp' : page.items = [] := List.head?_eq_none_iff.mp none
    show page.items.tail = []
    rw [hp', List.tail_nil]
  | refused => rfl

end Pager

theorem Walk.sound {call : ListCall κ α ε σ} {p q : Pager κ α ε} {s t : σ}
    {ms : List (Moment κ α ε)} (h : Walk call p s ms q t) (hp : p.Sound) : q.Sound := by
  induction h with
  | stay => exact hp
  | step _ first _ ih => exact ih (first.sound hp)
  | handOver _ ih => exact ih hp
  | resize _ _ ih => exact ih hp

namespace ItemStream

/-- A stream that gives nothing any more. -/
def Over : ItemStream κ α ε → Prop
  | .live _ => False
  | .failed | .ended _ => True

theorem poll_of_over (call : ListCall κ α ε σ) {stream : ItemStream κ α ε} (s : σ)
    (h : stream.Over) :
    (poll call stream s).1.items = [] ∧ pollMoments call stream s = [] ∧
      (poll call stream s).2.1.Over ∧ (poll call stream s).2.2 = s := by
  cases stream with
  | live => exact h.elim
  | failed => exact ⟨rfl, rfl, trivial, rfl⟩
  | ended => exact ⟨rfl, rfl, trivial, rfl⟩

/-- Polls after the end ask for nothing and give nothing. -/
theorem polls_of_over (call : ListCall κ α ε σ) (n : Nat) {stream : ItemStream κ α ε} (s : σ)
    (h : stream.Over) :
    (polls call n stream s).moments = [] ∧ (polls call n stream s).delivered = [] ∧
      (polls call n stream s).stream.buffer = [] ∧ (polls call n stream s).server = s := by
  induction n generalizing stream with
  | zero =>
    refine ⟨rfl, rfl, ?_, rfl⟩
    cases stream with
    | live => exact h.elim
    | failed => rfl
    | ended => rfl
  | succ n ih =>
    obtain ⟨hi, hm, ho, hs⟩ := poll_of_over call s h
    obtain ⟨ihm, ihd, ihb, ihs⟩ := ih ho
    simp only [Polled.delivered] at ihd ⊢
    simp only [polls, hi, hm, hs, List.flatMap_cons, List.nil_append] at ihm ihd ihb ihs ⊢
    exact ⟨ihm, ihd, ihb, ihs⟩

theorem poll_live_of_item (call : ListCall κ α ε σ) {p : Pager κ α ε} (s : σ) {a : α}
    (h : (p.step call none s).1.current = some a) :
    poll call (.live p) s =
      (.item a, .live { (p.step call none s).1 with current := none }, (p.step call none s).2) := by
  simp only [poll, Pager.advance, h]

theorem poll_live_of_none (call : ListCall κ α ε σ) {p : Pager κ α ε} (s : σ)
    (h : (p.step call none s).1.current = none) :
    (poll call (.live p) s).1.items = [] ∧ (poll call (.live p) s).2.1.Over ∧
      (poll call (.live p) s).2.2 = (p.step call none s).2 := by
  simp only [poll, Pager.advance, h]
  cases (p.step call none s).1.failure with
  | none => exact ⟨rfl, trivial, rfl⟩
  | some e => exact ⟨rfl, trivial, rfl⟩

/-- **All polls together are a walk** to a pager that holds what the stream still holds, and they
    deliver what the walk delivers. -/
theorem polls_walk (call : ListCall κ α ε σ) (n : Nat) {p : Pager κ α ε} (s : σ) (hp : p.Sound) :
    ∃ q, Walk call p s (polls call n (.live p) s).moments q (polls call n (.live p) s).server ∧
      (polls call n (.live p) s).stream.buffer = q.buffer ∧
      (polls call n (.live p) s).delivered = deliveredIn (polls call n (.live p) s).moments := by
  induction n generalizing p s with
  | zero => exact ⟨p, .stay p s, rfl, rfl⟩
  | succ n ih =>
    have first := Pager.step_walk call (Option.some_ne_none 0).symm p s
    obtain ⟨made, hst, hm⟩ := Pager.step_spec call none p s
    cases hc : (p.step call none s).1.current with
    | some a =>
      obtain ⟨q, hw, hb, hd⟩ := ih (p := { (p.step call none s).1 with current := none })
        (p.step call none s).2 (first.sound hp)
      simp only [Polled.delivered] at hd ⊢
      simp only [polls, poll_live_of_item call s hc, pollMoments]
      refine ⟨q, first.append (.handOver hw), hb, ?_⟩
      rw [List.flatMap_cons, deliveredIn_append, hm, Pager.deliveredIn_momentsOf, hc, hd]
      rfl
    | none =>
      obtain ⟨hi, ho, hs⟩ := poll_live_of_none call s hc
      obtain ⟨om, od, ob, os⟩ := polls_of_over call n (p.step call none s).2 ho
      simp only [Polled.delivered] at od ⊢
      simp only [polls, pollMoments, hi, om, od, ob, os, hs, List.flatMap_cons, List.append_nil]
      refine ⟨_, first, (hst.buffer_eq_nil hp hc).symm, ?_⟩
      rw [hm, Pager.deliveredIn_momentsOf, hc]
      rfl

end ItemStream

end ControlPlane
