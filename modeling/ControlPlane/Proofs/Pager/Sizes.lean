import ControlPlane.Proofs.Pager.Delivery
import ControlPlane.Proofs.Pager.Faithful

/-!
# The sizes of the pages that are asked for

A pager has a configured page size, which only its caller sets. A request asks for a page of that
size, and in a take for no more than the take still wants.

* `configuredAfter` -- the size configured after some actions; `history_pageSize` -- the pager has
  it, whatever sizes were asked for meanwhile;
* `Rationed` -- requests each of which asks for the configured size or for what is wanted beyond the
  items delivered so far, whichever is less; `pull_rationed` -- **the requests of a pull are
  rationed**;
* `pull_asked_length` -- a pull makes no more requests than it wants items beyond the buffer;
* `Modest`, `pull_buffer_length` -- **against a server that gives no more than it is asked for, a
  pull leaves nothing that it fetched**; `ByOffset.modest` -- a server with offsets is such a one;
* `sizes_asked` -- all of it for every history.
-/

namespace ControlPlane

variable {κ α ε σ : Type}

/-! ## 1. The configured size -/

/-- The page size configured after an action. -/
def Pager.Action.configures (size : Int64) : Pager.Action → Int64
  | .withPageSize n => effectivePageSize n
  | .advance | .current | .take _ | .takeAll => size

/-- The page size configured after some actions. -/
def configuredAfter (size : Int64) (actions : List Pager.Action) : Int64 :=
  actions.foldl Pager.Action.configures size

theorem configuredAfter_pos {size : Int64} (positive : 0 < size) (actions : List Pager.Action) :
    0 < configuredAfter size actions := by
  induction actions generalizing size with
  | nil => exact positive
  | cons action rest ih =>
    refine ih ?_
    cases action with
    | withPageSize n => exact effectivePageSize_pos n
    | advance => exact positive
    | current => exact positive
    | take limit => exact positive
    | takeAll => exact positive

namespace Pager

section Steps

variable {call : ListCall κ α ε σ} {want : Option Nat} {p q : Pager κ α ε} {s t : σ}
  {made : List (Exchange κ α ε)}

/-- A step leaves the configured size alone. -/
theorem Step.pageSize (h : Step call want p s made q t) : q.pageSize = p.pageSize := by
  cases h with
  | stopped => rfl
  | buffered => rfl
  | ended => rfl
  | received => rfl
  | refused => rfl

/-- What is asked in a step is asked with an empty buffer. -/
theorem Step.buffer_of_made (h : Step call want p s made q t) :
    made = [] ∨ made.length = 1 ∧ p.buffer = [] := by
  cases h with
  | stopped => exact .inl rfl
  | buffered => exact .inl rfl
  | ended => exact .inl rfl
  | received _ empty => exact .inr ⟨rfl, empty⟩
  | refused _ empty => exact .inr ⟨rfl, empty⟩

/-- All that is asked in a step is its next request. -/
theorem Step.request_eq (h : Step call want p s made q t) :
    ∀ e ∈ made, e.request = p.nextRequest want := by
  intro e he
  cases h with
  | stopped => cases he
  | buffered => cases he
  | ended => cases he
  | received => rw [List.mem_singleton.mp he]
  | refused => rw [List.mem_singleton.mp he]

end Steps

theorem pull_pageSize (call : ListCall κ α ε σ) (want : Nat) (p : Pager κ α ε) (s : σ) :
    (pull call want p s).2.1.pageSize = p.pageSize := by
  induction want generalizing p s with
  | zero => rfl
  | succ want ih =>
    obtain ⟨made, first, _⟩ := step_spec call (some (want + 1)) p s
    cases item : (p.step call (some (want + 1)) s).1.current with
    | none =>
      simp only [pull, item]
      exact first.pageSize
    | some a =>
      simp only [pull, item]
      exact (ih _ _).trans first.pageSize

theorem take_pageSize (call : ListCall κ α ε σ) (limit : Nat) (p : Pager κ α ε) (s : σ) :
    (p.take call limit s).2.1.pageSize = p.pageSize := by
  cases failed : p.failure with
  | some e => simp only [take, failed]
  | none =>
    rw [take_of_sound call limit s failed]
    exact pull_pageSize call (wanted limit) p s

/-- Only an action that sets the page size changes it. -/
theorem act_pageSize (call : ListCall κ α ε σ) (action : Action) (p : Pager κ α ε) (s : σ) :
    (p.act call action s).2.1.pageSize = action.configures p.pageSize := by
  cases action with
  | advance =>
    obtain ⟨made, first, _⟩ := step_spec call none p s
    exact first.pageSize
  | current => rfl
  | take limit => exact take_pageSize call limit p s
  | takeAll => exact take_pageSize call 0 p s
  | withPageSize n => rfl

/-- **The page size of a pager is the one that its caller configured last.** -/
theorem history_pageSize (call : ListCall κ α ε σ) (actions : List Action) (p : Pager κ α ε)
    (s : σ) :
    (history call actions p s).pager.pageSize = configuredAfter p.pageSize actions := by
  induction actions generalizing p s with
  | nil => rfl
  | cons action rest ih =>
    rw [configuredAfter, List.foldl_cons, ← act_pageSize call action p s]
    exact ih _ _

end Pager

/-! ## 2. Requests without a limit -/

/-- What an item by itself is pulled with is the configured size. -/
theorem Pager.step_sizes (call : ListCall κ α ε σ) (p : Pager κ α ε) (s : σ) :
    ∀ e ∈ askedIn (p.stepMoments call none s), e.request.pageSize = p.pageSize := by
  obtain ⟨made, first, moments⟩ := step_spec call none p s
  rw [moments, askedIn_momentsOf]
  intro e he
  rw [first.request_eq e he]
  rfl

/-- **So is all that a stream asks for.** -/
theorem ItemStream.polls_sizes (call : ListCall κ α ε σ) (n : Nat) (p : Pager κ α ε) (s : σ) :
    ∀ e ∈ askedIn (polls call n (.live p) s).moments, e.request.pageSize = p.pageSize := by
  induction n generalizing p s with
  | zero => exact fun e he => absurd he List.not_mem_nil
  | succ n ih =>
    intro e he
    simp only [polls, pollMoments, askedIn_append, List.mem_append] at he
    rcases he with now | later
    · exact Pager.step_sizes call p s e now
    · cases item : (p.step call none s).1.current with
      | some a =>
        obtain ⟨made, first, _⟩ := Pager.step_spec call none p s
        rw [poll_live_of_item call s item] at later
        exact (ih _ _ e later).trans first.pageSize
      | none =>
        obtain ⟨_, ended, _⟩ := poll_live_of_none call s item
        rw [(polls_of_over call n _ ended).1] at later
        exact absurd later List.not_mem_nil

/-! ## 3. Requests within a limit -/

/-- **What is asked for is the configured size or what is wanted, whichever is less**, however large
    the count of what is wanted. -/
theorem askedSize_toInt (configured : Int64) (want : Nat) :
    (askedSize configured (some want)).toInt = min configured.toInt want := by
  by_cases less : (want : Int) < configured.toInt
  · have high := Int64.toInt_lt configured
    have same : (Int64.ofNat want).toInt = want := Int64.toInt_ofNat_of_lt (by omega)
    simp only [askedSize, if_pos less]
    omega
  · simp only [askedSize, if_neg less]
    omega

/-- **Requests that each ask for a configured size or for what is still wanted**, whichever is less;
    each delivered item leaves one item less to be wanted, and none is asked for when none is
    wanted. -/
def Rationed (size : Int) : Int → List (Moment κ α ε) → Prop
  | _, [] => True
  | want, .asked e :: ms =>
    0 < want ∧ e.request.pageSize.toInt = min size want ∧ Rationed size want ms
  | want, .delivered _ :: ms => Rationed size (want - 1) ms

namespace Rationed

variable {size want : Int} {ms ns : List (Moment κ α ε)}

theorem append (h : Rationed size want ms)
    (k : Rationed size (want - (deliveredIn ms).length) ns) : Rationed size want (ms ++ ns) := by
  induction ms generalizing want with
  | nil =>
    rw [deliveredIn_nil, List.length_nil] at k
    simpa using k
  | cons m ms ih =>
    cases m with
    | asked e => exact ⟨h.1, h.2.1, ih h.2.2 k⟩
    | delivered a =>
      refine ih h ?_
      rw [deliveredIn_delivered, List.length_cons] at k
      have same : want - 1 - ((deliveredIn ms).length : Int) =
          want - ((deliveredIn ms).length + 1 : Nat) := by omega
      rwa [same]

/-- What a request within them asks for. -/
theorem size_eq {before after : List (Moment κ α ε)} {e : Exchange κ α ε}
    (h : Rationed size want (before ++ .asked e :: after)) :
    0 < want - (deliveredIn before).length ∧
      e.request.pageSize.toInt = min size (want - (deliveredIn before).length) := by
  induction before generalizing want with
  | nil =>
    rw [deliveredIn_nil, List.length_nil, Int.natCast_zero, Int.sub_zero]
    exact ⟨h.1, h.2.1⟩
  | cons m before ih =>
    cases m with
    | asked _ => exact ih h.2.2
    | delivered a =>
      have same : want - ((deliveredIn before).length + 1 : Nat) =
          want - 1 - ((deliveredIn before).length : Int) := by omega
      rw [deliveredIn_delivered, List.length_cons, same]
      exact ih h

/-- No request asks for more than was wanted at first. -/
theorem size_le (h : Rationed size want ms) :
    ∀ e ∈ askedIn ms, e.request.pageSize.toInt ≤ want := by
  induction ms generalizing want with
  | nil => exact fun e he => absurd he List.not_mem_nil
  | cons m ms ih =>
    intro e he
    cases m with
    | asked first =>
      rcases List.mem_cons.mp he with rfl | later
      · have here := h.2.1
        omega
      · exact ih h.2.2 e later
    | delivered a =>
      have fewer := ih h e he
      omega

end Rationed

namespace Pager

/-- The requests of a step are rationed. -/
theorem Step.rationed {call : ListCall κ α ε σ} {want : Nat} {p q : Pager κ α ε} {s t : σ}
    {made : List (Exchange κ α ε)} (h : Step call (some (want + 1)) p s made q t) :
    Rationed p.pageSize.toInt (want + 1 : Nat) (momentsOf made q) := by
  have positive : (0 : Int) < (want + 1 : Nat) := by omega
  have size := askedSize_toInt p.pageSize (want + 1)
  cases h with
  | stopped => trivial
  | buffered => trivial
  | ended => trivial
  | @received page =>
    refine ⟨positive, size, ?_⟩
    show Rationed p.pageSize.toInt _ (page.items.head?.toList.map .delivered)
    cases page.items.head? with
    | none => trivial
    | some a => trivial
  | refused => exact ⟨positive, size, trivial⟩

/-- **The requests of a pull are rationed by what it wants.** -/
theorem pull_rationed (call : ListCall κ α ε σ) (want : Nat) (p : Pager κ α ε) (s : σ) :
    Rationed p.pageSize.toInt want (pullMoments call want p s) := by
  induction want generalizing p s with
  | zero => trivial
  | succ want ih =>
    obtain ⟨made, first, moments⟩ := step_spec call (some (want + 1)) p s
    simp only [pullMoments, moments]
    refine first.rationed.append ?_
    rw [deliveredIn_momentsOf]
    cases item : (p.step call (some (want + 1)) s).1.current with
    | none => trivial
    | some a =>
      have others := ih { (p.step call (some (want + 1)) s).1 with current := none }
        (p.step call (some (want + 1)) s).2
      have left : ((want + 1 : Nat) : Int) - ([a].length : Nat) = want := by
        rw [List.length_singleton]
        omega
      rw [Option.toList_some, left, ← first.pageSize]
      exact others

theorem take_rationed (call : ListCall κ α ε σ) (limit : Nat) (p : Pager κ α ε) (s : σ) :
    Rationed p.pageSize.toInt (wanted limit) (p.takeMoments call limit s) := by
  cases failed : p.failure with
  | some e =>
    simp only [takeMoments, failed]
    trivial
  | none =>
    simp only [takeMoments, failed]
    exact pull_rationed call (wanted limit) p s

/-! ## 4. How many requests -/

/-- A step that finds an item uses one up, of the buffer or of the page that it asked for. -/
theorem Step.buffer_of_found {call : ListCall κ α ε σ} {want : Option Nat} {p q : Pager κ α ε}
    {s t : σ} {made : List (Exchange κ α ε)} (h : Step call want p s made q t) {a : α}
    (found : q.current = some a) : p.buffer.length ≤ q.buffer.length + 1 := by
  cases h with
  | stopped => cases found
  | buffered _ held =>
    rw [held]
    exact Nat.le_refl _
  | ended => cases found
  | received _ empty =>
    rw [empty, List.length_nil]
    exact Nat.zero_le _
  | refused => cases found

/-- **A pull makes no more requests than it wants items beyond the buffer**, since each but the last
    brings an item. -/
theorem pull_asked_length (call : ListCall κ α ε σ) (want : Nat) (p : Pager κ α ε) (s : σ) :
    (askedIn (pullMoments call want p s)).length ≤ want - p.buffer.length := by
  induction want generalizing p s with
  | zero => exact Nat.zero_le _
  | succ want ih =>
    obtain ⟨made, first, moments⟩ := step_spec call (some (want + 1)) p s
    have one : made.length ≤ want + 1 - p.buffer.length := by
      rcases first.buffer_of_made with nothing | ⟨single, empty⟩
      · rw [nothing]
        exact Nat.zero_le _
      · rw [single, empty, List.length_nil]
        omega
    cases item : (p.step call (some (want + 1)) s).1.current with
    | none =>
      simp only [pullMoments, item, moments, List.append_nil, askedIn_momentsOf]
      exact one
    | some a =>
      have used := first.buffer_of_found item
      simp only [pullMoments, item, moments, askedIn_append, askedIn_momentsOf,
        List.length_append]
      refine Nat.le_trans (Nat.add_le_add_left (ih _ _) _) ?_
      show made.length + (want - (p.step call (some (want + 1)) s).1.buffer.length) ≤ _
      rcases first.buffer_of_made with nothing | ⟨single, empty⟩
      · rw [nothing, List.length_nil]
        omega
      · rw [single, empty, List.length_nil]
        omega

theorem take_asked_length (call : ListCall κ α ε σ) (limit : Nat) (p : Pager κ α ε) (s : σ) :
    (askedIn (p.takeMoments call limit s)).length ≤ wanted limit - p.buffer.length := by
  cases failed : p.failure with
  | some e =>
    simp only [takeMoments, failed]
    exact Nat.zero_le _
  | none =>
    simp only [takeMoments, failed]
    exact pull_asked_length call (wanted limit) p s

end Pager

/-! ## 5. Servers that give no more than they are asked for -/

/-- **A server that answers with no more items than it is asked for**, if it is asked for any. -/
def Modest (call : ListCall κ α ε σ) : Prop :=
  ∀ ⦃request : PageRequest κ⦄ ⦃s : σ⦄ ⦃page : Page α⦄ ⦃t : σ⦄, 0 < request.pageSize →
    call request s = (.ok page, t) → (page.items.length : Int) ≤ request.pageSize.toInt

theorem Modest.recorded {call : ListCall κ α ε σ} (modest : Modest call) :
    Modest (recorded call) := by
  intro request s page t positive answer
  rw [ControlPlane.recorded, Prod.mk.injEq] at answer
  exact modest positive (Prod.ext answer.1 rfl)

/-- No page is longer than is asked for. -/
theorem pageCount_le (cap : Option Nat) (asked : Int64) :
    pageCount cap asked ≤ asked.toInt.toNat := by
  cases cap with
  | none => exact Nat.le_refl _
  | some m => exact Nat.min_le_left _ _

/-- **A server with offsets as tokens is modest**, if it serves every scope. -/
theorem ByOffset.modest {call : ListCall κ α ε σ} {items : List α} {cap : Option Nat}
    {offsetOf : String → Nat} (serves : ∀ scope, ByOffset call items scope cap offsetOf) :
    Modest call := by
  intro request s page t positive answer
  obtain ⟨page', _, answer', cut⟩ := serves request.scope s rfl positive
  cases answer.symm.trans answer'
  have length := cut.length_eq
  have count := pageCount_le cap request.pageSize
  have asked : (0 : Int) < request.pageSize.toInt := Int64.lt_iff_toInt_lt.mp positive
  omega

namespace Pager

/-- Over such a server a step leaves no more in the buffer than there was or is wanted beyond it. -/
theorem Step.buffer_modest {call : ListCall κ α ε σ} (modest : Modest call) {want : Nat}
    {p q : Pager κ α ε} {s t : σ} {made : List (Exchange κ α ε)}
    (h : Step call (some (want + 1)) p s made q t) (hp : p.Sound) (positive : 0 < p.pageSize) :
    q.buffer.length - want = p.buffer.length - (want + 1) := by
  cases h with
  | stopped failed =>
    have empty : p.buffer = [] := hp (by rw [failed]; exact Option.some_ne_none _)
    simp only [empty, List.length_nil]
    omega
  | buffered _ held =>
    rw [held]
    exact (Nat.succ_sub_succ _ _).symm
  | ended _ empty =>
    simp only [empty, List.length_nil]
    omega
  | @received page _ _ empty _ answer =>
    have wants : some (want + 1) ≠ some 0 := fun none => Nat.succ_ne_zero want (Option.some.inj none)
    have least : 0 < (p.nextRequest (some (want + 1))).pageSize := askedSize_pos positive wants
    have few := modest least answer
    have asked : (p.nextRequest (some (want + 1))).pageSize.toInt =
        min p.pageSize.toInt (want + 1 : Nat) := askedSize_toInt p.pageSize (want + 1)
    show page.items.tail.length - want = p.buffer.length - (want + 1)
    rw [empty, List.length_tail, List.length_nil]
    omega
  | refused _ empty =>
    rw [empty]
    exact (Nat.zero_sub _).trans (Nat.zero_sub _).symm

/-- **A pull over such a server leaves what the buffer had beyond what is wanted**, and nothing that
    it fetched. -/
theorem pull_buffer_length {call : ListCall κ α ε σ} (modest : Modest call) (want : Nat)
    {p : Pager κ α ε} (s : σ) (hp : p.Sound) (positive : 0 < p.pageSize) :
    (pull call want p s).2.1.buffer.length = p.buffer.length - want := by
  induction want generalizing p s with
  | zero => rfl
  | succ want ih =>
    obtain ⟨made, first, _⟩ := step_spec call (some (want + 1)) p s
    have left := first.buffer_modest modest hp positive
    cases item : (p.step call (some (want + 1)) s).1.current with
    | none =>
      have empty := first.buffer_eq_nil hp item
      rw [empty] at left
      simp only [pull, item, empty, List.length_nil] at left ⊢
      omega
    | some a =>
      have still : ({ (p.step call (some (want + 1)) s).1 with current := none } :
          Pager κ α ε).Sound := first.sound hp
      have same : 0 < (p.step call (some (want + 1)) s).1.pageSize := first.pageSize ▸ positive
      simp only [pull, item]
      exact (ih _ still same).trans left

theorem take_buffer_length {call : ListCall κ α ε σ} (modest : Modest call) (limit : Nat)
    {p : Pager κ α ε} (s : σ) (hp : p.Sound) (positive : 0 < p.pageSize) :
    (p.take call limit s).2.1.buffer.length = p.buffer.length - wanted limit := by
  cases failed : p.failure with
  | some e =>
    have empty : p.buffer = [] := hp (by rw [failed]; exact Option.some_ne_none e)
    simp only [take, failed, empty, List.length_nil]
    omega
  | none =>
    rw [take_of_sound call limit s failed]
    exact pull_buffer_length modest (wanted limit) s hp positive

end Pager

/-! ## 6. Histories -/

/-- **What a pager asks for.** A pager is used in any way; its server is recorded. Its page size is
    then the one that its caller configured last, whatever was asked for meanwhile.

    Pulling one item, or polling a stream, asks for pages of that size. A request of a take asks for
    a page of that size or of as many items as the take wants beyond those that it has collected so
    far, whichever is less, and for one item at least. A take makes no more requests than it wants
    items beyond those in the buffer; over a server that never gives more than it is asked for, all
    that it leaves in the buffer was there before. -/
theorem sizes_asked (call : ListCall κ α ε σ) (request : PageRequest κ) (server : σ)
    (actions : List Pager.Action) :
    let h := Pager.history (recorded call) actions (.new request) ⟨server, []⟩
    let configured := configuredAfter (effectivePageSize request.pageSize) actions
    h.pager.pageSize = configured ∧ 0 < configured ∧
    (∃ made, (h.pager.advance (recorded call) h.server).2.exchanges = h.server.exchanges ++ made ∧
      ∀ e ∈ made, e.request.pageSize = configured) ∧
    (∀ n, ∃ made,
      (ItemStream.polls (recorded call) n (.live h.pager) h.server).server.exchanges =
        h.server.exchanges ++ made ∧
      ∀ e ∈ made, e.request.pageSize = configured) ∧
    ∀ limit,
      let taken := h.pager.take (recorded call) limit h.server
      let moments := h.pager.takeMoments (recorded call) limit h.server
      taken.2.2.exchanges = h.server.exchanges ++ askedIn moments ∧
      taken.1.items = deliveredIn moments ∧
      (∀ before e after, moments = before ++ .asked e :: after →
        1 ≤ e.request.pageSize.toInt ∧
        e.request.pageSize.toInt =
          min configured.toInt (Pager.wanted limit - (deliveredIn before).length)) ∧
      (askedIn moments).length ≤ Pager.wanted limit - h.pager.buffer.length ∧
      (Modest call → taken.2.1.buffer.length = h.pager.buffer.length - Pager.wanted limit) := by
  intro h configured
  have walk := Pager.history_walk (recorded call) actions (.new request) ⟨server, []⟩
  have holds : h.pager.Sound := walk.sound (Pager.sound_new request)
  have size : h.pager.pageSize = configured :=
    Pager.history_pageSize (recorded call) actions (.new request) ⟨server, []⟩
  have positive : 0 < configured := configuredAfter_pos (effectivePageSize_pos _) actions
  have kept : 0 < h.pager.pageSize := by
    rw [size]
    exact positive
  refine ⟨size, positive, ?_, fun n => ?_, fun limit => ?_⟩
  · have step := Pager.step_walk (recorded call) (Option.some_ne_none 0).symm h.pager h.server
    exact ⟨_, step.record, size ▸ Pager.step_sizes (recorded call) h.pager h.server⟩
  · obtain ⟨q, polled, _⟩ := ItemStream.polls_walk (recorded call) n h.server holds
    exact ⟨_, polled.record, size ▸ ItemStream.polls_sizes (recorded call) n h.pager h.server⟩
  · intro taken moments
    have rationed : Rationed configured.toInt (Pager.wanted limit) moments :=
      size ▸ Pager.take_rationed (recorded call) limit h.pager h.server
    refine ⟨(Pager.take_walk (recorded call) limit h.pager h.server).record,
      Pager.take_items (recorded call) limit h.pager h.server, fun before e after split => ?_,
      Pager.take_asked_length (recorded call) limit h.pager h.server,
      fun modest => Pager.take_buffer_length modest.recorded limit h.server holds kept⟩
    rw [split] at rationed
    obtain ⟨some, asked⟩ := rationed.size_eq
    have least : 0 < configured.toInt := Int64.lt_iff_toInt_lt.mp positive
    exact ⟨by omega, asked⟩

/-- The numbers below seven in pages of three; one was pulled, and the pages are of two now. -/
def pulledOne : Pager.History Unit Nat Unit (Recorded Unit Nat Unit Unit) :=
  Pager.history (recorded (offsets 7 none)) [.advance, .withPageSize 2] (.new ⟨(), 3, ""⟩) ⟨(), []⟩

/-- Of the two that are held a take of one leaves one; a take of four fetches two more, in one page
    of two, and leaves none. -/
theorem pulled_one_leaves :
    let left := fun limit =>
      (pulledOne.pager.take (recorded (offsets 7 none)) limit pulledOne.server).2.1.buffer.length
    pulledOne.pager.buffer = [1, 2] ∧ left 1 = 1 ∧ left 4 = 0 ∧
      ((pulledOne.pager.take (recorded (offsets 7 none)) 4 pulledOne.server).2.2.exchanges.map
        fun e => e.request.pageSize) = [3, 2] := by
  intro left
  have held : pulledOne.pager.buffer = [1, 2] := by decide +kernel
  have modest : Modest (offsets 7 none : ListCall Unit Nat Unit Unit) :=
    ByOffset.modest fun scope => offsets_byOffset (by decide) none scope
  obtain ⟨_, _, _, _, taken⟩ :=
    sizes_asked (offsets 7 none) ⟨(), 3, ""⟩ () [.advance, .withPageSize 2]
  have one : left 1 = pulledOne.pager.buffer.length - 1 := (taken 1).2.2.2.2 modest
  have four : left 4 = pulledOne.pager.buffer.length - 4 := (taken 4).2.2.2.2 modest
  rw [held] at one four
  exact ⟨held, one, four, by decide +kernel⟩

end ControlPlane
