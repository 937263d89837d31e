import Mathlib.Algebra.Order.Floor.Div
import ControlPlane.Proofs.Pager.PlainList
import ControlPlane.Proofs.Pager.Sizes

/-!
# How many calls a take makes

A server with offsets as tokens (`ByOffset`) fills its pages: each has as many items as are asked
for, up to the cap of the server, unless the list ends there. The calls of a take can then be told
beforehand.

* `rounds`, `schedule` -- how many calls it takes, where each of them starts and what it asks for;
  `schedule_last`, `schedule_more` -- a call that is the last, and one that is not;
* `pull_schedule` -- **a pull makes the calls of its schedule**, less those that the buffer spares;
* `take_rounds` -- the number of calls, and each of them, of every take from a new pager.
-/

namespace ControlPlane

open Text

variable {κ α ε σ : Type}

/-! ## 1. Rounds -/

/-- How many calls it takes to have `want` items, of which `left` are there, in pages of `unit`
    items: one at least. -/
def rounds (unit want left : Nat) : Nat := max 1 (min want left ⌈/⌉ unit)

/-- What is asked for round by round: from which offset on, and how many items. -/
def schedule (size : Int) (unit start want left : Nat) : List (Nat × Int) :=
  (List.range (rounds unit want left)).map fun i =>
    (start + i * unit, min size (want - i * unit : Nat))

/-- Where an exchange starts, and how many items it asks for. -/
def Exchange.place (offsetOf : String → Nat) (e : Exchange κ α ε) : Nat × Int :=
  (offsetOf e.request.pageToken, e.request.pageSize.toInt)

section Rounds

variable {size : Int} {unit start want left : Nat}

/-- The last round is the one whose page has all that is wanted or there. -/
theorem schedule_last (positive : 0 < unit) (enough : min want left ≤ unit) :
    schedule size unit start want left = [(start, min size want)] := by
  have few : min want left ⌈/⌉ unit ≤ 1 := by
    rw [ceilDiv_le_iff_le_mul positive, Nat.mul_one]
    exact enough
  rw [schedule, rounds, Nat.max_eq_left few]
  simp

/-- A round that is not the last has a page of `unit` items, and the others go on behind it. -/
theorem schedule_more (positive : 0 < unit) (wants : unit < want) (leaves : unit < left) :
    schedule size unit start want left =
      (start, min size want) :: schedule size unit (start + unit) (want - unit) (left - unit) := by
  have one : rounds unit want left = rounds unit (want - unit) (left - unit) + 1 := by
    have more : unit < min want left := Nat.lt_min.mpr ⟨wants, leaves⟩
    have others : min (want - unit) (left - unit) = min want left - unit := by omega
    simp only [rounds, others, Nat.ceilDiv_eq_add_pred_div]
    generalize min want left = m at more
    have first : (m + unit - 1) / unit = (m - unit + unit - 1) / unit + 1 := by
      rw [← Nat.add_div_right _ positive]
      congr 1
      omega
    have some : 1 ≤ (m - unit + unit - 1) / unit := (Nat.one_le_div_iff positive).mpr (by omega)
    omega
  rw [schedule, one, List.range_succ_eq_map, List.map_cons, List.map_map, Nat.zero_mul]
  refine congrArg _ (List.map_congr_left fun i _ => ?_)
  have next : (i + 1) * unit = unit + i * unit := by rw [Nat.succ_mul, Nat.add_comm]
  simp only [Function.comp_apply, Nat.succ_eq_add_one, next, Nat.sub_add_eq, Nat.add_assoc]

/-- Where no limit is stated, all rounds are the same: none of them comes near the largest count. -/
theorem schedule_unlimited (positive : 0 < unit) (short : size < 2 ^ 63) (few : left < 2 ^ 63) :
    schedule size unit start unlimited left =
      (List.range (max 1 (left ⌈/⌉ unit))).map fun i => (start + i * unit, size) := by
  have all : min unlimited left = left := by
    unfold unlimited maxWord64
    omega
  rw [schedule, rounds, all]
  refine List.map_congr_left fun i hi => ?_
  have before : i * unit ≤ left := by
    rcases Nat.eq_zero_or_pos i with rfl | later
    · rw [Nat.zero_mul]
      exact Nat.zero_le left
    · have round : i < left ⌈/⌉ unit := by
        have within := List.mem_range.mp hi
        omega
      rw [← not_le, ceilDiv_le_iff_le_mul positive, not_le, Nat.mul_comm] at round
      exact Nat.le_of_lt round
  have plenty : size ≤ (unlimited - i * unit : Nat) := by
    unfold unlimited maxWord64
    omega
  rw [Int.min_eq_left plenty]

end Rounds

/-! ## 2. Pulls -/

/-- A page that a pull asks for has no more items than the pull wants. -/
theorem pageCount_asked (cap : Option Nat) (configured : Int64) (want : Nat) :
    pageCount cap (askedSize configured (some want)) = min (pageCount cap configured) want := by
  have asked := askedSize_toInt configured want
  cases cap with
  | none => simp only [pageCount]; omega
  | some m => simp only [pageCount]; omega

namespace Pager

section Calls

variable {call : ListCall κ α ε σ} {items : List α} {scope : κ} {cap : Option Nat}
  {offsetOf : String → Nat}

/-- What a pager is going to ask for, when `want` items are wanted: nothing if it holds them or has
    received the last page. -/
def due (offsetOf : String → Nat) (cap : Option Nat) (length want : Nat) (p : Pager κ α ε) :
    List (Nat × Int) :=
  if p.atEnd = true ∨ want ≤ p.buffer.length then []
  else
    let start := offsetOf p.nextPageToken
    schedule p.pageSize.toInt (pageCount cap p.pageSize) start (want - p.buffer.length)
      (length - start)

/-- What is due when a page is asked for is that page and, if it has items, what is due to the pager
    behind it. -/
theorem due_received (bounded : cap ≠ some 0) {want : Nat} {p q : Pager κ α ε} {page : Page α}
    (positive : 0 < p.pageSize) (empty : p.buffer = []) (more : p.atEnd = false)
    (cut : page.Cut items offsetOf (offsetOf p.nextPageToken)
      (min (pageCount cap p.pageSize) (want + 1)))
    (behind : q.pageSize = p.pageSize ∧ q.buffer = page.items.tail ∧ q.nextPageToken = page.next ∧
      (q.atEnd = true ↔ page.next = "")) :
    p.due offsetOf cap items.length (want + 1) =
      (offsetOf p.nextPageToken, min p.pageSize.toInt (want + 1 : Nat)) ::
        match page.items.head? with
        | none => []
        | some _ => q.due offsetOf cap items.length want := by
  obtain ⟨size, buffer, token, ended⟩ := behind
  have length := cut.length_eq
  have unit : 0 < pageCount cap p.pageSize := pageCount_pos bounded positive
  rw [due, if_neg (by simp [more, empty]), empty, List.length_nil, Nat.sub_zero]
  cases held : page.items with
  | nil =>
    -- a page without items stands at the end, where nothing is left
    rw [held, List.length_nil] at length
    rw [schedule_last unit (by omega)]
    rfl
  | cons a rest =>
    rw [held, List.tail_cons] at buffer
    rw [held, List.length_cons] at length
    simp only [List.head?_cons, due, size, buffer, token, ended]
    by_cases final :
        min (want + 1) (items.length - offsetOf p.nextPageToken) ≤ pageCount cap p.pageSize
    · rw [schedule_last unit final, if_pos]
      rw [cut.last]
      omega
    · have others : page.next ≠ "" := mt cut.last.mp (by omega)
      have next : offsetOf page.next = offsetOf p.nextPageToken + pageCount cap p.pageSize := by
        rw [cut.next others]
        omega
      have wanted : want + 1 - pageCount cap p.pageSize = want - rest.length := by omega
      rw [schedule_more unit (by omega) (by omega), if_neg, next, wanted, Nat.sub_sub]
      rintro (last | enough)
      · exact others last
      · omega

/-- **A pull makes the calls of its schedule**, less those that the buffer spares. -/
theorem pull_schedule (serves : ByOffset call items scope cap offsetOf) (bounded : cap ≠ some 0)
    (want : Nat) {p : Pager κ α ε} (s : σ) (sound : p.failure = none)
    (same : p.request.scope = scope) (positive : 0 < p.pageSize) :
    (askedIn (pullMoments call want p s)).map (Exchange.place offsetOf) =
      p.due offsetOf cap items.length want := by
  induction want generalizing p s with
  | zero => rw [due, if_pos (.inr (Nat.zero_le _))]; rfl
  | succ want ih =>
    have asks : some (want + 1) ≠ some 0 := fun h => Nat.succ_ne_zero want (Option.some.inj h)
    obtain ⟨made, first, moments⟩ := step_spec call (some (want + 1)) p s
    simp only [pullMoments, moments, askedIn_append, askedIn_momentsOf, List.map_append]
    clear moments
    generalize p.step call (some (want + 1)) s = qt at first
    obtain ⟨q, t⟩ := qt
    cases first with
    | stopped failed =>
      rw [sound] at failed
      cases failed
    | @buffered a rest _ held =>
      have others := ih (p := { p with buffer := rest, current := none }) t sound same positive
      rw [List.map_nil, List.nil_append]
      refine others.trans ?_
      simp only [due, held, List.length_cons, Nat.add_le_add_iff_right, Nat.add_sub_add_right]
      rfl
    | ended _ _ last =>
      rw [due, if_pos (.inl last)]
      rfl
    | @received page _ _ empty more answer =>
      obtain ⟨page', t', served, cut⟩ :=
        @serves (p.nextRequest (some (want + 1))) s same (askedSize_pos positive asks)
      rw [answer] at served
      cases served
      have size : (p.nextRequest (some (want + 1))).pageSize.toInt =
          min p.pageSize.toInt (want + 1 : Nat) := askedSize_toInt p.pageSize (want + 1)
      rw [show pageCount cap (p.nextRequest (some (want + 1))).pageSize = _ from
        pageCount_asked cap p.pageSize (want + 1)] at cut
      rw [due_received bounded positive empty more cut
        (q := { p.received (p.nextRequest (some (want + 1))) (.ok page) with current := none })
        ⟨rfl, rfl, rfl, String.isEmpty_iff⟩]
      refine congrArg₂ List.cons (congrArg (Prod.mk _) size) ?_
      show List.map _ (askedIn (match page.items.head? with
        | none => []
        | some _ => _)) = _
      cases page.items.head? with
      | none => rfl
      | some a => exact ih _ sound same positive
    | refused _ _ _ answer =>
      obtain ⟨_, _, served, _⟩ :=
        @serves (p.nextRequest (some (want + 1))) s same (askedSize_pos positive asks)
      rw [answer] at served
      cases served

/-- A take of all items is a take of as many as can be counted. -/
theorem takeAll_eq (call : ListCall κ α ε σ) (p : Pager κ α ε) (s : σ) :
    p.takeAll call s = p.take call unlimited s := by
  have counted : unlimited ≠ 0 := by decide
  simp only [takeAll, take, if_pos, if_neg counted]

/-- **The calls of a take from a new pager are those of its schedule**, and it gives the items from
    its first offset on. -/
theorem take_schedule {request : PageRequest κ}
    (serves : ByOffset call items request.scope cap offsetOf) (bounded : cap ≠ some 0)
    {size : Int64} (positive : 0 < size) (server : σ) {limit : Nat} (some : 0 < limit) :
    let pager : Pager κ α ε := (new request).withPageSize size
    (pager.take (recorded call) limit ⟨server, []⟩).1 =
        ⟨(items.drop (offsetOf request.pageToken)).take limit, none⟩ ∧
      (pager.take (recorded call) limit ⟨server, []⟩).2.2.exchanges.map (Exchange.place offsetOf) =
        schedule size.toInt (pageCount cap size) (offsetOf request.pageToken) limit
          (items.length - offsetOf request.pageToken) := by
  intro pager
  generalize hs : offsetOf request.pageToken = start
  have count : wanted limit = limit := if_neg (Nat.ne_of_gt some)
  have sized : pager.pageSize = size := if_pos positive
  have served := serves.recorded
  have follows : Follows (items.drop start) request.scope
      (fun _ token offset => offsetOf token = start + offset ∧ offset ≤ (items.drop start).length)
      pager (⟨server, []⟩ : Recorded κ α ε σ) (.start (items.drop start)) :=
    (follows_new ⟨hs, Nat.zero_le _⟩).resize size
  have collected := (take_follows (served.faithful bounded start) limit follows).1
  have record := (take_walk (recorded call) limit pager ⟨server, []⟩).record
  have calls := pull_schedule served bounded limit (p := pager) ⟨server, []⟩ rfl rfl
    (sized.symm ▸ positive)
  have moments : pager.takeMoments (recorded call) limit ⟨server, []⟩ =
      pullMoments (recorded call) limit pager ⟨server, []⟩ := by
    conv_rhs => rw [← count]
    rfl
  have due : pager.due offsetOf cap items.length limit =
      schedule size.toInt (pageCount cap size) start limit (items.length - start) := by
    rw [Pager.due, sized, if_neg]
    · rw [← hs]
      rfl
    · rintro (last | enough)
      · cases last
      · exact absurd some (Nat.not_lt.mpr enough)
  rw [count] at collected
  rw [moments, List.nil_append] at record
  exact ⟨collected, by rw [record, calls, due]⟩

end Calls

end Pager

/-! ## 3. Takes -/

/-- **How many calls a take makes.** The server has a list with offsets as tokens, and pages of no
    more items than its cap; the pager is new, with some page size. The page size or the cap,
    whichever is less, is the length of the pages, and `left` items stand from the first offset on,
    which may lie behind the end.

    A take of up to `limit` items then gives those from the first offset on, as many as there are.
    Of its calls, one at least and no more than have to be, each starts where the page before it
    ended and asks for a whole page or for what is still wanted.

    A take of all is a take of `unlimited` items, the most that can be counted. With fewer than
    `2 ^ 63` items left, so that they can be kept in one place, it ends with all of them, and each
    of its calls asks for a whole page. -/
theorem take_rounds {call : ListCall κ α ε σ} {items : List α} {request : PageRequest κ}
    {cap : Option Nat} {offsetOf : String → Nat}
    (serves : ByOffset call items request.scope cap offsetOf) (bounded : cap ≠ some 0)
    {size : Int64} (positive : 0 < size) (server : σ) :
    let pager : Pager κ α ε := (Pager.new request).withPageSize size
    let unit := pageCount cap size
    let start := offsetOf request.pageToken
    let left := items.length - start
    (∀ limit, 0 < limit →
      let taken := pager.take (recorded call) limit ⟨server, []⟩
      taken.1 = ⟨(items.drop start).take limit, none⟩ ∧
      taken.2.2.exchanges.map (Exchange.place offsetOf) =
        (List.range (max 1 (min limit left ⌈/⌉ unit))).map fun i =>
          (start + i * unit, min size.toInt (limit - i * unit : Nat))) ∧
    pager.takeAll (recorded call) ⟨server, []⟩ =
      pager.take (recorded call) unlimited ⟨server, []⟩ ∧
    (left < 2 ^ 63 →
      let all := pager.takeAll (recorded call) ⟨server, []⟩
      all.1 = ⟨items.drop start, none⟩ ∧
      all.2.2.exchanges.map (Exchange.place offsetOf) =
        (List.range (max 1 (left ⌈/⌉ unit))).map fun i => (start + i * unit, size.toInt)) := by
  intro pager unit start left
  have limited : ∀ limit, 0 < limit →
      (pager.take (recorded call) limit ⟨server, []⟩).1 = ⟨(items.drop start).take limit, none⟩ ∧
      (pager.take (recorded call) limit ⟨server, []⟩).2.2.exchanges.map (Exchange.place offsetOf) =
        schedule size.toInt unit start limit left :=
    fun limit some => Pager.take_schedule serves bounded positive server some
  have all : pager.takeAll (recorded call) ⟨server, []⟩ =
      pager.take (recorded call) unlimited ⟨server, []⟩ := Pager.takeAll_eq (recorded call) pager _
  refine ⟨limited, all, fun few => ?_⟩
  obtain ⟨collected, calls⟩ :=
    limited unlimited (Nat.pos_of_ne_zero (ListReader.wanted_ne_zero 0))
  have whole : (items.drop start).take unlimited = items.drop start := by
    refine List.take_of_length_le ?_
    rw [List.length_drop]
    unfold unlimited maxWord64
    omega
  rw [all, ← whole]
  exact ⟨collected, calls.trans
    (schedule_unlimited (pageCount_pos bounded positive) (Int64.toInt_lt size) few)⟩

/-- Seven numbers in pages of two at most, from the third on: three of them, and all of them. -/
theorem seven_in_rounds :
    let pager : Pager Unit Nat Status := (Pager.new ⟨(), 1000, "2"⟩).withPageSize 3
    let taken := pager.take (recorded (offsets 7 (some 2))) 3 ⟨(), []⟩
    let all := pager.takeAll (recorded (offsets 7 (some 2))) ⟨(), []⟩
    taken.1 = ⟨[2, 3, 4], none⟩ ∧
    taken.2.2.exchanges.map (Exchange.place offsetOfToken) = [(2, 3), (4, 1)] ∧
    all.1 = ⟨[2, 3, 4, 5, 6], none⟩ ∧
    all.2.2.exchanges.map (Exchange.place offsetOfToken) = [(2, 3), (4, 3), (6, 3)] := by
  have serves : ByOffset (offsets 7 (some 2) : ListCall Unit Nat Status Unit) (List.range 7)
      (⟨(), 1000, "2"⟩ : PageRequest Unit).scope (some 2) offsetOfToken :=
    offsets_byOffset (by decide) (some 2) ()
  have positive : (0 : Int64) < 3 := by decide
  obtain ⟨limited, _, whole⟩ := take_rounds serves (by decide) positive ()
  obtain ⟨three, asked⟩ := limited 3 (by decide)
  obtain ⟨five, rounds⟩ := whole (by decide)
  exact ⟨three.trans (by decide), asked.trans (by decide), five.trans (by decide),
    rounds.trans (by decide)⟩

end ControlPlane
