import ControlPlane.Pager.Server
import ControlPlane.Proofs.Text.Decimal

/-!
# Servers that give a list page by page

* `Page.At` -- a page of a list from an offset on;
* `Faithful` -- a server that answers every request for a list with a page of it, at the offset that
  the request's token stands for; it may cut its pages as it likes;
* `ByOffset` -- a server with offsets as tokens, whose pages are as long as is asked for, up to its
  cap; `ByOffset.faithful` -- **it is faithful** to what stands from any offset on;
* `offsets_byOffset`, `offsets_faithful` -- the numbers below a size are given by such a server;
* `askedSize_pos`, `effectivePageSize_pos` -- no page of no items is asked for.
-/

namespace ControlPlane

open Text

variable {κ α ε σ : Type}

/-! ## 1. Pages of a list -/

/-- **A page of a list from an offset on**: some items that stand there, at least one unless the
    list ends there, and a token that is empty exactly if the list ends after them. -/
structure Page.At (page : Page α) (items : List α) (offset : Nat) : Prop where
  slice : page.items <+: items.drop offset
  progress : page.items = [] → offset = items.length
  last : page.next = "" ↔ offset + page.items.length = items.length

/-- What is left at an offset is the page and what is left after it. -/
theorem Page.At.drop_eq {page : Page α} {items : List α} {offset : Nat} (h : page.At items offset) :
    items.drop offset = page.items ++ items.drop (offset + page.items.length) := by
  obtain ⟨rest, hr⟩ := h.slice
  rw [← List.drop_drop, ← hr, List.drop_left]

/-- **A server that is faithful to a list.** `stands s token offset` says that in the state `s` of
    the server the token stands for the offset. A request for the list with such a token is answered
    with a page from there on, of any length, and the token given out stands for its end. -/
def Faithful (call : ListCall κ α ε σ) (items : List α) (scope : κ)
    (stands : σ → String → Nat → Prop) : Prop :=
  ∀ ⦃request : PageRequest κ⦄ ⦃s : σ⦄ ⦃offset : Nat⦄, request.scope = scope →
    0 < request.pageSize → stands s request.pageToken offset →
      ∃ page t, call request s = (.ok page, t) ∧ page.At items offset ∧
        (page.next ≠ "" → stands t page.next (offset + page.items.length))

/-! ## 2. Servers with offsets as tokens -/

/-- **A page of `count` items from an offset on**, of fewer only where the list ends. Its token is
    that of the offset behind it, and empty exactly if the list ends there. -/
structure Page.Cut (page : Page α) (items : List α) (offsetOf : String → Nat)
    (offset count : Nat) : Prop where
  slice : page.items = (items.drop offset).take count
  last : page.next = "" ↔ items.length ≤ offset + count
  next : page.next ≠ "" → offsetOf page.next = offset + count

/-- The length of such a page. -/
theorem Page.Cut.length_eq {page : Page α} {items : List α} {offsetOf : String → Nat}
    {offset count : Nat} (h : page.Cut items offsetOf offset count) :
    page.items.length = min count (items.length - offset) := by
  rw [h.slice, List.length_take, List.length_drop]

/-- **A server of a list with offsets as tokens.** A request is answered with the page of as many
    items as it asks for, up to the cap, from the offset of its token on. That offset may lie
    behind the end of the list. -/
def ByOffset (call : ListCall κ α ε σ) (items : List α) (scope : κ) (cap : Option Nat)
    (offsetOf : String → Nat) : Prop :=
  ∀ ⦃request : PageRequest κ⦄ (s : σ), request.scope = scope → 0 < request.pageSize →
    ∃ page t, call request s = (.ok page, t) ∧
      page.Cut items offsetOf (offsetOf request.pageToken) (pageCount cap request.pageSize)

/-- A page that is asked for holds an item, unless the cap is zero. -/
theorem pageCount_pos {cap : Option Nat} {asked : Int64} (hc : cap ≠ some 0) (ha : 0 < asked) :
    0 < pageCount cap asked := by
  have hn : 0 < asked.toInt.toNat := by
    have := Int64.lt_iff_toInt_lt.mp ha
    simp only [Int64.toInt_zero] at this
    omega
  cases cap with
  | none => exact hn
  | some m =>
    have hm : m ≠ 0 := fun h => hc (by rw [h])
    show 0 < min asked.toInt.toNat m
    omega

namespace ByOffset

variable {call : ListCall κ α ε σ} {items : List α} {scope : κ} {cap : Option Nat}
  {offsetOf : String → Nat}

theorem recorded (serves : ByOffset call items scope cap offsetOf) :
    ByOffset (recorded call) items scope cap offsetOf := by
  intro request r same positive
  obtain ⟨page, t, answer, cut⟩ := serves r.server same positive
  exact ⟨page, _, by rw [ControlPlane.recorded, answer], cut⟩

/-- **Such a server is faithful to what stands from an offset on**, also behind the end. -/
theorem faithful (serves : ByOffset call items scope cap offsetOf) (bounded : cap ≠ some 0)
    (start : Nat) :
    Faithful call (items.drop start) scope fun _ token offset =>
      offsetOf token = start + offset ∧ offset ≤ (items.drop start).length := by
  rintro request s offset same positive ⟨token, within⟩
  obtain ⟨page, t, answer, cut⟩ := serves s same positive
  have some := pageCount_pos bounded positive
  have length := cut.length_eq
  rw [token] at cut length
  rw [List.length_drop] at within
  refine ⟨page, t, answer, ⟨?_, fun none => ?_, ?_⟩, fun more => ⟨?_, ?_⟩⟩
  · rw [cut.slice, List.drop_drop]
    exact List.take_prefix _ _
  · rw [none, List.length_nil] at length
    rw [List.length_drop]
    omega
  · rw [cut.last, length, List.length_drop]
    omega
  · have inside : ¬ items.length ≤ _ := mt cut.last.mpr more
    rw [cut.next more, length]
    omega
  · rw [length, List.length_drop]
    omega

end ByOffset

/-! ## 3. The numbers below a size -/

/-- The token of an offset inside of a list is read as that offset. -/
theorem offsetOfToken_tokenOfOffset {size offset : Nat} (h : offset < size)
    (hs : size ≤ maxWord32) : offsetOfToken (tokenOfOffset size offset) = offset := by
  rw [tokenOfOffset, if_pos h, offsetOfToken, readNat_decimal (by omega)]
  rfl

theorem tokenOfOffset_eq_empty {size offset : Nat} :
    tokenOfOffset size offset = "" ↔ size ≤ offset := by
  unfold tokenOfOffset
  split
  · rename_i h
    refine ⟨fun he => ?_, fun hle => absurd h (by omega)⟩
    have := congrArg String.toList he
    rw [String.toList_ofList] at this
    exact absurd this Nat.toDigits_ne_nil
  · rename_i h
    exact ⟨fun _ => by omega, fun _ => rfl⟩

/-- **The numbers below a size are given with offsets as tokens.** -/
theorem offsets_byOffset {size : Nat} (hs : size ≤ maxWord32) (cap : Option Nat) (scope : κ) :
    ByOffset (offsets size cap : ListCall κ Nat ε Unit) (List.range size) scope cap
      offsetOfToken := by
  intro request s _ _
  generalize hc : pageCount cap request.pageSize = count
  generalize ho : offsetOfToken request.pageToken = offset
  have last : (offsetPage size offset count).next = "" ↔ size ≤ offset + count := by
    simp only [offsetPage, tokenOfOffset_eq_empty]
    omega
  refine ⟨offsetPage size offset count, s, by rw [offsets, hc, ho],
    ⟨?_, by rw [List.length_range]; exact last, fun more => ?_⟩⟩
  · have there : (List.range size).drop offset = List.range' offset (size - offset) := by
      rw [List.range_eq_range', List.drop_range', Nat.zero_add, Nat.mul_one]
    simp only [offsetPage, there]
    rcases Nat.le_total (size - offset) count with short | long
    · rw [List.take_range'_of_length_le short]
      congr 1
      omega
    · rw [List.take_range'_of_length_ge long]
      congr 1
      omega
  · have inside : offset + count < size := Nat.lt_of_not_le fun h => more (last.mpr h)
    simp only [offsetPage, Nat.min_eq_left (Nat.le_of_lt inside)]
    exact offsetOfToken_tokenOfOffset inside hs

/-- **The numbers below a size, with offsets as tokens, are given faithfully.** -/
theorem offsets_faithful {size : Nat} {cap : Option Nat} (hs : size ≤ maxWord32)
    (hc : cap ≠ some 0) (scope : κ) :
    Faithful (offsets size cap : ListCall κ Nat ε Unit) (List.range size) scope
      fun _ token offset => offsetOfToken token = offset ∧ offset ≤ size := by
  have whole : Faithful (offsets size cap : ListCall κ Nat ε Unit) ((List.range size).drop 0) scope
      _ := (offsets_byOffset hs cap scope).faithful hc 0
  simp only [List.drop_zero, Nat.zero_add, List.length_range] at whole
  exact whole

/-! ## 4. The sizes asked for -/

theorem effectivePageSize_pos (n : Int64) : 0 < effectivePageSize n := by
  unfold effectivePageSize
  split
  · assumption
  · decide

/-- **At least one item is asked for**, as long as one is wanted. -/
theorem askedSize_pos {configured : Int64} {want : Option Nat} (hc : 0 < configured)
    (hw : want ≠ some 0) : 0 < askedSize configured want := by
  cases want with
  | none => exact hc
  | some want =>
    have hn : want ≠ 0 := fun h => hw (by rw [h])
    simp only [askedSize]
    split
    · rename_i less
      have top := Int64.toInt_lt configured
      rw [Int64.lt_iff_toInt_lt, Int64.toInt_ofNat_of_lt (by omega), Int64.toInt_zero]
      omega
    · exact hc

end ControlPlane
