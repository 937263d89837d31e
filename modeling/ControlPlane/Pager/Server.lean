import ControlPlane.Pager.Basic

/-!
# Servers of pages

* `scripted` -- answers in a fixed order, whatever is asked; when none is left, every call fails;
* `offsets` -- the numbers below a size, in order, with offsets as tokens;
* `recorded` -- any server, with a record of the exchanges with it.
-/

namespace ControlPlane

open Text

variable {κ α ε σ : Type}

/-! ## 1. Scripts -/

/-- The answers of a script in turn, and a failure when none is left. -/
def scripted (exhausted : ε) : ListCall κ α ε (List (Except ε (Page α)))
  | _, [] => (.error exhausted, [])
  | _, answer :: rest => (answer, rest)

/-- The failure of a script that is used up. -/
def scriptExhausted : Status := ⟨.outOfRange, "script exhausted", none⟩

/-! ## 2. Offsets as tokens -/

/-- The offset a token states; any other text states the start. -/
def offsetOfToken (token : String) : Nat := (readNat maxWord32 token).toOption.getD 0

/-- The token of an offset in a listing of `size` items. -/
def tokenOfOffset (size offset : Nat) : String :=
  if offset < size then String.ofList (decimal offset) else ""

/-- How many items a page holds: what is asked for, up to the cap. -/
def pageCount (cap : Option Nat) (asked : Int64) : Nat :=
  let n := asked.toInt.toNat
  match cap with
  | none => n
  | some m => min n m

/-- The page of `count` items from an offset on. -/
def offsetPage (size start count : Nat) : Page Nat :=
  let stop := min (start + count) size
  ⟨List.range' start (stop - start), tokenOfOffset size stop⟩

/-- The numbers below `size`, in pages of at most `cap` items. -/
def offsets (size : Nat) (cap : Option Nat) : ListCall κ Nat ε Unit := fun request s =>
  (.ok (offsetPage size (offsetOfToken request.pageToken) (pageCount cap request.pageSize)), s)

/-! ## 3. Records -/

/-- A request and its answer. -/
structure Exchange (κ α ε : Type) where
  request : PageRequest κ
  answer : Except ε (Page α)

/-- A server with a record of the exchanges with it, the latest last. -/
structure Recorded (κ α ε σ : Type) where
  server : σ
  exchanges : List (Exchange κ α ε)

/-- A server whose exchanges are recorded. -/
def recorded (call : ListCall κ α ε σ) : ListCall κ α ε (Recorded κ α ε σ) := fun request s =>
  let (answer, server) := call request s.server
  (answer, ⟨server, s.exchanges ++ [⟨request, answer⟩]⟩)

end ControlPlane
