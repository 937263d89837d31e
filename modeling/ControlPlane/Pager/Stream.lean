import ControlPlane.Pager.Basic

/-!
# A listing as a stream

A pager may be turned into a stream, which is polled for one entry after another: the items, then
the failure if there was one, then the end. A stream must not be polled after its end.

* `ItemStream.poll` -- the next entry;
* `ItemStream.collect` -- the entries up to the end, or the fault of polling after it; as many as a
  take without a limit would deliver.
-/

namespace ControlPlane

/-! ## 1. Entries -/

/-- What a poll gives. -/
inductive Entry (α ε : Type) where
  | item (a : α)
  | failure (e : ε)
  | done
  /-- The stream had ended before. -/
  | misuse (words : String)
  deriving DecidableEq

/-- Whether nothing comes after an entry. -/
def Entry.isLast {α ε : Type} : Entry α ε → Bool
  | .item _ | .failure _ => false
  | .done | .misuse _ => true

/-! ## 2. Streams -/

/-- A stream of the items of a pager. -/
inductive ItemStream (κ α ε : Type) where
  | live (pager : Pager κ α ε)
  /-- The failure has been given. -/
  | failed
  /-- Nothing may be polled any more; the words are those of a poll that is made all the same. -/
  | ended (words : String)
  deriving DecidableEq

namespace ItemStream

variable {κ α ε σ : Type}

/-- The wording for a poll after the end. -/
def endedWords : String := "Unfold must not be polled after it returned `Poll::Ready(None)`"

/-- The next entry. -/
def poll (call : ListCall κ α ε σ) : ItemStream κ α ε → σ → Entry α ε × ItemStream κ α ε × σ
  | .failed, s => (.done, .ended endedWords, s)
  | .ended words, s => (.misuse words, .ended words, s)
  | .live p, s =>
    let (q, t) := p.advance call s
    match q.current, q.failure with
    | some a, _ => (.item a, .live { q with current := none }, t)
    | none, some e => (.failure e, .failed, t)
    | none, none => (.done, .ended endedWords, t)

/-- The entries that polls give up to the last, `fuel` of them at most. -/
def entries {τ : Type} (poll : τ → σ → Entry α ε × τ × σ) (isLast : Entry α ε → Bool) :
    Nat → τ → σ → List (Entry α ε) × τ × σ
  | 0, stream, s => ([], stream, s)
  | fuel + 1, stream, s =>
    let (entry, next, t) := poll stream s
    if isLast entry then ([entry], next, t)
    else
      let (others, last, u) := entries poll isLast fuel next t
      (entry :: others, last, u)

/-- The entries up to the last. -/
def collect (call : ListCall κ α ε σ) (stream : ItemStream κ α ε) (s : σ) :
    List (Entry α ε) × ItemStream κ α ε × σ :=
  entries (poll call) Entry.isLast unlimited stream s

end ItemStream

end ControlPlane
