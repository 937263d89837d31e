import Mathlib.Data.List.Forall2
import ControlPlane.KeyOrder
import ControlPlane.Schema

/-!
# Labels in any order

The entries of labels are written one after another, and nothing says in which order:

* `insertAll_of_perm` -- **entries in any order, each put under its key, give the same labels**;
* `Rearranged` -- values that differ from others in the order of their labels at most, those of
  messages inside of them included.
-/

namespace ControlPlane

open List (Forall₂)

/-! ## 1. Entries -/

/-- A new key adds its entry and leaves the others. -/
theorem insertEntry_perm {α : Type} {key : String} (value : α) {entries : List (String × α)}
    (fresh : ∀ e ∈ entries, e.1 ≠ key) :
    (insertEntry key value entries).Perm ((key, value) :: entries) := by
  induction entries with
  | nil => exact .refl _
  | cons e rest ih =>
    obtain ⟨k, v⟩ := e
    have other : k ≠ key := fresh (k, v) List.mem_cons_self
    have later := ih fun e he => fresh e (List.mem_cons_of_mem _ he)
    rw [insertEntry]
    split
    · exact .refl _
    · rw [if_neg other.symm]
      exact (later.cons (k, v)).trans (.swap (key, value) (k, v) rest)

/-- Keys that stand once each keep all their entries. -/
theorem insertAll_perm {α : Type} {entries acc : List (String × α)}
    (once : ((acc ++ entries).map Prod.fst).Nodup) :
    (insertAll acc entries).Perm (acc ++ entries) := by
  induction entries generalizing acc with
  | nil =>
    rw [List.append_nil]
    exact .refl _
  | cons e rest ih =>
    have fresh : ∀ x ∈ acc, x.1 ≠ e.1 := by
      rw [List.map_append, List.nodup_append] at once
      intro x hx
      exact once.2.2 x.1 (List.mem_map_of_mem hx) e.1 (List.mem_map_of_mem List.mem_cons_self)
    have here := insertEntry_perm e.2 fresh
    have moved : (insertEntry e.1 e.2 acc ++ rest).Perm (acc ++ e :: rest) :=
      (here.append_right rest).trans List.perm_middle.symm
    have still : ((insertEntry e.1 e.2 acc ++ rest).map Prod.fst).Nodup :=
      (moved.map Prod.fst).nodup_iff.mpr once
    exact (ih still).trans moved

/-- The keys of entries in order stand once each. -/
theorem InKeyOrder.nodup {α : Type} {entries : List (String × α)} (ordered : InKeyOrder entries) :
    (entries.map Prod.fst).Nodup := by
  refine List.pairwise_map.mpr (ordered.imp fun {a b} less (same : a.1 = b.1) => ?_)
  exact String.lt_irrefl b.1 (same ▸ less)

/-- Entries in the order of their keys have no other such order. -/
theorem InKeyOrder.eq_of_perm {α : Type} {entries others : List (String × α)}
    (ordered : InKeyOrder entries) (ordered' : InKeyOrder others) (same : entries.Perm others) :
    entries = others :=
  same.eq_of_pairwise
    (fun _ _ _ _ less more => absurd (String.lt_trans less more) (String.lt_irrefl _))
    ordered ordered'

/-- **Entries in any order, each put under its key, give those in order.** -/
theorem insertAll_of_perm {α : Type} {entries written : List (String × α)}
    (ordered : InKeyOrder entries) (arranged : written.Perm entries) :
    insertAll [] written = entries := by
  have once : (([] ++ written).map Prod.fst).Nodup :=
    (arranged.map Prod.fst).nodup_iff.mpr ordered.nodup
  exact (inKeyOrder_insertAll List.Pairwise.nil).eq_of_perm ordered
    ((insertAll_perm once).trans arranged)

/-! ## 2. Values -/

/-- **Values that differ in the order of their labels at most**: the second holds the same as the
    first, and so do the messages inside of it, each with its labels in an order of its own. -/
inductive Rearranged : Value → Value → Prop where
  | same (v : Value) : Rearranged v v
  | labels {entries written : List (String × String)} (order : written.Perm entries) :
      Rearranged (.labels entries) (.labels written)
  | message {values written : List Value} (inner : Forall₂ Rearranged values written) :
      Rearranged (.message values) (.message written)
  | messages {items written : List (List Value)}
      (inner : Forall₂ (Forall₂ Rearranged) items written) :
      Rearranged (.messages items) (.messages written)

theorem rearranged_refl (values : List Value) : Forall₂ Rearranged values values :=
  List.forall₂_same.mpr fun v _ => .same v

namespace Rearranged

variable {w : Value}

theorem of_labels {entries : List (String × String)} (h : Rearranged (.labels entries) w) :
    ∃ written, w = .labels written ∧ written.Perm entries := by
  cases h with
  | same => exact ⟨entries, rfl, .refl _⟩
  | labels order => exact ⟨_, rfl, order⟩

theorem of_message {values : List Value} (h : Rearranged (.message values) w) :
    ∃ written, w = .message written ∧ Forall₂ Rearranged values written := by
  cases h with
  | same => exact ⟨values, rfl, rearranged_refl values⟩
  | message inner => exact ⟨_, rfl, inner⟩

theorem of_messages {items : List (List Value)} (h : Rearranged (.messages items) w) :
    ∃ written, w = .messages written ∧ Forall₂ (Forall₂ Rearranged) items written := by
  cases h with
  | same => exact ⟨items, rfl, List.forall₂_same.mpr fun values _ => rearranged_refl values⟩
  | messages inner => exact ⟨_, rfl, inner⟩

end Rearranged

end ControlPlane
