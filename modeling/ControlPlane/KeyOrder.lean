/-!
# Entries in the order of their keys

* `InKeyOrder` -- entries whose keys increase, so that each key stands once;
* `insertEntry` -- puts a value under a key, in place of what was there;
* `insertAll` -- puts each of some entries under its key in turn;
* `insertAll_eq_append` -- **entries that are in order already are only appended.**
-/

namespace ControlPlane

/-- Entries in the order of their keys, with each key once. -/
def InKeyOrder {α : Type} (entries : List (String × α)) : Prop :=
  entries.Pairwise fun a b => a.1 < b.1

/-- Puts a text under a key among entries in order. -/
def insertEntry {α : Type} (key : String) (value : α) : List (String × α) → List (String × α)
  | [] => [(key, value)]
  | (k, v) :: rest =>
    if key < k then (key, value) :: (k, v) :: rest
    else if key = k then (key, value) :: rest
    else (k, v) :: insertEntry key value rest

theorem mem_insertEntry {α : Type} {key : String} {value : α} {e : String × α} :
    ∀ {entries : List (String × α)}, e ∈ insertEntry key value entries →
      e = (key, value) ∨ e ∈ entries
  | [], h => by simpa [insertEntry] using h
  | (k, v) :: rest, h => by
    unfold insertEntry at h
    split at h
    · simpa using h
    · split at h
      · rcases List.mem_cons.1 h with h | h
        · exact .inl h
        · exact .inr (List.mem_cons_of_mem _ h)
      · rcases List.mem_cons.1 h with h | h
        · exact .inr (h ▸ List.mem_cons_self)
        · rcases mem_insertEntry h with h | h
          · exact .inl h
          · exact .inr (List.mem_cons_of_mem _ h)

/-- An entry put at its place leaves the others in order. -/
theorem inKeyOrder_insertEntry {α : Type} {key : String} {value : α} :
    ∀ {entries : List (String × α)}, InKeyOrder entries →
      InKeyOrder (insertEntry key value entries)
  | [], _ => by simp [insertEntry, InKeyOrder]
  | (k, v) :: rest, h => by
    obtain ⟨first, others⟩ := List.pairwise_cons.1 h
    unfold insertEntry
    split
    · rename_i less
      refine List.pairwise_cons.2 ⟨fun e he => ?_, h⟩
      rcases List.mem_cons.1 he with he | he
      · exact he ▸ less
      · exact String.lt_trans less (first e he)
    · split
      · rename_i eq
        exact List.pairwise_cons.2 ⟨fun e he => eq ▸ first e he, others⟩
      · rename_i notLess notEqual
        refine List.pairwise_cons.2 ⟨fun e he => ?_, inKeyOrder_insertEntry others⟩
        rcases mem_insertEntry he with he | he
        · subst he
          grind
        · exact first e he

/-- A key after all others goes to the end. -/
theorem insertEntry_eq_append {α : Type} {key : String} {value : α} :
    ∀ {entries : List (String × α)}, (∀ e ∈ entries, e.1 < key) →
      insertEntry key value entries = entries ++ [(key, value)]
  | [], _ => rfl
  | (k, v) :: rest, h => by
    have hk : k < key := h (k, v) List.mem_cons_self
    have ih := @insertEntry_eq_append α key value rest
      fun e he => h e (List.mem_cons_of_mem _ he)
    have notLess : ¬ key < k := fun less => String.lt_irrefl _ (String.lt_trans hk less)
    have notEqual : key ≠ k := fun eq => String.lt_irrefl _ (eq ▸ hk)
    simp [insertEntry, notLess, notEqual, ih]

/-- The entries that remain when each is put under its key in turn, after those of `acc`. -/
def insertAll {α : Type} (acc entries : List (String × α)) : List (String × α) :=
  entries.foldl (fun acc e => insertEntry e.1 e.2 acc) acc

theorem inKeyOrder_insertAll {α : Type} : ∀ {entries acc : List (String × α)},
    InKeyOrder acc → InKeyOrder (insertAll acc entries)
  | [], _, h => h
  | _ :: rest, _, h => @inKeyOrder_insertAll α rest _ (inKeyOrder_insertEntry h)

theorem insertAll_eq_append {α : Type} : ∀ {entries acc : List (String × α)},
    InKeyOrder (acc ++ entries) → insertAll acc entries = acc ++ entries
  | [], acc, _ => by simp [insertAll]
  | e :: rest, acc, h => by
    have before : ∀ x ∈ acc, x.1 < e.1 := fun x hx =>
      (List.pairwise_append.1 h).2.2 x hx e List.mem_cons_self
    have next := @insertAll_eq_append α rest (acc ++ [(e.1, e.2)])
      (by simpa [List.append_assoc] using h)
    simp only [insertAll, List.foldl_cons] at next ⊢
    rw [insertEntry_eq_append before, next]
    simp

end ControlPlane
