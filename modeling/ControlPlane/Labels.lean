import ControlPlane.KeyOrder

/-!
# Labels

Texts under keys. The entries are kept in the order of their keys, with each key once, so two
`Labels` are equal when they hold the same entries:

* `Labels.insert` -- puts a text under a key, in place of what was there;
* `Labels.ofEntries` -- the labels that remain when each entry is put under its key in turn;
* `Labels.ofEntries_entries` -- **labels are what their own entries give**.
-/

namespace ControlPlane

/-- Texts under keys. -/
structure Labels where
  entries : List (String × String)
  inKeyOrder : InKeyOrder entries

namespace Labels

/-- No labels. -/
def empty : Labels := ⟨[], List.Pairwise.nil⟩

instance : Inhabited Labels := ⟨empty⟩

/-- Puts a text under a key, in place of what was there. -/
def insert (l : Labels) (key value : String) : Labels :=
  ⟨insertEntry key value l.entries, inKeyOrder_insertEntry l.inKeyOrder⟩

/-- The labels that remain when each entry is put under its key in turn. -/
def ofEntries (entries : List (String × String)) : Labels :=
  ⟨insertAll [] entries, inKeyOrder_insertAll List.Pairwise.nil⟩

@[ext] theorem ext {a b : Labels} (h : a.entries = b.entries) : a = b := by
  cases a; cases b; cases h; rfl

/-- **Labels are what their own entries give.** -/
@[simp] theorem ofEntries_entries (l : Labels) : ofEntries l.entries = l :=
  ext (by simpa [ofEntries] using @insertAll_eq_append String l.entries [] l.inKeyOrder)

end Labels

end ControlPlane
