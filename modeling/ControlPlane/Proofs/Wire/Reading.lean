import ControlPlane.Wire.Decode

/-!
# What it takes to be read

A reader tries its parts in turn and stops at the first fault, so that it gives something exactly if
each of its parts does:

* `readNested_eq_ok_iff` -- a nested content ends where its count says;
* `skipGroup_eq_ok_iff` -- one record of a group, and the records behind it;
* `mergeNumber_eq_ok_iff` to `mergeInner_eq_ok_iff` -- contents that are merged into a field;
* `mergeRecord_eq_ok_iff` -- **a record belongs to a field or is skipped.**
-/

namespace ControlPlane.Wire

open Text

theorem map_eq_ok_iff {α β : Type} {f : α → β} {x : Except Fault α} {b : β} :
    x.map f = .ok b ↔ ∃ a, x = .ok a ∧ f a = b := by
  cases x with
  | error fault =>
    refine iff_of_false (fun h => ?_) fun ⟨_, h, _⟩ => ?_
    · cases h
    · cases h
  | ok a =>
    constructor
    · exact fun h => ⟨a, rfl, Except.ok.inj h⟩
    · rintro ⟨_, ⟨⟩, rfl⟩
      rfl

/-! ## 1. Contents -/

section Contents

variable {octets rest : List UInt8}

/-- **A nested content is records that end where its count says.** -/
theorem readNested_eq_ok_iff {σ : Type} {read : σ → List UInt8 → Reading σ} {s s' : σ} :
    readNested read s octets = .ok (s', rest) ↔
      ∃ count inside, readNumber octets = .ok (count, inside) ∧ count ≤ inside.length ∧
        rest.length = inside.length - count ∧
          readRecords read (inside.length - count) inside.length s inside = .ok (s', rest) := by
  unfold readNested
  constructor
  · intro accepted
    cases counted : readNumber octets with
    | error => simp only [counted, reduceCtorEq] at accepted
    | ok number =>
      obtain ⟨count, inside⟩ := number
      simp only [counted] at accepted
      split at accepted
      · cases accepted
      · rename_i enough
        cases records : readRecords read (inside.length - count) inside.length s inside with
        | error => simp only [records, reduceCtorEq] at accepted
        | ok last =>
          simp only [records] at accepted
          split at accepted
          · rename_i left
            cases accepted
            exact ⟨count, inside, rfl, Nat.le_of_not_lt enough, left, records⟩
          · cases accepted
  · rintro ⟨count, inside, counted, enough, left, records⟩
    simp only [counted, if_neg (Nat.not_lt.mpr enough), records, left, if_true]

/-- **The records of a group**: its end, or a record that is skipped, and the records behind it. -/
theorem skipGroup_eq_ok_iff {skip : Nat → WireType → List UInt8 → Except Fault (List UInt8)}
    {number fuel : Nat} :
    skipGroup skip number (fuel + 1) octets = .ok rest ↔
      ∃ inner type after, readKey octets = .ok ((inner, type), after) ∧
        ((type = .endGroup ∧ inner = number ∧ rest = after) ∨
          (type ≠ .endGroup ∧ ∃ others, skip inner type after = .ok others ∧
            skipGroup skip number fuel others = .ok rest)) := by
  rw [skipGroup]
  constructor
  · intro accepted
    cases key : readKey octets with
    | error => simp only [key, reduceCtorEq] at accepted
    | ok read =>
      obtain ⟨⟨inner, type⟩, after⟩ := read
      simp only [key] at accepted
      refine ⟨inner, type, after, rfl, ?_⟩
      split at accepted
      · rename_i last
        split at accepted
        · rename_i same
          exact .inl ⟨last, same, (Except.ok.inj accepted).symm⟩
        · cases accepted
      · rename_i more
        cases first : skip inner type after with
        | error => simp only [first, reduceCtorEq] at accepted
        | ok others =>
          simp only [first] at accepted
          exact .inr ⟨more, others, rfl, accepted⟩
  · rintro ⟨inner, type, after, key, ⟨rfl, rfl, rfl⟩ | ⟨more, others, first, accepted⟩⟩
    · simp only [key, if_true]
    · simp only [key, if_neg more, first, accepted]

end Contents

/-! ## 2. Fields -/

section Fields

variable {inner : Inner} {depth : Nat} {type : WireType} {octets rest : List UInt8} {v : Value}

theorem expectType_eq_ok_iff {actual expected : WireType} :
    expectType actual expected = .ok () ↔ actual = expected := by
  unfold expectType
  split
  · rename_i same
    exact iff_of_true rfl same
  · rename_i other
    refine iff_of_false (fun h => ?_) other
    cases h

/-- A content of the expected type, and what is read of it. -/
theorem expected_eq_ok_iff {expected : WireType} {α : Type} {read : Reading α} {make : α → Value} :
    (match expectType type expected with
      | .error fault => .error fault
      | .ok () => read.map fun (a, rest) => (make a, rest) : Reading Value) = .ok (v, rest) ↔
      type = expected ∧ ∃ a, read = .ok (a, rest) ∧ v = make a := by
  rw [← expectType_eq_ok_iff]
  cases expectType type expected with
  | error fault =>
    refine iff_of_false (fun h => ?_) fun ⟨h, _⟩ => ?_
    · cases h
    · cases h
  | ok =>
    simp only [map_eq_ok_iff, true_and]
    constructor
    · rintro ⟨⟨a, after⟩, rfl, same⟩
      cases same
      exact ⟨a, rfl, rfl⟩
    · rintro ⟨a, rfl, rfl⟩
      exact ⟨(a, rest), rfl, rfl⟩

theorem mergeNumber_eq_ok_iff {make : Nat → Value} :
    mergeNumber type octets make = .ok (v, rest) ↔
      type = .varint ∧ ∃ n, readNumber octets = .ok (n, rest) ∧ v = make n :=
  expected_eq_ok_iff

theorem mergeText_eq_ok_iff {make : String → Value} :
    mergeText type octets make = .ok (v, rest) ↔
      type = .lengthDelimited ∧ ∃ s, readText octets = .ok (s, rest) ∧ v = make s :=
  expected_eq_ok_iff

theorem mergeInner_eq_ok_iff {t : MessageType} {values : List Value} {make : List Value → Value} :
    mergeInner inner type t values octets make = .ok (v, rest) ↔
      type = .lengthDelimited ∧
        ∃ values', readInner inner t values octets = .ok (values', rest) ∧ v = make values' :=
  expected_eq_ok_iff

/-- **A record belongs to a field, into which its content is merged, or it is skipped.** -/
theorem mergeRecord_eq_ok_iff {unknown : Unknown} {t : MessageType} {values values' : List Value} :
    mergeRecord unknown inner depth t values octets = .ok (values', rest) ↔
      ∃ number type after, readKey octets = .ok ((number, type), after) ∧
        ((∃ f v v', t.field? number = some f ∧ values[number - 1]? = some v ∧
            mergeValue inner depth f.type v type after = .ok (v', rest) ∧
              values' = values.set (number - 1) v') ∨
          ((t.field? number = none ∨ values[number - 1]? = none) ∧
            skipField unknown depth number type after = .ok rest ∧ values' = values)) := by
  unfold mergeRecord
  constructor
  · intro accepted
    cases key : readKey octets with
    | error => simp only [key, reduceCtorEq] at accepted
    | ok read =>
      obtain ⟨⟨number, type⟩, after⟩ := read
      simp only [key] at accepted
      refine ⟨number, type, after, rfl, ?_⟩
      split at accepted
      · rename_i f v known held
        obtain ⟨⟨v', others⟩, first, same⟩ := map_eq_ok_iff.mp accepted
        cases same
        cases content : mergeValue inner depth f.type v type after with
        | error => cases unknown <;> simp only [content, atField, reduceCtorEq] at first
        | ok value =>
          simp only [content, atField, Except.ok.injEq] at first
          subst first
          exact .inl ⟨f, v, v', known, held, content, rfl⟩
      · rename_i neither
        obtain ⟨others, skipped, same⟩ := map_eq_ok_iff.mp accepted
        cases same
        refine .inr ⟨?_, skipped, rfl⟩
        cases known : t.field? number with
        | none => exact .inl rfl
        | some f =>
          cases held : values[number - 1]? with
          | none => exact .inr rfl
          | some v => exact (neither f v known held).elim
  · rintro ⟨number, type, after, key, ⟨f, v, v', known, held, content, rfl⟩ | ⟨unheld, skipped, rfl⟩⟩
    · simp only [key, known, held, content, atField]
      rfl
    · simp only [key, skipped]
      rcases unheld with unheld | unheld
      · simp only [unheld]
        rfl
      · cases t.field? number <;> simp only [unheld] <;> rfl

end Fields

end ControlPlane.Wire
