import ControlPlane.Proofs.Wire.Bounds
import ControlPlane.Proofs.Wire.RoundTrip

/-!
# What is accepted

Whatever the octets of a message are, if they are read at all:

* `Merged`, `mergeRecord_cases` -- all that a content does to the value of a field, and a record to
  the values of a message;
* `decode_lasting` -- **what the merging of a content keeps of each field, a reader keeps of all**;
* `decode_typed` -- **the values that are read fit the fields of their message**;
* `decode_counted` -- **what is collected from counted contents can be counted again**.
-/

namespace ControlPlane.Wire

open List (Forall₂)
open Text

/-! ## 1. Fields -/

section Fields

variable {inner : Inner} {depth : Nat} {type : WireType} {octets rest : List UInt8} {v v' : Value}

theorem mergeEntry_ok {entries : List (String × String)}
    (accepted : mergeEntry depth entries octets = .ok (v', rest)) :
    ∃ e : String × String, (labelContent e).length < 2 ^ 64 ∧
      v' = .labels (insertEntry e.1 e.2 entries) := by
  unfold mergeEntry at accepted
  cases depth with
  | zero => cases accepted
  | succ depth =>
    obtain ⟨⟨e, after⟩, read, same⟩ := map_eq_ok_iff.mp accepted
    cases same
    exact ⟨e, readLabel_bound read, rfl⟩

/-- The texts that a value holds; one of another form holds none. -/
def textsOf : Value → List String
  | .texts items => items
  | _ => []

/-- The labels that a value holds. -/
def labelsOf : Value → List (String × String)
  | .labels entries => entries
  | _ => []

/-- The messages that a value holds. -/
def messagesOf : Value → List (List Value)
  | .messages items => items
  | _ => []

theorem mergeValue_texts (v : Value) : mergeValue inner depth .texts v type =
    fun octets => mergeText type octets fun s => .texts (textsOf v ++ [s]) := by
  cases v <;> rfl

theorem mergeValue_labels (v : Value) : mergeValue inner depth .labels v type =
    mergeEntry depth (labelsOf v) := by
  cases v <;> rfl

theorem mergeValue_messages (t : MessageType) (v : Value) :
    mergeValue inner depth (.messages t) v type = fun octets =>
      mergeInner inner type t t.empty octets fun vs => .messages (messagesOf v ++ [vs]) := by
  cases v <;> rfl

/-- **What the merging of a content does to the value of a field**: `Merged inner f v v'` if it may
    turn `v` into `v'`. -/
inductive Merged (inner : Inner) : FieldType → Value → Value → Prop where
  | text {v : Value} {s : String} (short : (utf8 s).length < 2 ^ 64) : Merged inner .text v (.text s)
  | int64 {v : Value} (n : Int64) : Merged inner .int64 v (.int64 n)
  | int32 {v : Value} (n : Int32) : Merged inner .int32 v (.int32 n)
  | status {v : Value} (n : Int32) : Merged inner .status v (.int32 n)
  | flag {v : Value} (b : Bool) : Merged inner .flag v (.flag b)
  | texts {v : Value} {s : String} (short : (utf8 s).length < 2 ^ 64) :
      Merged inner .texts v (.texts (textsOf v ++ [s]))
  | labels {v : Value} {e : String × String} (short : (labelContent e).length < 2 ^ 64) :
      Merged inner .labels v (.labels (insertEntry e.1 e.2 (labelsOf v)))
  | message {t : MessageType} {v : Value} {values : List Value} {octets rest : List UInt8}
      (read : readInner inner t (valuesOf t v) octets = .ok (values, rest)) :
      Merged inner (.message t) v (.message values)
  | messages {t : MessageType} {v : Value} {values : List Value} {octets rest : List UInt8}
      (read : readInner inner t t.empty octets = .ok (values, rest)) :
      Merged inner (.messages t) v (.messages (messagesOf v ++ [values]))

/-- **A content is merged in no other way.** -/
theorem merged_of_mergeValue {f : FieldType}
    (accepted : mergeValue inner depth f v type octets = .ok (v', rest)) : Merged inner f v v' := by
  cases f with
  | text =>
    obtain ⟨_, s, read, rfl⟩ := mergeText_eq_ok_iff.mp accepted
    exact .text (readText_bound read).1
  | int64 =>
    rw [mergeValue] at accepted
    obtain ⟨_, n, _, rfl⟩ := mergeNumber_eq_ok_iff.mp accepted
    exact .int64 _
  | int32 =>
    rw [mergeValue] at accepted
    obtain ⟨_, n, _, rfl⟩ := mergeNumber_eq_ok_iff.mp accepted
    exact .int32 _
  | status =>
    rw [mergeValue] at accepted
    obtain ⟨_, n, _, rfl⟩ := mergeNumber_eq_ok_iff.mp accepted
    exact .status _
  | flag =>
    rw [mergeValue] at accepted
    obtain ⟨_, n, _, rfl⟩ := mergeNumber_eq_ok_iff.mp accepted
    exact .flag _
  | texts =>
    rw [mergeValue_texts] at accepted
    obtain ⟨_, s, read, rfl⟩ := mergeText_eq_ok_iff.mp accepted
    exact .texts (readText_bound read).1
  | labels =>
    rw [mergeValue_labels] at accepted
    obtain ⟨e, short, rfl⟩ := mergeEntry_ok accepted
    exact .labels short
  | message t =>
    obtain ⟨_, values, read, rfl⟩ := mergeInner_eq_ok_iff.mp accepted
    exact .message read
  | messages t =>
    rw [mergeValue_messages] at accepted
    obtain ⟨_, values, read, rfl⟩ := mergeInner_eq_ok_iff.mp accepted
    exact .messages read

/-- **What a record does to the values of a message**: nothing, or a content is merged into the value
    of a field. -/
theorem mergeRecord_cases {unknown : Unknown} {t : MessageType} {values values' : List Value}
    (accepted : mergeRecord unknown inner depth t values octets = .ok (values', rest)) :
    values' = values ∨
      ∃ place f v v', t.fields[place]? = some f ∧ values[place]? = some v ∧
        Merged inner f.type v v' ∧ values' = values.set place v' := by
  obtain ⟨number, type, after, _, ⟨f, v, v', known, held, merged, same⟩ | ⟨_, _, same⟩⟩ :=
    mergeRecord_eq_ok_iff.mp accepted
  · have place : t.fields[number - 1]? = some f := by
      rw [MessageType.field?] at known
      split at known
      · cases known
      · exact known
    exact .inr ⟨number - 1, f, v, v', place, held, merged_of_mergeValue merged, same⟩
  · exact .inl same

/-- What stands in a place fits, and what fits may take its place. -/
theorem forall₂_place {α β : Type} {R : α → β → Prop} {as : List α} {bs : List β} {a : α} {b : β}
    {place : Nat} (all : Forall₂ R as bs) (ha : as[place]? = some a) (hb : bs[place]? = some b) :
    R a b ∧ ∀ b', R a b' → Forall₂ R as (bs.set place b') := by
  induction all generalizing place with
  | nil => cases ha
  | cons first others ih =>
    cases place with
    | zero =>
      cases ha
      cases hb
      exact ⟨first, fun b' fits => .cons fits others⟩
    | succ place =>
      obtain ⟨held, replaced⟩ := ih ha hb
      exact ⟨held, fun b' fits => .cons first (replaced b' fits)⟩

theorem forall_of_forall₂ {α β : Type} {P : β → Prop} {as : List α} {bs : List β}
    (all : Forall₂ (fun _ b => P b) as bs) : ∀ b ∈ bs, P b := by
  induction all with
  | nil => exact fun _ h => absurd h List.not_mem_nil
  | cons first _ ih => exact List.forall_mem_cons.mpr ⟨first, ih⟩

/-- **What the merging of a content keeps of each field, the reading of a record keeps of all.** -/
theorem mergeRecord_lasting {P : FieldType → Value → Prop}
    (h : ∀ f v v', P f v → Merged inner f v v' → P f v') (unknown : Unknown) (t : MessageType) :
    Lasting (mergeRecord unknown inner depth t) fun values _ =>
      Forall₂ (fun f v => P f.type v) t.fields values := by
  intro values values' octets rest before accepted
  obtain rfl | ⟨place, f, v, v', known, held, merged, rfl⟩ := mergeRecord_cases accepted
  · exact before
  · obtain ⟨fits, replaced⟩ := forall₂_place before known held
    exact replaced v' (h f.type v v' fits merged)

/-- What holds of all that was not written holds of a message for which nothing was. -/
theorem forall₂_empty {P : FieldType → Value → Prop} (absence : ∀ f : FieldType, P f f.absence)
    (t : MessageType) : Forall₂ (fun f v => P f.type v) t.fields t.empty := by
  rw [MessageType.empty, List.forall₂_map_right_iff]
  exact List.forall₂_same.mpr fun f _ => absence f.type

/-- So does the reading of a message. -/
theorem decode_lasting {P : FieldType → Value → Prop} {unknown : Unknown} {t : MessageType}
    (records : Lasting (recordReader unknown maxDepth t) fun values _ =>
      Forall₂ (fun f v => P f.type v) t.fields values)
    (absence : ∀ f : FieldType, P f f.absence) {octets : List UInt8} {values : List Value}
    (accepted : decode unknown t octets = .ok values) :
    Forall₂ (fun f v => P f.type v) t.fields values := by
  obtain ⟨⟨values', rest⟩, read, rfl⟩ := map_eq_ok_iff.mp accepted
  exact records.readRecords _ _ (forall₂_empty absence t) read

end Fields

/-! ## 2. Values that fit -/

theorem fits_absence (nested : MessageType → List Value → Prop) (f : FieldType) :
    Fits nested f f.absence := by
  cases f with
  | text => exact .text ""
  | int64 => exact .int64 0
  | int32 => exact .int32 0
  | flag => exact .flag false
  | status => exact .status 0
  | texts => exact .texts []
  | labels => exact .labels List.Pairwise.nil
  | message t => exact .absent t
  | messages t => exact .messages fun _ h => absurd h List.not_mem_nil

/-- A content is merged into a value that fits, if what is read inside of it fits. -/
theorem Merged.fits {inner : Inner} {nested : MessageType → List Value → Prop}
    (inside : ∀ {t values octets values' rest}, values = t.empty ∨ nested t values →
      readInner inner t values octets = .ok (values', rest) → nested t values')
    {f : FieldType} {v v' : Value} (merged : Merged inner f v v') (fits : Fits nested f v) :
    Fits nested f v' := by
  cases merged with
  | text => exact .text _
  | int64 n => exact .int64 n
  | int32 n => exact .int32 n
  | status n => exact .status n
  | flag b => exact .flag b
  | texts => exact .texts _
  | labels =>
    cases fits with
    | labels ordered => exact .labels (inKeyOrder_insertEntry ordered)
  | message read =>
    cases fits with
    | absent t => exact .message (inside (.inl rfl) read)
    | message before => exact .message (inside (.inr before) read)
  | messages read =>
    cases fits with
    | messages before =>
      refine .messages fun values here => ?_
      rcases List.mem_append.mp here with here | here
      · exact before values here
      · rw [List.mem_singleton.mp here]
        exact inside (.inl rfl) read

/-- **Each record leaves values that fit.** -/
theorem recordReader_typed (unknown : Unknown) (depth : Nat) (t : MessageType) :
    Lasting (recordReader unknown depth t) fun values _ =>
      Forall₂ (fun f v => Fits (Typed depth) f.type v) t.fields values := by
  induction depth generalizing t with
  | zero =>
    refine mergeRecord_lasting (fun f v v' fits merged => merged.fits ?_ fits) unknown t
    exact fun _ read => by cases read
  | succ depth ih =>
    refine mergeRecord_lasting (fun f v v' fits merged => merged.fits ?_ fits) unknown t
    intro t values octets values' rest before read
    have fits : Forall₂ (fun f v => Fits (Typed depth) f.type v) t.fields values := by
      rcases before with rfl | typed
      · exact forall₂_empty (fits_absence _) t
      · exact typed
    exact (ih t).readNested (fun _ => fits) read

/-- **The values that are read fit the fields of their message.** -/
theorem decode_typed {unknown : Unknown} {t : MessageType} {octets : List UInt8}
    {values : List Value} (accepted : decode unknown t octets = .ok values) :
    Forall₂ (fun f v => Fits (Typed maxDepth) f.type v) t.fields values :=
  decode_lasting (recordReader_typed unknown maxDepth t) (fits_absence _) accepted

/-! ## 3. Contents that can be counted -/

/-- **A value whose texts and labels can be counted**, apart from those of messages inside of it. -/
def Counted : FieldType → Value → Prop
  | .message _, _ | .messages _, _ => True
  | _, v => Brief v

theorem counted_absence (f : FieldType) : Counted f f.absence := by
  cases f with
  | text => exact (by decide : (0 : Nat) < 2 ^ 64)
  | texts => exact fun _ h => absurd h List.not_mem_nil
  | labels => exact fun _ h => absurd h List.not_mem_nil
  | _ => trivial

/-- **A text and a label that are merged have lengths of 64 bits.** -/
theorem Merged.counted {inner : Inner} {f : FieldType} {v v' : Value} (merged : Merged inner f v v')
    (before : Counted f v) : Counted f v' := by
  cases merged with
  | text short => exact short
  | @texts v s short =>
    have held : ∀ s ∈ textsOf v, (utf8 s).length < 2 ^ 64 := by
      cases v with
      | texts => exact before
      | _ => exact fun _ h => absurd h List.not_mem_nil
    intro s' here
    rcases List.mem_append.mp here with here | here
    · exact held s' here
    · rw [List.mem_singleton.mp here]
      exact short
  | @labels v e short =>
    have held : ∀ e ∈ labelsOf v, (labelContent e).length < 2 ^ 64 := by
      cases v with
      | labels => exact before
      | _ => exact fun _ h => absurd h List.not_mem_nil
    intro e' here
    rcases mem_insertEntry here with rfl | here
    · exact short
    · exact held e' here
  | _ => trivial

/-- **What is collected from counted contents can be counted again.** -/
theorem decode_counted {unknown : Unknown} {t : MessageType} {octets : List UInt8}
    {values : List Value} (accepted : decode unknown t octets = .ok values) :
    Forall₂ (fun f v => Counted f.type v) t.fields values := by
  refine decode_lasting ?_ counted_absence accepted
  exact mergeRecord_lasting (fun f v v' before merged => merged.counted before) unknown t

end ControlPlane.Wire
