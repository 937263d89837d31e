import Mathlib.Data.List.Forall2
import ControlPlane.Client.Method
import ControlPlane.Proofs.Wire.Arrangement
import ControlPlane.Proofs.Wire.Scalar

/-!
# What is written is read back

* `Records` -- octets that a reader takes record by record, whatever follows them; `Records.nested`
  -- with their length before them they are read as a nested content;
* `Fits`, `Typed` -- the values that a field and a message may hold, nested to a depth at most;
* `Brief` -- a value whose contents have lengths of 64 bits, as their counts are written;
* `field_records`, `fields_records` -- the octets of a field turn its absence into its value, hence
  those of all fields turn an empty message into the message, whatever the order of labels;
* `Wire.decode_brief`, `Wire.decode_encode` -- **the values of a message are read back from its
  octets**, with its labels in any order or in that of their keys;
* `Method.decode_request`, `Method.decode_response` -- so are the requests and the responses of all
  methods.

Octets that are fewer than `2 ^ 64` as a whole have such contents only (`brief_of_mem`).
-/

namespace ControlPlane.Wire

open List (Forall₂)
open Text

/-! ## 1. Records -/

/-- **Octets that a reader takes record by record**, from one state to another. -/
inductive Records {σ : Type} (read : σ → List UInt8 → Reading σ) : σ → List UInt8 → σ → Prop where
  | nil (s : σ) : Records read s [] s
  | cons {s t u : σ} {record more : List UInt8} (present : record ≠ [])
      (first : ∀ rest, read s (record ++ rest) = .ok (t, rest)) (others : Records read t more u) :
      Records read s (record ++ more) u

namespace Records

variable {σ : Type} {read : σ → List UInt8 → Reading σ} {s t u : σ} {octets more : List UInt8}

theorem single (present : octets ≠ []) (first : ∀ rest, read s (octets ++ rest) = .ok (t, rest)) :
    Records read s octets t := by
  have one := Records.cons present first (.nil t)
  rwa [List.append_nil] at one

theorem append (h : Records read s octets t) (k : Records read t more u) :
    Records read s (octets ++ more) u := by
  induction h with
  | nil => exact k
  | cons present first _ ih =>
    rw [List.append_assoc]
    exact .cons present first (ih k)

/-- **The records are read, and what follows is left.** -/
theorem readRecords_eq (h : Records read s octets t) {fuel : Nat} (enough : octets.length ≤ fuel)
    (rest : List UInt8) :
    readRecords read rest.length fuel s (octets ++ rest) = .ok (t, rest) := by
  induction h generalizing fuel with
  | nil =>
    cases fuel with
    | zero => rfl
    | succ fuel => rw [List.nil_append, readRecords, if_neg (Nat.lt_irrefl _)]
  | @cons s t u record more present first _ ih =>
    have one : 0 < record.length := List.length_pos_iff.mpr present
    rw [List.length_append] at enough
    cases fuel with
    | zero => omega
    | succ fuel =>
      have left : rest.length < (record ++ more ++ rest).length := by
        rw [List.length_append, List.length_append]
        omega
      rw [readRecords, if_pos left, List.append_assoc, first]
      exact ih (by omega)

/-- **With their length before them they are a nested content.** -/
theorem nested (h : Records read s octets t) (short : octets.length < 2 ^ 64)
    (rest : List UInt8) :
    readNested read s (varint octets.length ++ octets ++ rest) = .ok (t, rest) := by
  have whole : (octets ++ rest).length - octets.length = rest.length := by
    rw [List.length_append]
    omega
  have enough : octets.length ≤ (octets ++ rest).length := by
    rw [List.length_append]
    omega
  rw [readNested, List.append_assoc, readNumber_varint short]
  simp only [if_neg (Nat.not_lt.mpr enough), whole, h.readRecords_eq enough rest, if_true]

end Records

/-! ## 2. Labels -/

theorem delimited_ne_nil (number : Nat) (content : List UInt8) : delimited number content ≠ [] := by
  rw [delimited, fieldKey]
  intro h
  exact varint_ne_nil _ (List.append_eq_nil_iff.mp (List.append_eq_nil_iff.mp h).1).1

/-- The content of a label is read record by record: its key, then its text. -/
theorem label_records (depth : Nat) {entry : String × String}
    (short : (labelContent entry).length < 2 ^ 64) :
    Records (mergeLabel depth) ("", "") (labelContent entry) entry := by
  obtain ⟨key, value⟩ := entry
  have part : ∀ (number : Nat) (s : String), (utf8 s).length ≤ (textual number s).length := by
    intro number s
    rw [textual, delimited, List.length_append]
    exact Nat.le_add_left _ _
  -- one of the two texts, merged into a label
  have merged : ∀ (number : Nat) (e : String × String) (s : String), number = 1 ∨ number = 2 →
      (utf8 s).length < 2 ^ 64 → ∀ rest, mergeLabel depth e (textual number s ++ rest) =
        .ok (if number = 1 then (s, e.2) else (e.1, s), rest) := by
    intro number e s known small rest
    have low : 0 < number ∧ number < 2 ^ 29 := by omega
    rw [mergeLabel, textual, delimited, List.append_assoc, List.append_assoc,
      readKey_fieldKey low.1 low.2]
    simp only [if_pos known, expectType, if_true]
    rw [← List.append_assoc, readText_counted small]
  rw [labelContent] at short ⊢
  rw [List.length_append] at short
  refine Records.append (t := (key, "")) ?_ ?_
  · by_cases empty : key = ""
    · subst empty
      exact .nil _
    · have present : key.isEmpty = false := by simpa using empty
      rw [textualUnlessEmpty, present] at short ⊢
      have small := part 1 key
      refine .single (delimited_ne_nil 1 _) (merged 1 _ key (.inl rfl) ?_)
      simp only [Bool.false_eq_true, if_false] at short
      omega
  · by_cases empty : value = ""
    · subst empty
      exact .nil _
    · have present : value.isEmpty = false := by simpa using empty
      rw [show textualUnlessEmpty 2 value = textual 2 value by
        rw [textualUnlessEmpty, present]; rfl] at short ⊢
      have small := part 2 value
      exact .single (delimited_ne_nil 2 _) (merged 2 _ value (.inr rfl) (by omega))

/-! ## 3. Values that fit -/

/-- **What a field may hold**, where `nested` says what the messages inside of it may hold. -/
inductive Fits (nested : MessageType → List Value → Prop) : FieldType → Value → Prop where
  | text (s : String) : Fits nested .text (.text s)
  | int64 (n : Int64) : Fits nested .int64 (.int64 n)
  | int32 (n : Int32) : Fits nested .int32 (.int32 n)
  | status (n : Int32) : Fits nested .status (.int32 n)
  | flag (b : Bool) : Fits nested .flag (.flag b)
  | texts (items : List String) : Fits nested .texts (.texts items)
  | labels {entries : List (String × String)} (ordered : InKeyOrder entries) :
      Fits nested .labels (.labels entries)
  | absent (t : MessageType) : Fits nested (.message t) .absent
  | message {t : MessageType} {values : List Value} (inner : nested t values) :
      Fits nested (.message t) (.message values)
  | messages {t : MessageType} {items : List (List Value)}
      (inner : ∀ values ∈ items, nested t values) : Fits nested (.messages t) (.messages items)

/-- **What a message may hold**, nested to a depth at most: one value for each of its fields. -/
def Typed : Nat → MessageType → List Value → Prop
  | 0, _, _ => False
  | depth + 1, t, values =>
    Forall₂ (fun f v => Fits (Typed depth) f.type v) t.fields values

/-- **A value whose contents all have lengths of 64 bits**, so that their counts can be written. -/
def Brief : Value → Prop
  | .text s => (utf8 s).length < 2 ^ 64
  | .texts items => ∀ s ∈ items, (utf8 s).length < 2 ^ 64
  | .labels entries => ∀ e ∈ entries, (labelContent e).length < 2 ^ 64
  | .message values => (encodeFrom 1 values).length < 2 ^ 64
  | .messages items => ∀ values ∈ items, (encodeFrom 1 values).length < 2 ^ 64
  | .int64 _ | .int32 _ | .flag _ | .absent => True

/-! ## 4. Fields -/

theorem fields_length (t : MessageType) : t.fields.length ≤ 7 := by
  cases t <;> decide

section Fields

variable {unknown : Unknown} {read : MessageType → List Value → List UInt8 → Reading (List Value)}
  {depth : Nat} {t : MessageType} {f : Field} {before after : List Field}
  {pre post : List Value}

/-- A record of a field whose content is merged into what the field holds. -/
theorem mergeRecord_eq (fields : t.fields = before ++ f :: after)
    (place : pre.length = before.length)
    {type : WireType} {content : List UInt8} {v v' : Value}
    (merges : ∀ rest, mergeValue (some read) depth f.type v type (content ++ rest) =
      .ok (v', rest)) (rest : List UInt8) :
    mergeRecord unknown (some read) depth t (pre ++ v :: post)
        (fieldKey (pre.length + 1) type ++ content ++ rest) = .ok (pre ++ v' :: post, rest) := by
  have few := fields_length t
  rw [fields, List.length_append, List.length_cons] at few
  have known : t.field? (pre.length + 1) = some f := by
    rw [MessageType.field?, if_neg (Nat.succ_ne_zero _), Nat.add_sub_cancel, fields, place]
    exact List.getElem?_append_right (Nat.le_refl _) ▸ by rw [Nat.sub_self]; rfl
  have held : (pre ++ v :: post)[pre.length + 1 - 1]? = some v := by
    rw [Nat.add_sub_cancel, List.getElem?_append_right (Nat.le_refl _), Nat.sub_self]
    rfl
  have replaced : (pre ++ v :: post).set pre.length v' = pre ++ v' :: post := by
    rw [List.set_append_right _ _ (Nat.le_refl _), Nat.sub_self]
    rfl
  rw [Nat.add_sub_cancel] at held
  have key := readKey_fieldKey (by omega : 0 < pre.length + 1) (by omega) type (content ++ rest)
  rw [mergeRecord, List.append_assoc, key]
  simp only [known, Nat.add_sub_cancel, held, merges, atField, Except.map, replaced]

/-- So the record, and records after it. -/
theorem record_of_merge (fields : t.fields = before ++ f :: after)
    (place : pre.length = before.length) {type : WireType} {content more : List UInt8}
    {v v' : Value} {values : List Value}
    (merges : ∀ rest, mergeValue (some read) depth f.type v type (content ++ rest) =
      .ok (v', rest))
    (others : Records (mergeRecord unknown (some read) depth t) (pre ++ v' :: post) more values) :
    Records (mergeRecord unknown (some read) depth t) (pre ++ v :: post)
      (fieldKey (pre.length + 1) type ++ content ++ more) values := by
  refine .cons (fun empty => ?_) (mergeRecord_eq fields place merges) others
  exact varint_ne_nil _ (List.append_eq_nil_iff.mp empty).1

theorem mergeNumber_varint {n : Nat} (h : n < 2 ^ 64) (make : Nat → Value) (rest : List UInt8) :
    mergeNumber .varint (varint n ++ rest) make = .ok (make n, rest) := by
  rw [mergeNumber, readNumber_varint h]
  rfl

theorem mergeText_counted {s : String} (h : (utf8 s).length < 2 ^ 64) (make : String → Value)
    (rest : List UInt8) :
    mergeText .lengthDelimited (varint (utf8 s).length ++ utf8 s ++ rest) make =
      .ok (make s, rest) := by
  rw [mergeText, readText_counted h]
  rfl

theorem mergeInner_counted {inner : MessageType} {values values' : List Value}
    {octets : List UInt8} (records : Records (read inner) values octets values')
    (short : octets.length < 2 ^ 64) (make : List Value → Value) (rest : List UInt8) :
    mergeInner (some read) .lengthDelimited inner values (varint octets.length ++ octets ++ rest)
      make = .ok (make values', rest) := by
  rw [mergeInner, readInner, records.nested short]
  rfl

/-- The octets of a content are fewer than those of its field. -/
theorem length_le_delimited (number : Nat) (content : List UInt8) :
    content.length ≤ (delimited number content).length := by
  rw [delimited, List.length_append]
  exact Nat.le_add_left _ _

/-- The contents of a field that collects are merged one after another. -/
theorem collect_records {α : Type} (content : α → List UInt8) (collected : List α → Value)
    (fields : t.fields = before ++ f :: after) (place : pre.length = before.length)
    {items : List α} (merges : ∀ done a others, items = done ++ a :: others → ∀ rest,
      mergeValue (some read) depth f.type (collected done) .lengthDelimited
        (varint (content a).length ++ content a ++ rest) = .ok (collected (done ++ [a]), rest)) :
    Records (mergeRecord unknown (some read) depth t) (pre ++ collected [] :: post)
      (items.flatMap fun a => delimited (pre.length + 1) (content a))
      (pre ++ collected items :: post) := by
  -- the induction is on the items that are left, behind those that are merged
  have left : ∀ others done, items = done ++ others →
      Records (mergeRecord unknown (some read) depth t) (pre ++ collected done :: post)
        (others.flatMap fun a => delimited (pre.length + 1) (content a))
        (pre ++ collected items :: post) := by
    intro others
    induction others with
    | nil =>
      intro done split
      rw [List.append_nil] at split
      rw [split]
      exact .nil _
    | cons a others ih =>
      intro done split
      have records := ih (done ++ [a]) (by rw [split, List.append_assoc]; rfl)
      rw [List.flatMap_cons, delimited, List.append_assoc (fieldKey _ _)]
      exact record_of_merge fields place (merges done a others split) records
  exact left items [] rfl

/-- The octets of several messages, of which each was written in a form of its own. -/
theorem encodeItems_eq (number : Nat) {items written : List (List Value)}
    (same : items.length = written.length) :
    encodeItems number written =
      (items.zip written).flatMap fun item => delimited number (encodeFrom 1 item.2) := by
  induction written generalizing items with
  | nil =>
    rw [List.zip_nil_right]
    rw [encodeItems, List.flatMap_nil]
  | cons form rest ih =>
    cases items with
    | nil => cases same
    | cons values items =>
      rw [encodeItems, List.zip_cons_cons, List.flatMap_cons, ih (Nat.succ.inj same)]

/-- The octets of one content are fewer than those of all. -/
theorem length_collected {α : Type} (content : α → List UInt8) (number : Nat) {items : List α}
    {a : α} (h : a ∈ items) :
    (content a).length ≤ (items.flatMap fun a => delimited number (content a)).length := by
  obtain ⟨done, others, rfl⟩ := List.append_of_mem h
  have one := length_le_delimited number (content a)
  rw [List.flatMap_append, List.flatMap_cons, List.length_append, List.length_append]
  omega

/-- What a field needs of the messages inside of it: in any order of their labels, the octets of
    each turn an empty message into it. -/
def Inside (read : MessageType → List Value → List UInt8 → Reading (List Value))
    (nested : MessageType → List Value → Prop) : Prop :=
  ∀ inner values written, nested inner values → Forall₂ Rearranged values written →
    (encodeFrom 1 written).length < 2 ^ 64 →
      Records (read inner) inner.empty (encodeFrom 1 written) values

/-- The contents of labels are merged one after another: what is held are the entries so far, each
    under its key. -/
theorem labels_records {name : String} {written : List (String × String)}
    (fields : t.fields = before ++ ⟨name, .labels⟩ :: after) (place : pre.length = before.length)
    (short : ∀ e ∈ written, (labelContent e).length < 2 ^ 64) :
    Records (mergeRecord unknown (some read) (depth + 1) t) (pre ++ .labels [] :: post)
      (written.flatMap fun e => delimited (pre.length + 1) (labelContent e))
      (pre ++ .labels (insertAll [] written) :: post) := by
  refine collect_records labelContent (fun done => .labels (insertAll [] done)) fields place ?_
  intro done entry others split rest
  have fits := short entry (split ▸ by simp)
  have last : insertAll [] (done ++ [entry]) =
      insertEntry entry.1 entry.2 (insertAll [] done) := List.foldl_concat ..
  rw [mergeValue, mergeEntry, (label_records depth fits).nested fits]
  simp only [Except.map, last]

/-- So are the contents of messages, each of which was written in a form of its own. -/
theorem messages_records {nested : MessageType → List Value → Prop} (inside : Inside read nested)
    {name : String} {inner : MessageType} {items written : List (List Value)}
    (fields : t.fields = before ++ ⟨name, .messages inner⟩ :: after)
    (place : pre.length = before.length) (typed : ∀ values ∈ items, nested inner values)
    (within : Forall₂ (Forall₂ Rearranged) items written)
    (short : ∀ form ∈ written, (encodeFrom 1 form).length < 2 ^ 64) :
    Records (mergeRecord unknown (some read) depth t) (pre ++ .messages [] :: post)
      (encodeItems (pre.length + 1) written) (pre ++ .messages items :: post) := by
  obtain ⟨length, forms⟩ := List.forall₂_iff_zip.mp within
  have first : (items.zip written).map Prod.fst = items := List.map_fst_zip (Nat.le_of_eq length)
  rw [encodeItems_eq _ length]
  have records : Records (mergeRecord unknown (some read) depth t) (pre ++ .messages [] :: post)
      ((items.zip written).flatMap fun item => delimited (pre.length + 1) (encodeFrom 1 item.2))
      (pre ++ .messages ((items.zip written).map Prod.fst) :: post) := by
    refine collect_records (fun item => encodeFrom 1 item.2)
      (fun done => .messages (done.map Prod.fst)) fields place ?_
    intro done item others split rest
    obtain ⟨values, form⟩ := item
    have here : (values, form) ∈ items.zip written := split ▸ by simp
    have fits := short form (List.of_mem_zip here).2
    have one := inside inner values form (typed values (List.of_mem_zip here).1) (forms here) fits
    rw [mergeValue, mergeInner_counted one fits]
    simp only [List.map_append, List.map_cons, List.map_nil]
  rwa [first] at records

/-- **The octets of a field turn its absence into its value**, whatever the order of labels. -/
theorem field_records {nested : MessageType → List Value → Prop} (inside : Inside read nested)
    (fields : t.fields = before ++ f :: after) (place : pre.length = before.length)
    {v w : Value} (fits : Fits nested f.type v) (arranged : Rearranged v w)
    (short : Brief w) :
    Records (mergeRecord unknown (some read) (depth + 1) t) (pre ++ f.type.absence :: post)
      (encodeValue (pre.length + 1) w) (pre ++ v :: post) := by
  obtain ⟨name, type⟩ := f
  -- a field of a single record
  have one : ∀ {wire content v'}, (∀ rest, mergeValue (some read) (depth + 1) type type.absence
      wire (content ++ rest) = .ok (v', rest)) →
        Records (mergeRecord unknown (some read) (depth + 1) t) (pre ++ type.absence :: post)
          (fieldKey (pre.length + 1) wire ++ content) (pre ++ v' :: post) := by
    intro wire content v' merges
    have nothing : Records (mergeRecord unknown (some read) (depth + 1) t) (pre ++ v' :: post) []
        (pre ++ v' :: post) := .nil _
    have records := record_of_merge fields place merges nothing
    rwa [List.append_nil] at records
  cases fits with
  | text s =>
    cases arranged
    by_cases empty : s = ""
    · subst empty
      exact .nil _
    · have present : s.isEmpty = false := by simpa using empty
      simp only [encodeValue, textualUnlessEmpty, present, Bool.false_eq_true, if_false, textual]
      rw [delimited, List.append_assoc]
      exact one fun rest => mergeText_counted short .text rest
  | int64 n =>
    cases arranged
    by_cases zero : n = 0
    · subst zero
      exact .nil _
    · simp only [encodeValue, if_neg zero, numeric]
      refine one fun rest => ?_
      rw [mergeValue, mergeNumber_varint (ofInt64_lt n), toInt64_ofInt64]
  | int32 n =>
    cases arranged
    by_cases zero : n = 0
    · subst zero
      exact .nil _
    · simp only [encodeValue, if_neg zero, numeric]
      refine one fun rest => ?_
      rw [mergeValue, mergeNumber_varint (ofInt32_lt n), toInt32_ofInt32]
  | status n =>
    cases arranged
    by_cases zero : n = 0
    · subst zero
      exact .nil _
    · simp only [encodeValue, if_neg zero, numeric]
      refine one fun rest => ?_
      rw [mergeValue, mergeNumber_varint (ofInt32_lt n), toInt32_ofInt32]
  | flag b =>
    cases arranged
    cases b with
    | false => exact .nil _
    | true =>
      simp only [encodeValue, if_true, numeric]
      refine one fun rest => ?_
      rw [mergeValue, mergeNumber_varint (by decide)]
      rfl
  | texts items =>
    cases arranged
    simp only [encodeValue]
    refine collect_records utf8 .texts fields place ?_
    intro done s others split rest
    rw [mergeValue, mergeText_counted (short s (split ▸ by simp))]
  | @labels entries ordered =>
    obtain ⟨written, rfl, order⟩ := arranged.of_labels
    simp only [encodeValue]
    have labels := insertAll_of_perm ordered order
    rw [← labels]
    exact labels_records fields place short
  | absent inner =>
    cases arranged
    exact .nil _
  | @message inner values h =>
    obtain ⟨written, rfl, within⟩ := arranged.of_message
    simp only [encodeValue]
    rw [delimited, List.append_assoc]
    exact one fun rest =>
      mergeInner_counted (inside inner values written h within short) short .message rest
  | @messages inner items h =>
    obtain ⟨written, rfl, within⟩ := arranged.of_messages
    simp only [encodeValue]
    exact messages_records inside fields place h within short

/-- **The octets of some fields turn their absences into their values.** -/
theorem fields_records {nested : MessageType → List Value → Prop} (inside : Inside read nested)
    {fs : List Field} {values written : List Value}
    (fits : Forall₂ (fun f v => Fits nested f.type v) fs values)
    (arranged : Forall₂ Rearranged values written)
    (fields : t.fields = before ++ fs) (place : pre.length = before.length)
    (short : ∀ w ∈ written, Brief w) :
    Records (mergeRecord unknown (some read) (depth + 1) t)
      (pre ++ fs.map fun f => f.type.absence) (encodeFrom (pre.length + 1) written)
      (pre ++ values) := by
  induction fits generalizing before pre written with
  | nil =>
    cases arranged
    rw [encodeFrom]
    exact .nil _
  | @cons f v fs values first _ ih =>
    obtain _ | ⟨form, forms⟩ := arranged
    rename_i w written
    rw [encodeFrom]
    have here : Records (mergeRecord unknown (some read) (depth + 1) t)
        (pre ++ f.type.absence :: fs.map fun f => f.type.absence) (encodeValue (pre.length + 1) w)
        (pre ++ v :: fs.map fun f => f.type.absence) :=
      field_records inside fields place first form (short w List.mem_cons_self)
    have fields' : t.fields = before ++ [f] ++ fs := by
      rw [fields, List.append_assoc]
      rfl
    have place' : (pre ++ [v]).length = (before ++ [f]).length := by
      rw [List.length_append, List.length_append, place]
      rfl
    have next := ih forms fields' place' fun w hw => short w (List.mem_cons_of_mem _ hw)
    rw [List.length_append, List.length_singleton, List.append_assoc, List.append_assoc] at next
    exact here.append next

end Fields

/-! ## 5. Messages -/

/-- The contents of a value whose octets are few are short themselves. -/
theorem brief_of_short (number : Nat) {w : Value}
    (short : (encodeValue number w).length < 2 ^ 64) : Brief w := by
  cases w with
  | text s =>
    by_cases empty : s = ""
    · subst empty
      exact (by decide : (0 : Nat) < 2 ^ 64)
    · have present : s.isEmpty = false := by simpa using empty
      simp only [encodeValue, textualUnlessEmpty, present, Bool.false_eq_true, if_false, textual]
        at short
      exact Nat.lt_of_le_of_lt (length_le_delimited number (utf8 s)) short
  | int64 => trivial
  | int32 => trivial
  | flag => trivial
  | texts items =>
    exact fun s here => Nat.lt_of_le_of_lt (length_collected utf8 number here) short
  | labels entries =>
    exact fun e here => Nat.lt_of_le_of_lt (length_collected labelContent number here) short
  | absent => trivial
  | message values => exact Nat.lt_of_le_of_lt (length_le_delimited number _) short
  | messages items =>
    intro values here
    have same : encodeValue number (.messages items) =
        (items.zip items).flatMap fun item => delimited number (encodeFrom 1 item.2) :=
      encodeItems_eq number rfl
    have pair : (values, values) ∈ items.zip items := by
      rw [List.zip_eq_zipWith, List.zipWith_self]
      exact List.mem_map_of_mem here
    rw [same] at short
    exact Nat.lt_of_le_of_lt (length_collected (fun item => encodeFrom 1 item.2) number pair) short

/-- So are those of all values of a message. -/
theorem brief_of_mem (number : Nat) {written : List Value}
    (short : (encodeFrom number written).length < 2 ^ 64) : ∀ w ∈ written, Brief w := by
  induction written generalizing number with
  | nil => exact fun w hw => absurd hw List.not_mem_nil
  | cons v rest ih =>
    rw [encodeFrom, List.length_append] at short
    refine List.forall_mem_cons.mpr ⟨brief_of_short number (by omega), ?_⟩
    exact ih (number + 1) (by omega)

/-- **The octets of a message turn an empty one into it**, whatever the order of labels. -/
theorem message_records (unknown : Unknown) {depth : Nat} {t : MessageType}
    {values written : List Value} (typed : Typed depth t values)
    (arranged : Forall₂ Rearranged values written) (short : ∀ w ∈ written, Brief w) :
    Records (recordReader unknown depth t) t.empty (encodeFrom 1 written) values := by
  induction depth generalizing t values written with
  | zero => exact typed.elim
  | succ depth ih =>
    have fields : t.fields = [] ++ t.fields := rfl
    have place : ([] : List Value).length = ([] : List Field).length := rfl
    have inside : Inside (recordReader unknown depth) (Typed depth) :=
      fun inner vs form h order few => ih h order (brief_of_mem 1 few)
    exact fields_records inside typed arranged fields place short

/-- **The values of a message are read back from its octets**, whatever the order of labels, if each
    of its contents can be counted. -/
theorem decode_brief (unknown : Unknown) {t : MessageType} {values written : List Value}
    (typed : Typed maxDepth t values) (arranged : Forall₂ Rearranged values written)
    (short : ∀ w ∈ written, Brief w) : decode unknown t (encode written) = .ok values := by
  have all := (message_records unknown typed arranged short).readRecords_eq (Nat.le_refl _) []
  rw [List.append_nil] at all
  rw [decode, encode]
  exact congrArg (Except.map Prod.fst) all

/-- So they are if the message is short as a whole. -/
theorem decode_rearranged (unknown : Unknown) {t : MessageType} {values written : List Value}
    (typed : Typed maxDepth t values) (arranged : Forall₂ Rearranged values written)
    (short : (encode written).length < 2 ^ 64) :
    decode unknown t (encode written) = .ok values :=
  decode_brief unknown typed arranged (brief_of_mem 1 short)

theorem decode_encode (unknown : Unknown) {t : MessageType} {values : List Value}
    (typed : Typed maxDepth t values) (short : (encode values).length < 2 ^ 64) :
    decode unknown t (encode values) = .ok values :=
  decode_rearranged unknown typed (rearranged_refl values) short

end ControlPlane.Wire

namespace ControlPlane

open Wire

/-! ## 6. Requests and responses -/

section Values

variable (depth : Nat)

theorem typed_timestamp (t : Timestamp) :
    Typed (depth + 1) .timestamp (Message.toValues t) :=
  .cons (.int64 _) (.cons (.int32 _) .nil)

/-- A point in time as a field. -/
theorem fits_timeValue (t : Option Timestamp) :
    Fits (Typed (depth + 1)) (.message .timestamp) (timeValue t) := by
  cases t with
  | none => exact .absent _
  | some t => exact .message (typed_timestamp depth t)

theorem typed_instance (i : Instance) :
    Typed (depth + 2) .computeInstance (Message.toValues i) :=
  .cons (.text _) <| .cons (.text _) <| .cons (fits_timeValue depth _) <| .cons (.text _) <|
    .cons (.labels i.labels.inKeyOrder) <| .cons (.text _) <| .cons (.status _) .nil

theorem typed_disk (d : Disk) : Typed (depth + 2) .disk (Message.toValues d) :=
  .cons (.text _) <| .cons (.text _) <| .cons (fits_timeValue depth _) <| .cons (.text _) <|
    .cons (.text _) <| .cons (.int64 _) <| .cons (.texts _) .nil

theorem typed_operation (o : Operation) : Typed (depth + 2) .operation (Message.toValues o) :=
  .cons (.text _) <| .cons (.text _) <| .cons (fits_timeValue depth _) <| .cons (.text _) <|
    .cons (.flag _) .nil

/-- A page, from its items. -/
theorem fits_messages {M : Type} [Message M] {t : MessageType} {n : Nat}
    (typed : ∀ m : M, Typed n t (Message.toValues m)) (items : List M) :
    Fits (Typed n) (.messages t) (.messages (items.map Message.toValues)) := by
  refine .messages fun values h => ?_
  obtain ⟨m, _, rfl⟩ := List.mem_map.mp h
  exact typed m

end Values

namespace Method

theorem typed_request (m : Method) (request : m.Request) :
    Typed maxDepth (Message.type m.Request) (Message.toValues request) := by
  cases m with
  | getInstance => exact .cons (.text _) .nil
  | getDisk => exact .cons (.text _) .nil
  | listInstances =>
    exact .cons (.text _) <| .cons (.int64 _) <| .cons (.text _) <| .cons (.text _) .nil
  | listDisks =>
    exact .cons (.text _) <| .cons (.int64 _) <| .cons (.text _) <| .cons (.text _) .nil
  | listOperations => exact .cons (.text _) <| .cons (.int64 _) <| .cons (.text _) .nil

theorem typed_response (m : Method) (response : m.Response) :
    Typed maxDepth (Message.type m.Response) (Message.toValues response) := by
  cases m with
  | getInstance => exact typed_instance 98 response
  | getDisk => exact typed_disk 98 response
  | listInstances => exact .cons (fits_messages (typed_instance 97) _) (.cons (.text _) .nil)
  | listDisks => exact .cons (fits_messages (typed_disk 97) _) (.cons (.text _) .nil)
  | listOperations => exact .cons (fits_messages (typed_operation 97) _) (.cons (.text _) .nil)

end Method

/-- A message whose values are typed is read back. -/
theorem Message.decode_encode {M : Type} [Message M] {m : M}
    (typed : Typed maxDepth (Message.type M) (Message.toValues m))
    (short : (Message.encode m).length < 2 ^ 64) :
    Message.decode M (Message.encode m) = .ok m := by
  rw [Message.decode, Message.encode, Wire.decode_encode .skip typed short]
  exact congrArg Except.ok (Message.ofValues_toValues m)

/-- **A request is read back from its octets.** -/
theorem Method.decode_request (m : Method) (request : m.Request)
    (short : (Message.encode request).length < 2 ^ 64) :
    Message.decode m.Request (Message.encode request) = .ok request :=
  Message.decode_encode (m.typed_request request) short

/-- **A response is read back from its octets.** -/
theorem Method.decode_response (m : Method) (response : m.Response)
    (short : (Message.encode response).length < 2 ^ 64) :
    Message.decode m.Response (Message.encode response) = .ok response :=
  Message.decode_encode (m.typed_response response) short

end ControlPlane
