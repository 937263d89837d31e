import ControlPlane.Proofs.Wire.Locality
import ControlPlane.Proofs.Wire.Messages

/-!
# Records in another order, and records of no field

The records of a message are merged one after another, each into the value of its own field. So it
does not matter in which order those of different fields come, nor whether there are others between
them that belong to no field:

* `Split` -- octets cut into the records that the reader of a message takes; `split_unique` -- there
  is one way to do so, and `split_of_decode` -- whatever is read can be cut so;
* `Steps` -- records that are read one after another; `Steps.exchange`, `Steps.insert` -- two of
  different fields may be exchanged, and one of no field may be put between them;
* `decode_indifferent` -- **the message that is read is the same**;
* `labels_cross_records` -- a record of labels whose wire type is another than that of a counted
  content reaches into the next one, so that cutting by wire types alone is not enough.
-/

namespace ControlPlane.Wire

open Text

/-! ## 1. Cutting -/

section Cutting

variable {t : MessageType} {number number' : Nat} {octets rest rest' : List UInt8}

/-- Octets begin with one record of a message at most. -/
theorem Taken.unique {record record' : List UInt8} (h : Taken t number record)
    (h' : Taken t number' record') (same : record ++ rest = record' ++ rest') :
    number = number' ∧ record = record' ∧ rest = rest' := by
  obtain ⟨first, value⟩ := h
  obtain ⟨first', value'⟩ := h'
  rw [List.append_assoc, List.append_assoc] at same
  obtain ⟨rfl, rfl, rfl, contents⟩ := first.unique first' same
  obtain ⟨rfl, rfl⟩ := value.unique value' contents
  exact ⟨rfl, rfl, rfl⟩

theorem Taken.ne_nil {record : List UInt8} (h : Taken t number record) : record ≠ [] := by
  obtain ⟨first, _⟩ := h
  exact List.append_ne_nil_of_left_ne_nil (List.length_pos_iff.mp first.length_pos) _

/-- **But for labels, the records of a message are those of the wire format.** -/
theorem taken_iff_record {record : List UInt8}
    (other : ∀ f, t.field? number = some f → f.type ≠ .labels) :
    Taken t number record ↔ Record number record := by
  have same : ∀ type, recordType t number type = type := by
    intro type
    rw [recordType]
    cases known : t.field? number with
    | none => rfl
    | some f => exact if_neg (other f known)
  constructor
  · rintro ⟨first, value⟩
    rw [same] at value
    exact .mk first value
  · rintro ⟨first, value⟩
    exact .mk first (by rwa [same])

/-- The octets of records, each with the number of its field. -/
def joined (records : List (Nat × List UInt8)) : List UInt8 := records.flatMap Prod.snd

theorem joined_append (front back : List (Nat × List UInt8)) :
    joined (front ++ back) = joined front ++ joined back := List.flatMap_append

/-- **Octets cut into the records that the reader of a message takes.** -/
structure Split (t : MessageType) (records : List (Nat × List UInt8)) (octets : List UInt8) :
    Prop where
  taken : ∀ r ∈ records, Taken t r.1 r.2
  whole : octets = joined records

/-- **There is one way to cut octets at most.** -/
theorem split_unique {records records' : List (Nat × List UInt8)} (h : Split t records octets)
    (h' : Split t records' octets) : records = records' := by
  obtain ⟨taken, rfl⟩ := h
  obtain ⟨taken', same⟩ := h'
  induction records generalizing records' with
  | nil =>
    cases records' with
    | nil => rfl
    | cons r others =>
      have none := (List.append_eq_nil_iff.mp same.symm).1
      exact absurd none (taken' r List.mem_cons_self).ne_nil
  | cons r others ih =>
    cases records' with
    | nil =>
      have none := (List.append_eq_nil_iff.mp same).1
      exact absurd none (taken r List.mem_cons_self).ne_nil
    | cons r' others' =>
      rw [List.forall_mem_cons] at taken taken'
      obtain ⟨numbers, contents, left⟩ := taken.1.unique taken'.1 same
      rw [Prod.ext numbers contents, ih taken.2 taken'.2 left]

end Cutting

/-! ## 2. Records one after another -/

/-- **Records that a reader takes one after another**, each whatever follows it. -/
inductive Steps {σ : Type} (read : σ → List UInt8 → Reading σ) :
    σ → List (Nat × List UInt8) → σ → Prop where
  | nil (s : σ) : Steps read s [] s
  | cons {s t u : σ} {record : Nat × List UInt8} {others : List (Nat × List UInt8)}
      (first : ∀ rest, read s (record.2 ++ rest) = .ok (t, rest)) (later : Steps read t others u) :
      Steps read s (record :: others) u

namespace Steps

variable {σ : Type} {read : σ → List UInt8 → Reading σ} {s t u : σ}
  {front back : List (Nat × List UInt8)}

theorem append (h : Steps read s front t) (k : Steps read t back u) :
    Steps read s (front ++ back) u := by
  induction h with
  | nil => exact k
  | cons first _ ih => exact .cons first (ih k)

theorem of_append (h : Steps read s (front ++ back) u) :
    ∃ t, Steps read s front t ∧ Steps read t back u := by
  induction front generalizing s with
  | nil => exact ⟨s, .nil s, h⟩
  | cons r others ih =>
    cases h with
    | cons first later =>
      obtain ⟨t, inFront, behind⟩ := ih later
      exact ⟨t, .cons first inFront, behind⟩

/-- They are records, if none is empty. -/
theorem records (h : Steps read s front u) (present : ∀ r ∈ front, r.2 ≠ []) :
    Records read s (joined front) u := by
  induction h with
  | nil => exact .nil _
  | cons first _ ih =>
    rw [List.forall_mem_cons] at present
    exact .cons present.1 first (ih present.2)

end Steps

section Messages

variable {unknown : Unknown} {depth : Nat} {t : MessageType} {values values' : List Value}
  {number : Nat} {octets record : List UInt8}

/-- A record leaves as many values as there were. -/
theorem recordReader_length {rest : List UInt8}
    (accepted : recordReader unknown depth t values octets = .ok (values', rest)) :
    values'.length = values.length := by
  obtain ⟨inner, _, same⟩ := recordReader_eq unknown depth
  rw [same] at accepted
  obtain rfl | ⟨place, f, v, v', _, _, _, rfl⟩ := mergeRecord_cases accepted
  · rfl
  · exact List.length_set

/-- **Records that are read are those of the message.** -/
theorem steps_of_records (records : Records (recordReader unknown depth t) values octets values')
    (whole : values.length = t.fields.length) :
    ∃ taken, Split t taken octets ∧ Steps (recordReader unknown depth t) values taken values' := by
  induction records with
  | nil => exact ⟨[], ⟨fun _ h => absurd h List.not_mem_nil, rfl⟩, .nil _⟩
  | @cons s next u record more present first _ ih =>
    obtain ⟨taken, ⟨number, isTaken⟩, split, _⟩ := recordReader_cuts depth whole (first [])
    rw [List.append_cancel_right split] at first ⊢
    obtain ⟨others, ⟨shapes, rfl⟩, steps⟩ := ih ((recordReader_length (first [])).trans whole)
    exact ⟨(number, taken) :: others, ⟨List.forall_mem_cons.mpr ⟨isTaken, shapes⟩, rfl⟩,
      .cons first steps⟩

/-- What is read in front of something is read in front of anything. -/
theorem recordReader_of_append {rest : List UInt8}
    (accepted : recordReader unknown depth t values (record ++ rest) = .ok (values', rest))
    (rest' : List UInt8) :
    recordReader unknown depth t values (record ++ rest') = .ok (values', rest') := by
  obtain ⟨taken, _, split, again⟩ := recordReader_local depth values accepted
  rw [List.append_cancel_right split]
  exact again rest'

/-! ## 3. One record -/

/-- Values with that of one place replaced, or none. -/
def replaced (place : Nat) (value : Option Value) (values : List Value) : List Value :=
  match value with
  | none => values
  | some v => values.set place v

theorem getElem?_replaced {place other : Nat} (distinct : place ≠ other) (value : Option Value) :
    (replaced place value values)[other]? = values[other]? := by
  cases value with
  | none => rfl
  | some v => exact List.getElem?_set_ne distinct

theorem replaced_comm {place other : Nat} (distinct : place ≠ other) (value value' : Option Value) :
    replaced place value (replaced other value' values) =
      replaced other value' (replaced place value values) := by
  cases value with
  | none => rfl
  | some v =>
    cases value' with
    | none => rfl
    | some v' => exact List.set_comm v' v distinct.symm

/-- **A record looks at the value of its own field, and replaces no other.** -/
theorem recordReader_step (taken : Taken t number record)
    (accepted : ∀ rest, recordReader unknown depth t values (record ++ rest) = .ok (values', rest)) :
    ∃ value, values' = replaced (number - 1) value values ∧
      ∀ others : List Value, others[number - 1]? = values[number - 1]? → ∀ rest,
        recordReader unknown depth t others (record ++ rest) =
          .ok (replaced (number - 1) value others, rest) := by
  obtain ⟨first, _⟩ := taken
  rename_i type key content _
  obtain ⟨inner, _, same⟩ := recordReader_eq unknown depth
  have key_read : readKey (key ++ content ++ []) = .ok ((number, type), content ++ []) :=
    readKey_eq_ok_iff.mpr ⟨key, List.append_assoc _ _ _, first⟩
  have merged := accepted []
  rw [same] at merged
  obtain ⟨number', type', after, read, step⟩ := mergeRecord_eq_ok_iff.mp merged
  rw [key_read] at read
  cases read
  obtain ⟨f, v, v', known, held, content_merged, rfl⟩ | ⟨unheld, skipped, rfl⟩ := step
  · refine ⟨some v', rfl, fun others alike => ?_⟩
    have alone : recordReader unknown depth t others (key ++ content ++ []) =
        .ok (replaced (number - 1) (some v') others, []) := by
      rw [same]
      exact mergeRecord_eq_ok_iff.mpr ⟨number, type, _, key_read,
        .inl ⟨f, v, v', known, alike.trans held, content_merged, rfl⟩⟩
    exact recordReader_of_append alone
  · refine ⟨none, rfl, fun others alike => ?_⟩
    rw [← alike] at unheld
    have alone : recordReader unknown depth t others (key ++ content ++ []) =
        .ok (replaced (number - 1) none others, []) := by
      rw [same]
      exact mergeRecord_eq_ok_iff.mpr ⟨number, type, _, key_read, .inr ⟨unheld, skipped, rfl⟩⟩
    exact recordReader_of_append alone

theorem Taken.number_pos (h : Taken t number record) : 0 < number := by
  obtain ⟨first, _⟩ := h
  exact first.1

/-- **A record that is no group.** -/
inductive PlainRecord (number : Nat) : List UInt8 → Prop where
  | mk {type : WireType} {key content : List UInt8} (first : IsKey key number type)
      (plain : type ≠ .startGroup) (value : Content number type content) :
      PlainRecord number (key ++ content)

/-- A content that is no group is skipped. -/
theorem skipPlain_content {type : WireType} {content : List UInt8} (plain : type ≠ .startGroup)
    (value : Content number type content) (rest : List UInt8) :
    skipPlain unknown type (content ++ rest) = .ok rest := by
  cases value with
  | varint value =>
    exact map_eq_ok_iff.mpr ⟨_, readNumber_eq_ok_iff.mpr ⟨content, rfl, value⟩, rfl⟩
  | sixtyFourBit length =>
    rw [skipPlain, readOctets, if_neg (by rw [List.length_append]; omega), ← length, List.drop_left]
    rfl
  | thirtyTwoBit length =>
    rw [skipPlain, readOctets, if_neg (by rw [List.length_append]; omega), ← length, List.drop_left]
    rfl
  | counted length =>
    exact map_eq_ok_iff.mpr ⟨_, readCounted_eq_ok_iff.mpr ⟨_, rfl, length⟩, rfl⟩
  | endGroup | inGroup => exact absurd rfl plain

/-- **A record of no field leaves the values as they are.** -/
theorem recordReader_unknown (plain : PlainRecord number record) (fresh : t.field? number = none)
    (values : List Value) (rest : List UInt8) :
    recordReader unknown (depth + 1) t values (record ++ rest) = .ok (values, rest) := by
  obtain ⟨first, plain, value⟩ := plain
  refine mergeRecord_eq_ok_iff.mpr ⟨number, _, _,
    readKey_eq_ok_iff.mpr ⟨_, List.append_assoc _ _ _, first⟩, .inr ⟨.inl fresh, ?_, rfl⟩⟩
  rw [skipField, if_neg plain]
  exact skipPlain_content plain value rest

end Messages

/-! ## 4. All records -/

section Messages

variable {unknown : Unknown} {depth : Nat} {t : MessageType} {values values' : List Value}
  {front back : List (Nat × List UInt8)}

/-- **Two records of different fields may be exchanged.** -/
theorem Steps.exchange {x y : Nat × List UInt8} (takenX : Taken t x.1 x.2) (takenY : Taken t y.1 y.2)
    (distinct : x.1 ≠ y.1)
    (h : Steps (recordReader unknown depth t) values (front ++ x :: y :: back) values') :
    Steps (recordReader unknown depth t) values (front ++ y :: x :: back) values' := by
  obtain ⟨before, inFront, behind⟩ := h.of_append
  obtain _ | ⟨first, _ | ⟨second, later⟩⟩ := behind
  have places : x.1 - 1 ≠ y.1 - 1 := by
    have positive := takenX.number_pos
    have positive' := takenY.number_pos
    omega
  obtain ⟨v, rfl, firstAgain⟩ := recordReader_step takenX first
  obtain ⟨w, rfl, secondAgain⟩ := recordReader_step takenY second
  have sooner := secondAgain before (getElem?_replaced places v).symm
  have after := firstAgain (replaced (y.1 - 1) w before) (getElem?_replaced places.symm w)
  rw [replaced_comm places] at after
  exact inFront.append (.cons sooner (.cons after later))

/-- **A record of no field may be put between others.** -/
theorem Steps.insert {number : Nat} {record : List UInt8} (plain : PlainRecord number record)
    (fresh : t.field? number = none)
    (h : Steps (recordReader unknown (depth + 1) t) values (front ++ back) values') :
    Steps (recordReader unknown (depth + 1) t) values (front ++ (number, record) :: back) values' := by
  obtain ⟨before, inFront, behind⟩ := h.of_append
  exact inFront.append (.cons (recordReader_unknown plain fresh before) behind)

/-- **A message is read from octets exactly if they can be cut into records of it, one read after
    another.** -/
theorem decode_eq_ok_iff {octets : List UInt8} :
    decode unknown t octets = .ok values ↔ ∃ records, Split t records octets ∧
      Steps (recordReader unknown maxDepth t) t.empty records values := by
  constructor
  · intro accepted
    obtain ⟨⟨values', rest⟩, read, rfl⟩ := map_eq_ok_iff.mp accepted
    have reader : Local (recordReader unknown maxDepth t) := recordReader_local maxDepth
    obtain ⟨content, rfl, records⟩ := reader.readRecords read
    rw [reader.nothing_left (Nat.le_refl _) read, List.append_nil]
    exact steps_of_records records (List.length_map _)
  · rintro ⟨records, ⟨taken, rfl⟩, steps⟩
    have inOrder := steps.records fun r here => (taken r here).ne_nil
    have read := inOrder.readRecords_eq (Nat.le_refl _) []
    rw [List.append_nil] at read
    exact map_eq_ok_iff.mpr ⟨_, read, rfl⟩

theorem PlainRecord.taken {number : Nat} {record : List UInt8} (plain : PlainRecord number record)
    (fresh : t.field? number = none) : Taken t number record := by
  obtain ⟨first, _, value⟩ := plain
  refine .mk first ?_
  rwa [recordType, fresh]

/-- A record of no field that is put between those of a message leaves what is read. -/
theorem decode_insert {number : Nat} {record octets : List UInt8}
    (split : Split t (front ++ back) octets) (plain : PlainRecord number record)
    (fresh : t.field? number = none) (accepted : decode unknown t octets = .ok values) :
    decode unknown t (joined (front ++ (number, record) :: back)) = .ok values := by
  obtain ⟨records, cut, steps⟩ := decode_eq_ok_iff.mp accepted
  obtain rfl := split_unique cut split
  refine decode_eq_ok_iff.mpr ⟨_, ⟨?_, rfl⟩, steps.insert plain fresh⟩
  rw [List.forall_mem_append, List.forall_mem_cons]
  obtain ⟨inFront, behind⟩ := List.forall_mem_append.mp split.taken
  exact ⟨inFront, plain.taken fresh, behind⟩

/-- Two records of different fields that are exchanged leave what is read. -/
theorem decode_exchange {x y : Nat × List UInt8} {octets : List UInt8}
    (split : Split t (front ++ x :: y :: back) octets) (distinct : x.1 ≠ y.1)
    (accepted : decode unknown t octets = .ok values) :
    decode unknown t (joined (front ++ y :: x :: back)) = .ok values := by
  obtain ⟨records, cut, steps⟩ := decode_eq_ok_iff.mp accepted
  obtain rfl := split_unique cut split
  obtain ⟨inFront, behind⟩ := List.forall_mem_append.mp split.taken
  obtain ⟨takenX, behind⟩ := List.forall_mem_cons.mp behind
  obtain ⟨takenY, behind⟩ := List.forall_mem_cons.mp behind
  refine decode_eq_ok_iff.mpr ⟨_, ⟨?_, rfl⟩, steps.exchange takenX takenY distinct⟩
  rw [List.forall_mem_append, List.forall_mem_cons, List.forall_mem_cons]
  exact ⟨inFront, takenY, takenX, behind⟩

end Messages

end ControlPlane.Wire

namespace ControlPlane

open Wire

/-- The type of the messages of a type is that type. -/
theorem MessageType.type_carrier (t : MessageType) : Message.type t.Carrier = t := by
  cases t <;> rfl

/-- **What octets are read as hangs neither on records of no field nor on the order of fields.**
    Octets that are read as a message of any type can be cut in one way into the records that its
    reader takes; but for labels these are the records of the wire format. A record of a field that the message does not define, if it is no group, may be put
    at any of the places between them, and two that stand side by side and are of different fields may
    be exchanged: the octets are read as the same message. -/
theorem MessageType.decode_indifferent (t : MessageType) {octets : List UInt8} {m : t.Carrier}
    (accepted : Message.decode t.Carrier octets = .ok m) :
    ∃ records, Split t records octets ∧ (∀ others, Split t others octets → others = records) ∧
      (∀ number record, (∀ f, t.field? number = some f → f.type ≠ .labels) →
        (Taken t number record ↔ Record number record)) ∧
      (∀ front back number record, records = front ++ back → PlainRecord number record →
        t.field? number = none →
          Message.decode t.Carrier (joined front ++ record ++ joined back) = .ok m) ∧
      ∀ front x y back, records = front ++ x :: y :: back → x.1 ≠ y.1 →
        Message.decode t.Carrier (joined front ++ y.2 ++ x.2 ++ joined back) = .ok m := by
  obtain ⟨values, read, rfl⟩ := map_eq_ok_iff.mp accepted
  rw [t.type_carrier] at read
  -- what is read as the same values is read as the same message
  have again : ∀ octets', decode .skip t octets' = .ok values →
      Message.decode t.Carrier octets' = .ok (Message.ofValues values) := by
    intro octets' read'
    rw [Message.decode, t.type_carrier]
    exact map_eq_ok_iff.mpr ⟨values, read', rfl⟩
  obtain ⟨records, split, _⟩ := decode_eq_ok_iff.mp read
  refine ⟨records, split, fun others split' => split_unique split' split,
    fun number record other => taken_iff_record other, ?_, ?_⟩
  · rintro front back number record rfl plain fresh
    have inserted := decode_insert split plain fresh read
    rw [joined_append] at inserted
    rw [List.append_assoc]
    exact again _ inserted
  · rintro front x y back rfl distinct
    have exchanged := decode_exchange split distinct read
    rw [joined_append] at exchanged
    rw [List.append_assoc, List.append_assoc]
    exact again _ exchanged

/-- The octets of an instance whose second record is written with more groups than it needs. -/
def widelyWritten : List UInt8 := [0x0a, 1, 0x61, 0x92, 0, 0x81, 0, 0x62]

/-- Four octets of a field 8 may be put between its records, and these may be exchanged. -/
theorem widelyWritten_indifferent :
    Message.decode Instance widelyWritten = .ok { id := "a", folderId := "b" } ∧
      PlainRecord 8 [0x45, 1, 2, 3, 4] ∧ MessageType.computeInstance.field? 8 = none ∧
      Message.decode Instance
          ([0x0a, 1, 0x61] ++ [0x45, 1, 2, 3, 4] ++ [0x92, 0, 0x81, 0, 0x62]) =
        .ok { id := "a", folderId := "b" } ∧
      Message.decode Instance ([0x92, 0, 0x81, 0, 0x62] ++ [0x0a, 1, 0x61]) =
        .ok { id := "a", folderId := "b" } := by
  have read : Message.decode Instance widelyWritten = .ok { id := "a", folderId := "b" } := by
    rfl
  have one : IsVarint [1] 1 := ⟨.last (by decide), by decide, by decide⟩
  have wideOne : IsVarint [0x81, 0] 1 :=
    ⟨.more (by decide) (.last (by decide)), by decide, by decide⟩
  have key : IsKey [0x0a] 1 .lengthDelimited :=
    ⟨by decide, by decide, .last (by decide), by decide, by decide⟩
  have wideKey : IsKey [0x92, 0] 2 .lengthDelimited :=
    ⟨by decide, by decide, .more (by decide) (.last (by decide)), by decide, by decide⟩
  have keyFresh : IsKey [0x45] 8 .thirtyTwoBit :=
    ⟨by decide, by decide, .last (by decide), by decide, by decide⟩
  have content : Content 1 .lengthDelimited ([1] ++ [0x61]) := .counted one
  have wideContent : Content 2 .lengthDelimited ([0x81, 0] ++ [0x62]) := .counted wideOne
  have contentFresh : Content 8 .thirtyTwoBit [1, 2, 3, 4] := .thirtyTwoBit rfl
  have plain : PlainRecord 8 [0x45, 1, 2, 3, 4] := .mk keyFresh (by decide) contentFresh
  have taken : Taken .computeInstance 1 [0x0a, 1, 0x61] := .mk key content
  have wideTaken : Taken .computeInstance 2 [0x92, 0, 0x81, 0, 0x62] := .mk wideKey wideContent
  have split : Split .computeInstance
      [(1, [0x0a, 1, 0x61]), (2, [0x92, 0, 0x81, 0, 0x62])] widelyWritten := by
    exact ⟨List.forall_mem_cons.mpr ⟨taken, List.forall_mem_singleton.mpr wideTaken⟩, rfl⟩
  obtain ⟨records, _, unique, _, inserted, exchanged⟩ :=
    MessageType.decode_indifferent .computeInstance read
  obtain rfl := unique _ split
  have between := inserted [_] [_] 8 _ rfl plain rfl
  have swapped := exchanged [] _ _ [] rfl (by decide)
  simp only [joined, List.flatMap_cons, List.flatMap_nil, List.append_nil, List.nil_append]
    at between swapped
  exact ⟨read, plain, rfl, between, swapped⟩

/-- **A record of labels is not cut by its wire type.** The first record of these octets says that it
    holds a number, but its content is counted, so that it reaches over the record behind it. What is
    put between the two is taken for the label, and in the other order nothing is read. -/
theorem labels_cross_records :
    (Record 5 [0x28, 3] ∧ Record 1 [0x0a, 1, 0x61] ∧ PlainRecord 8 [0x42, 1, 0] ∧
        MessageType.computeInstance.field? 8 = none) ∧
      Message.decode Instance ([0x28, 3] ++ [0x0a, 1, 0x61]) =
        .ok { labels := .ofEntries [("a", "")] } ∧
      Message.decode Instance ([0x28, 3] ++ [0x42, 1, 0] ++ [0x0a, 1, 0x61]) =
        .ok { id := "a", labels := .ofEntries [("", "")] } ∧
      Message.decode Instance ([0x0a, 1, 0x61] ++ [0x28, 3]) =
        .error ⟨[("Instance", "labels")], .underflow⟩ := by
  have numberKey : IsKey [0x28] 5 .varint :=
    ⟨by decide, by decide, .last (by decide), by decide, by decide⟩
  have key : IsKey [0x0a] 1 .lengthDelimited :=
    ⟨by decide, by decide, .last (by decide), by decide, by decide⟩
  have keyFresh : IsKey [0x42] 8 .lengthDelimited :=
    ⟨by decide, by decide, .last (by decide), by decide, by decide⟩
  have one : IsVarint [1] 1 := ⟨.last (by decide), by decide, by decide⟩
  have three : IsVarint [3] 3 := ⟨.last (by decide), by decide, by decide⟩
  have content : Content 1 .lengthDelimited ([1] ++ [0x61]) := .counted one
  have contentFresh : Content 8 .lengthDelimited ([1] ++ [0]) := .counted one
  refine ⟨⟨.mk numberKey (.varint three), .mk key content, .mk keyFresh (by decide) contentFresh,
    rfl⟩, rfl, rfl, rfl⟩

end ControlPlane
