import ControlPlane.Proofs.Wire.Accepted
import ControlPlane.Proofs.Wire.Record

/-!
# What is read does not hang on what follows

A reader looks at the octets that it takes and at none behind them. A nested content must end where
its count says, so that it cannot take more than that either:

* `Cuts` -- a reader that cuts off octets of a form, in front of anything;
* `skipField_skips` -- fields that are not defined;
* `Local` -- a reader of records that does so; `Local.readRecords`, `Local.readNested` -- so do all
  records, and those of a nested content;
* `Taken` -- **a record as the reader of a message takes it**;
* `mergeRecord_cuts`, `recordReader_cuts` -- **which is what it cuts off**, at any depth.
-/

namespace ControlPlane.Wire

open Text

/-! ## 1. Readers -/

/-- **A reader that cuts off octets of a form**, whatever follows them. -/
def Cuts {α : Type} (read : List UInt8 → Reading α) (form : List UInt8 → Prop) : Prop :=
  ∀ ⦃a : α⦄ ⦃octets rest : List UInt8⦄, read octets = .ok (a, rest) →
    ∃ taken, form taken ∧ octets = taken ++ rest ∧ ∀ rest', read (taken ++ rest') = .ok (a, rest')

theorem Cuts.imp {α : Type} {read : List UInt8 → Reading α} {form form' : List UInt8 → Prop}
    (h : Cuts read form) (weaker : ∀ taken, form taken → form' taken) : Cuts read form' := by
  intro a octets rest accepted
  obtain ⟨taken, shape, split, again⟩ := h accepted
  exact ⟨taken, weaker taken shape, split, again⟩

/-- What is read may be changed afterwards. -/
theorem Cuts.map {α β : Type} {read : List UInt8 → Reading α} {form : List UInt8 → Prop}
    (h : Cuts read form) (make : α → β) :
    Cuts (fun octets => (read octets).map fun (a, rest) => (make a, rest)) form := by
  intro b octets rest accepted
  obtain ⟨⟨a, after⟩, first, same⟩ := map_eq_ok_iff.mp accepted
  cases same
  obtain ⟨taken, shape, split, again⟩ := h first
  exact ⟨taken, shape, split, fun rest' => map_eq_ok_iff.mpr ⟨_, again rest', rfl⟩⟩

section Contents

variable {number : Nat}

theorem readNumber_cuts : Cuts readNumber (Content number .varint) := by
  intro n octets rest accepted
  obtain ⟨written, split, varint⟩ := readNumber_eq_ok_iff.mp accepted
  exact ⟨written, .varint varint, split,
    fun rest' => readNumber_eq_ok_iff.mpr ⟨written, rfl, varint⟩⟩

theorem readCounted_cuts : Cuts readCounted (Content number .lengthDelimited) := by
  intro content octets rest accepted
  obtain ⟨count, split, varint⟩ := readCounted_eq_ok_iff.mp accepted
  exact ⟨count ++ content, .counted varint, split,
    fun rest' => readCounted_eq_ok_iff.mpr ⟨count, rfl, varint⟩⟩

theorem readOctets_cuts (count : Nat) : Cuts (readOctets count) fun taken => taken.length = count := by
  intro content octets rest accepted
  unfold readOctets at accepted
  split at accepted
  · cases accepted
  · rename_i enough
    cases accepted
    have length : (octets.take count).length = count := by
      rw [List.length_take]
      omega
    refine ⟨octets.take count, length, (List.take_append_drop _ _).symm, fun rest' => ?_⟩
    have enough' : ¬ (octets.take count ++ rest').length < count := by
      rw [List.length_append]
      omega
    rw [readOctets, if_neg enough', List.take_left' length, List.drop_left' length]

theorem readText_cuts : Cuts readText (Content number .lengthDelimited) := by
  intro s octets rest accepted
  unfold readText at accepted ⊢
  cases read : readCounted octets with
  | error => simp only [read, reduceCtorEq] at accepted
  | ok reading =>
    obtain ⟨content, after⟩ := reading
    simp only [read] at accepted
    cases spelt : ofUtf8? content with
    | none => simp only [spelt, reduceCtorEq] at accepted
    | some s' =>
      simp only [spelt, Except.ok.injEq, Prod.mk.injEq] at accepted
      obtain ⟨rfl, rfl⟩ := accepted
      obtain ⟨taken, shape, split, again⟩ := readCounted_cuts read
      exact ⟨taken, shape, split, fun rest' => by simp only [again, spelt]⟩

end Contents

/-! ## 2. Fields that are not defined -/

/-- The same of a reader that gives nothing but what is left. -/
def Skips (skip : List UInt8 → Except Fault (List UInt8)) (form : List UInt8 → Prop) : Prop :=
  ∀ ⦃octets rest : List UInt8⦄, skip octets = .ok rest →
    ∃ taken, form taken ∧ octets = taken ++ rest ∧ ∀ rest', skip (taken ++ rest') = .ok rest'

/-- What is read may be dropped. -/
theorem Cuts.skips {α : Type} {read : List UInt8 → Reading α} {form : List UInt8 → Prop}
    (h : Cuts read form) : Skips (fun octets => (read octets).map Prod.snd) form := by
  intro octets rest accepted
  obtain ⟨⟨a, after⟩, first, rfl⟩ := map_eq_ok_iff.mp accepted
  obtain ⟨taken, shape, split, again⟩ := h first
  exact ⟨taken, shape, split, fun rest' => map_eq_ok_iff.mpr ⟨_, again rest', rfl⟩⟩

section Skipping

variable {unknown : Unknown}

theorem skipPlain_skips (number : Nat) (type : WireType) :
    Skips (skipPlain unknown type) (Content number type) := by
  cases type with
  | varint => exact readNumber_cuts.skips
  | sixtyFourBit => exact ((readOctets_cuts 8).imp fun _ => .sixtyFourBit).skips
  | lengthDelimited => exact readCounted_cuts.skips
  | thirtyTwoBit => exact ((readOctets_cuts 4).imp fun _ => .thirtyTwoBit).skips
  | startGroup | endGroup =>
    intro octets rest accepted
    cases unknown <;> cases accepted

/-- **The records of a group are skipped up to its end**, of which there are no more than octets. -/
theorem skipGroup_content {skip : Nat → WireType → List UInt8 → Except Fault (List UInt8)}
    (h : ∀ inner type, Skips (skip inner type) (Content inner type)) {number fuel : Nat}
    {octets rest : List UInt8} (accepted : skipGroup skip number fuel octets = .ok rest) :
    ∃ taken, Content number .startGroup taken ∧ octets = taken ++ rest ∧
      ∀ fuel' rest', taken.length ≤ fuel' →
        skipGroup skip number fuel' (taken ++ rest') = .ok rest' := by
  induction fuel generalizing octets with
  | zero => cases accepted
  | succ fuel ih =>
    obtain ⟨inner, type, after, first, ⟨rfl, rfl, rfl⟩ | ⟨more, others, skipped, later⟩⟩ :=
      skipGroup_eq_ok_iff.mp accepted
    · obtain ⟨key, rfl, isKey⟩ := readKey_eq_ok_iff.mp first
      refine ⟨key, .endGroup isKey, rfl, fun fuel' rest' enough => ?_⟩
      obtain ⟨fuel', rfl⟩ := Nat.exists_eq_succ_of_ne_zero
        (Nat.ne_of_gt (Nat.lt_of_lt_of_le isKey.length_pos enough))
      exact skipGroup_eq_ok_iff.mpr
        ⟨_, _, rest', readKey_eq_ok_iff.mpr ⟨key, rfl, isKey⟩, .inl ⟨rfl, rfl, rfl⟩⟩
    · obtain ⟨key, rfl, isKey⟩ := readKey_eq_ok_iff.mp first
      obtain ⟨content, shape, rfl, again⟩ := h inner type skipped
      obtain ⟨group, inside, rfl, behind⟩ := ih later
      refine ⟨key ++ content ++ group, .inGroup isKey shape inside, ?_, fun fuel' rest' enough => ?_⟩
      · simp only [List.append_assoc]
      · have some := isKey.length_pos
        rw [List.length_append, List.length_append] at enough
        obtain ⟨fuel', rfl⟩ := Nat.exists_eq_succ_of_ne_zero (by omega : fuel' ≠ 0)
        refine skipGroup_eq_ok_iff.mpr ⟨inner, type, content ++ group ++ rest', ?_, .inr
          ⟨more, group ++ rest', ?_, behind fuel' rest' (by omega)⟩⟩
        · exact readKey_eq_ok_iff.mpr ⟨key, by simp only [List.append_assoc], isKey⟩
        · rw [List.append_assoc]
          exact again _

/-- **A field that is not defined is skipped by its wire type.** -/
theorem skipField_skips (depth number : Nat) (type : WireType) :
    Skips (skipField unknown depth number type) (Content number type) := by
  induction depth generalizing number type with
  | zero =>
    intro octets rest accepted
    simp only [skipField] at accepted ⊢
    split at accepted
    · cases accepted
    · rename_i within
      simp only [if_neg within]
      exact skipPlain_skips number type accepted
  | succ depth ih =>
    intro octets rest accepted
    simp only [skipField] at accepted ⊢
    split at accepted
    · rename_i group
      subst group
      obtain ⟨taken, shape, split, again⟩ := skipGroup_content ih accepted
      refine ⟨taken, shape, split, fun rest' => again _ rest' ?_⟩
      rw [List.length_append]
      omega
    · rename_i plain
      simp only [if_neg plain]
      exact skipPlain_skips number type accepted

end Skipping

/-! ## 3. Records -/

/-- **A reader of records that looks at none of the octets behind each.** -/
def Local {σ : Type} (read : σ → List UInt8 → Reading σ) : Prop :=
  ∀ s, Cuts (read s) fun taken => taken ≠ []

namespace Local

variable {σ : Type} {read : σ → List UInt8 → Reading σ} {s s' : σ} {octets rest : List UInt8}

/-- **What is read as records is records**, and then what is left. -/
theorem readRecords (h : Local read) {limit fuel : Nat}
    (accepted : Wire.readRecords read limit fuel s octets = .ok (s', rest)) :
    ∃ content, octets = content ++ rest ∧ Records read s content s' := by
  induction fuel generalizing s octets with
  | zero =>
    cases accepted
    exact ⟨[], rfl, .nil _⟩
  | succ fuel ih =>
    rw [Wire.readRecords] at accepted
    split at accepted
    · cases first : read s octets with
      | error => simp only [first, reduceCtorEq] at accepted
      | ok next =>
        obtain ⟨t, after⟩ := next
        simp only [first] at accepted
        obtain ⟨record, present, rfl, again⟩ := h s first
        obtain ⟨others, rfl, records⟩ := ih accepted
        exact ⟨record ++ others, (List.append_assoc _ _ _).symm, .cons present again records⟩
    · cases accepted
      exact ⟨[], rfl, .nil _⟩

/-- **Records are read up to the end**, if there may be as many of them as octets. -/
theorem nothing_left (h : Local read) {fuel : Nat} (enough : octets.length ≤ fuel)
    (accepted : Wire.readRecords read 0 fuel s octets = .ok (s', rest)) : rest = [] := by
  induction fuel generalizing s octets with
  | zero =>
    cases accepted
    exact List.length_eq_zero_iff.mp (Nat.le_zero.mp enough)
  | succ fuel ih =>
    rw [Wire.readRecords] at accepted
    split at accepted
    · cases first : read s octets with
      | error => simp only [first, reduceCtorEq] at accepted
      | ok next =>
        obtain ⟨t, after⟩ := next
        simp only [first] at accepted
        obtain ⟨record, present, rfl, _⟩ := h s first
        have some := List.length_pos_iff.mpr present
        rw [List.length_append] at enough
        exact ih (by omega) accepted
    · rename_i none
      cases accepted
      exact List.length_eq_zero_iff.mp (Nat.eq_zero_of_not_pos none)

/-- **A nested content is a counted one.** -/
theorem readNested_cuts (h : Local read) (number : Nat) (s : σ) :
    Cuts (readNested read s) (Content number .lengthDelimited) := by
  intro s' octets rest accepted
  obtain ⟨length, inside, counted, enough, left, records⟩ := readNested_eq_ok_iff.mp accepted
  obtain ⟨count, rfl, varint⟩ := readNumber_eq_ok_iff.mp counted
  obtain ⟨content, rfl, inOrder⟩ := h.readRecords records
  rw [List.length_append] at enough left
  have same : content.length = length := by omega
  subst same
  refine ⟨count ++ content, .counted varint, (List.append_assoc _ _ _).symm, fun rest' => ?_⟩
  have whole : (content ++ rest').length - content.length = rest'.length := by
    rw [List.length_append]
    omega
  have short : content.length ≤ (content ++ rest').length := by
    rw [List.length_append]
    omega
  rw [List.append_assoc]
  refine readNested_eq_ok_iff.mpr
    ⟨_, _, readNumber_eq_ok_iff.mpr ⟨count, rfl, varint⟩, short, whole.symm, ?_⟩
  rw [whole]
  exact inOrder.readRecords_eq short rest'

end Local

/-- **A key, and then octets of a form** that hangs on it. -/
def Keyed (form : Nat → WireType → List UInt8 → Prop) (taken : List UInt8) : Prop :=
  ∃ number type key content, IsKey key number type ∧ form number type content ∧
    taken = key ++ content

theorem Keyed.ne_nil {form : Nat → WireType → List UInt8 → Prop} {taken : List UInt8}
    (h : Keyed form taken) : taken ≠ [] := by
  obtain ⟨number, type, key, content, isKey, _, rfl⟩ := h
  exact List.append_ne_nil_of_left_ne_nil (List.length_pos_iff.mp isKey.length_pos) _

/-- What reads a key and goes on by it cuts off both. -/
theorem keyed_cuts {α : Type} {read : List UInt8 → Reading α}
    {follow : Nat → WireType → List UInt8 → Reading α} {form : Nat → WireType → List UInt8 → Prop}
    (same : ∀ octets, read octets =
      match readKey octets with
      | .error fault => .error fault
      | .ok ((number, type), rest) => follow number type rest)
    (h : ∀ number type, Cuts (follow number type) (form number type)) : Cuts read (Keyed form) := by
  intro a octets rest accepted
  rw [same] at accepted
  cases first : readKey octets with
  | error => simp only [first, reduceCtorEq] at accepted
  | ok reading =>
    obtain ⟨⟨number, type⟩, after⟩ := reading
    simp only [first] at accepted
    obtain ⟨key, rfl, isKey⟩ := readKey_eq_ok_iff.mp first
    obtain ⟨content, shape, rfl, again⟩ := h number type accepted
    refine ⟨key ++ content, ⟨number, type, key, content, isKey, shape, rfl⟩,
      (List.append_assoc _ _ _).symm, fun rest' => ?_⟩
    rw [same, List.append_assoc, readKey_eq_ok_iff.mpr ⟨key, rfl, isKey⟩]
    exact again rest'

/-! ## 4. Fields -/

section Fields

variable {inner : Inner} {depth number : Nat} {type : WireType}

/-- A content of the expected type. -/
theorem expected_cuts {α : Type} {expected : WireType} {read : List UInt8 → Reading α}
    (h : Cuts read (Content number expected)) :
    Cuts (fun octets =>
      match expectType type expected with
      | .error fault => .error fault
      | .ok () => read octets) (Content number type) := by
  intro a octets rest accepted
  cases allowed : expectType type expected with
  | error => simp only [allowed, reduceCtorEq] at accepted
  | ok =>
    obtain rfl := expectType_eq_ok_iff.mp allowed
    simp only [allowed] at accepted ⊢
    exact h accepted

theorem mergeNumber_cuts (make : Nat → Value) :
    Cuts (fun octets => mergeNumber type octets make) (Content number type) :=
  expected_cuts (readNumber_cuts.map make)

theorem mergeText_cuts (make : String → Value) :
    Cuts (fun octets => mergeText type octets make) (Content number type) :=
  expected_cuts (readText_cuts.map make)

/-- What is skipped leaves what was read before. -/
theorem skipped_cuts {α : Type} (depth : Nat) {unknown : Unknown} (a : α) :
    Cuts (fun octets => (skipField unknown depth number type octets).map fun after => (a, after))
      (Content number type) := by
  intro a' octets rest accepted
  obtain ⟨after, skipped, same⟩ := map_eq_ok_iff.mp accepted
  cases same
  obtain ⟨taken, shape, split, again⟩ := skipField_skips depth number type skipped
  exact ⟨taken, shape, split, fun rest' => map_eq_ok_iff.mpr ⟨_, again rest', rfl⟩⟩

/-- The records of a label are read as such. -/
theorem mergeLabel_local (depth : Nat) : Local (mergeLabel depth) := by
  intro entry
  have keyed : Cuts (mergeLabel depth entry) (Keyed Content) := by
    refine keyed_cuts (fun octets => rfl) fun number type => ?_
    by_cases known : number = 1 ∨ number = 2
    · simp only [if_pos known]
      refine expected_cuts fun e octets rest accepted => ?_
      cases text : readText octets with
      | error => simp only [text, reduceCtorEq] at accepted
      | ok reading =>
        obtain ⟨s, after⟩ := reading
        simp only [text, Except.ok.injEq, Prod.mk.injEq] at accepted
        obtain ⟨rfl, rfl⟩ := accepted
        obtain ⟨taken, shape, split, again⟩ := readText_cuts text
        exact ⟨taken, shape, split, fun rest' => by simp only [again]⟩
    · simp only [if_neg known]
      exact skipped_cuts depth entry
  exact keyed.imp fun taken => Keyed.ne_nil

/-- **The wire type that the content of a field is read by**: that of its record, but the content of
    labels is counted, whatever the wire type of its record says. -/
def readAs (f : FieldType) (type : WireType) : WireType :=
  if f = .labels then .lengthDelimited else type

/-- Nested messages are read as counted contents. -/
def InnerCuts (inner : Inner) : Prop :=
  ∀ t values number, Cuts (readInner inner t values) (Content number .lengthDelimited)

theorem mergeInner_cuts (h : InnerCuts inner) (t : MessageType) (values : List Value)
    (make : List Value → Value) :
    Cuts (fun octets => mergeInner inner type t values octets make) (Content number type) :=
  expected_cuts ((h t values number).map make)

theorem mergeEntry_cuts (entries : List (String × String)) :
    Cuts (mergeEntry depth entries) (Content number .lengthDelimited) := by
  cases depth with
  | zero => exact fun v octets rest accepted => by cases accepted
  | succ depth =>
    exact ((mergeLabel_local depth).readNested_cuts number ("", "")).map fun e =>
      Value.labels (insertEntry e.1 e.2 entries)

/-- **The content of a field is cut off by the wire type that it is read by.** -/
theorem mergeValue_cuts (h : InnerCuts inner) (f : FieldType) (v : Value) :
    Cuts (mergeValue inner depth f v type) (Content number (readAs f type)) := by
  cases f with
  | text => exact mergeText_cuts .text
  | int64 => exact mergeNumber_cuts fun n => .int64 (toInt64 n)
  | int32 => exact mergeNumber_cuts fun n => .int32 (toInt32 n)
  | status => exact mergeNumber_cuts fun n => .int32 (toInt32 n)
  | flag => exact mergeNumber_cuts fun n => .flag (n != 0)
  | texts =>
    rw [mergeValue_texts]
    exact mergeText_cuts fun s => .texts (textsOf v ++ [s])
  | labels =>
    rw [mergeValue_labels]
    exact mergeEntry_cuts (labelsOf v)
  | message t => exact mergeInner_cuts h t (valuesOf t v) .message
  | messages t =>
    rw [mergeValue_messages]
    exact mergeInner_cuts h t t.empty fun vs => .messages (messagesOf v ++ [vs])

end Fields

/-! ## 5. Messages -/

/-- **The wire type that a record of a message is read by.** -/
def recordType (t : MessageType) (number : Nat) (type : WireType) : WireType :=
  match t.field? number with
  | some f => readAs f.type type
  | none => type

/-- **A record as the reader of a message takes it**: a key and a content, which for labels is
    counted, whatever the wire type in the key says, and for all other fields, defined or not, is what
    that wire type asks for. -/
inductive Taken (t : MessageType) (number : Nat) : List UInt8 → Prop where
  | mk {type : WireType} {key content : List UInt8} (first : IsKey key number type)
      (value : Content number (recordType t number type) content) : Taken t number (key ++ content)

section Messages

variable {unknown : Unknown} {inner : Inner} {depth : Nat} {t : MessageType} {values : List Value}

/-- There is a value for each field. -/
theorem held_of_field {number : Nat} {f : Field} (whole : values.length = t.fields.length)
    (known : t.field? number = some f) : values[number - 1]? ≠ none := by
  rw [MessageType.field?] at known
  split at known
  · cases known
  · have place := (List.getElem?_eq_some_iff.mp known).1
    rw [← whole] at place
    rw [List.getElem?_eq_getElem place]
    exact Option.some_ne_none _

theorem atField_eq_ok_iff {α : Type} {f : Field} {x : Except Fault α} {a : α} :
    atField unknown t f x = .ok a ↔ x = .ok a := by
  cases x with
  | error => cases unknown <;> simp only [atField, reduceCtorEq]
  | ok => rfl

/-- **A record of a message is a key and a content.** If the message has a value for each field, the
    content is cut off by the wire type that the record is read by. -/
theorem mergeRecord_cuts (h : InnerCuts inner) (values : List Value) :
    Cuts (mergeRecord unknown inner depth t values) (Keyed fun number type content =>
      ∃ type', Content number type' content ∧
        (values.length = t.fields.length → type' = recordType t number type)) := by
  refine keyed_cuts (fun octets => rfl) fun number type => ?_
  cases known : t.field? number with
  | none =>
    refine (skipped_cuts depth values).imp fun content shape => ⟨type, shape, fun _ => ?_⟩
    rw [recordType, known]
  | some f =>
    cases held : values[number - 1]? with
    | none =>
      refine (skipped_cuts depth values).imp fun content shape => ⟨type, shape, fun whole => ?_⟩
      exact absurd held (held_of_field whole known)
    | some v =>
      intro values' octets rest accepted
      obtain ⟨⟨v', after⟩, merged, same⟩ := map_eq_ok_iff.mp accepted
      cases same
      obtain ⟨content, shape, split, again⟩ :=
        mergeValue_cuts h f.type v (atField_eq_ok_iff.mp merged)
      refine ⟨content, ⟨_, shape, fun _ => by rw [recordType, known]⟩, split, fun rest' => ?_⟩
      exact map_eq_ok_iff.mpr ⟨_, atField_eq_ok_iff.mpr (again rest'), rfl⟩

theorem mergeRecord_local (h : InnerCuts inner) : Local (mergeRecord unknown inner depth t) :=
  fun values => (mergeRecord_cuts h values).imp fun _ => Keyed.ne_nil

/-- At any depth the messages inside are read as counted contents. -/
theorem recordReader_eq (unknown : Unknown) (depth : Nat) :
    ∃ inner, InnerCuts inner ∧ recordReader unknown depth = mergeRecord unknown inner depth := by
  induction depth with
  | zero =>
    have refused : InnerCuts none := fun t values number v octets rest accepted => by cases accepted
    exact ⟨none, refused, rfl⟩
  | succ depth ih =>
    obtain ⟨inner, h, same⟩ := ih
    refine ⟨some (recordReader unknown depth), fun t values number => ?_, rfl⟩
    have records : Local (recordReader unknown depth t) := same ▸ mergeRecord_local h
    exact records.readNested_cuts number values

theorem recordReader_local (depth : Nat) : Local (recordReader unknown depth t) := by
  obtain ⟨inner, h, same⟩ := recordReader_eq unknown depth
  rw [same]
  exact mergeRecord_local h

/-- **What is cut off at any depth is a record as the message has it.** -/
theorem recordReader_cuts (depth : Nat) (whole : values.length = t.fields.length) :
    Cuts (recordReader unknown depth t values) fun taken => ∃ number, Taken t number taken := by
  obtain ⟨inner, h, same⟩ := recordReader_eq unknown depth
  rw [same]
  refine (mergeRecord_cuts h values).imp ?_
  rintro taken ⟨number, type, key, content, isKey, ⟨_, shape, type_eq⟩, rfl⟩
  rw [type_eq whole] at shape
  exact ⟨number, .mk isKey shape⟩

end Messages

end ControlPlane.Wire
