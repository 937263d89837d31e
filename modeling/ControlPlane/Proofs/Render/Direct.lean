import ControlPlane.Client.Method
import ControlPlane.Proofs.Wire.Accepted
import ControlPlane.Proofs.Wire.Leniency
import ControlPlane.Render

/-!
# The direct mapping

A resource is rendered by way of its octets and of the schema. What comes out can be said without
either: the object of the fields that hold something, under their names in JSON.

* `Listing.direct` -- the object that is built from the fields alone;
* `Render.messageJson_fault` -- the only fault in the values of a message is a time out of range;
* `Render.messageJson_direct` -- the values of a resource give the direct mapping;
* `Render.ofOctets_of_decode` -- octets that hold a message are rendered as the message is;
* `rendered_directly` -- **rendering by way of the octets is the direct mapping**.
-/

namespace ControlPlane

open List (Forall₂)
open Text Wire

/-! ## 1. The mapping -/

/-- An instant of the years 1 to 9999, with nanoseconds of less than a second. -/
structure Timestamp.Canonical (t : Timestamp) : Prop where
  first : -62135596800 ≤ t.seconds.toInt
  last : t.seconds.toInt ≤ 253402300799
  positive : 0 ≤ t.nanos.toInt
  subsecond : t.nanos.toInt < 1000000000

namespace Direct

/-- A text, unless it is empty. -/
def text (s : String) : Option Json := if s = "" then none else some (.text s)

/-- The text of an instant, if there is one. -/
def time (t : Option Timestamp) : Option Json :=
  t.map fun t => .text (Instant.ofParts t.seconds.toInt t.nanos.toInt).text

/-- Texts, unless there are none. -/
def texts (items : List String) : Option Json :=
  if items = [] then none else some (.list (items.map .text))

/-- A label as a member. -/
def entry (e : String × String) : String × Json := (e.1, .text e.2)

/-- The object of some labels, unless there are none. -/
def labels (l : Labels) : Option Json :=
  if l.entries = [] then none else some (.object (l.entries.map entry))

/-- The digits of a size, unless it is zero. -/
def size (n : Int64) : Option Json := if n = 0 then none else some (.text (toString n.toInt))

/-- A flag, if it is set. -/
def flag (b : Bool) : Option Json := if b then some (.bool true) else none

/-- The name of a status, unless it is zero; the number of one that has no name. -/
def status (n : Int32) : Option Json :=
  if n = 0 then none
  else if n = 1 then some (.text "PROVISIONING")
  else if n = 2 then some (.text "RUNNING")
  else if n = 3 then some (.text "STOPPING")
  else if n = 4 then some (.text "STOPPED")
  else if n = 5 then some (.text "DELETING")
  else some (.number n.toInt)

/-- The members that are there. -/
def held (members : List (String × Option Json)) : List (String × Json) :=
  members.filterMap fun m => m.2.map fun j => (m.1, j)

end Direct

namespace Listing

/-- When an item was created. -/
def createdAt : (l : Listing) → l.Item → Option Timestamp
  | .instances, (i : Instance) => i.createdAt
  | .disks, (d : Disk) => d.createdAt
  | .operations, (o : Operation) => o.createdAt

/-- **An item that was created in the years 1 to 9999**, or is not told when. -/
def Canonical (l : Listing) (m : l.Item) : Prop := ∀ t, l.createdAt m = some t → t.Canonical

/-- The fields of an item under their names in JSON, each with what it holds. -/
def members : (l : Listing) → l.Item → List (String × Option Json)
  | .instances, (i : Instance) =>
    [("id", Direct.text i.id), ("folderId", Direct.text i.folderId),
      ("createdAt", Direct.time i.createdAt), ("name", Direct.text i.name),
      ("labels", Direct.labels i.labels), ("zoneId", Direct.text i.zoneId),
      ("status", Direct.status i.status)]
  | .disks, (d : Disk) =>
    [("id", Direct.text d.id), ("folderId", Direct.text d.folderId),
      ("createdAt", Direct.time d.createdAt), ("name", Direct.text d.name),
      ("zoneId", Direct.text d.zoneId), ("size", Direct.size d.size),
      ("instanceIds", Direct.texts d.instanceIds)]
  | .operations, (o : Operation) =>
    [("id", Direct.text o.id), ("description", Direct.text o.description),
      ("createdAt", Direct.time o.createdAt), ("createdBy", Direct.text o.createdBy),
      ("done", Direct.flag o.done)]

/-- **The object that is built from the fields of an item.** -/
def direct (l : Listing) (m : l.Item) : Json := .ofMembers (Direct.held (l.members m))

end Listing

namespace Render

/-! ## 2. Faults -/

theorem timeText_fault {seconds : Int64} {nanos : Int32} {fault : RenderFault}
    (h : timeText seconds nanos = .error fault) : fault = .timeOutOfRange := by
  unfold timeText at h
  split at h
  · exact (Except.error.inj h).symm
  · cases h

theorem map_eq_error {ε α β : Type} {f : α → β} {x : Except ε α} {fault : ε}
    (h : x.map f = .error fault) : x = .error fault := by
  cases x with
  | error e =>
    cases h
    rfl
  | ok a => cases h

/-- A message has the faults of its members and those of a time. -/
theorem assemble_fault {t : MessageType} {values : List Value}
    {members : Except RenderFault (List (String × Json))} {fault : RenderFault}
    (inside : members = .error fault → fault = .timeOutOfRange)
    (h : assemble t values members = .error fault) : fault = .timeOutOfRange := by
  unfold assemble at h
  split at h
  · exact timeText_fault (map_eq_error h)
  · exact inside (map_eq_error h)

mutual

/-- **The only fault in a value is a time out of range.** -/
theorem valueJson_fault {type : FieldType} {fault : RenderFault} :
    ∀ {v : Value}, valueJson type v = .error fault → fault = .timeOutOfRange
  | .text _, h | .int64 _, h | .int32 _, h | .flag _, h | .texts _, h | .labels _, h
  | .absent, h => by cases h
  | .message values, h => by
    cases type with
    | message t => exact assemble_fault membersJson_fault (map_eq_error h)
    | _ => cases h
  | .messages items, h => by
    cases type with
    | messages t =>
      rw [valueJson] at h
      cases inside : itemsJson t items with
      | error e =>
        rw [inside] at h
        cases h
        exact itemsJson_fault inside
      | ok jsons =>
        rw [inside] at h
        cases jsons <;> cases h
    | _ => cases h

theorem membersJson_fault {fields : List Field} {fault : RenderFault} :
    ∀ {values : List Value}, membersJson fields values = .error fault → fault = .timeOutOfRange
  | [], h => by cases h
  | v :: rest, h => by
    cases fields with
    | nil => cases h
    | cons f fields =>
      rw [membersJson] at h
      cases first : valueJson f.type v with
      | error e =>
        rw [first] at h
        cases h
        exact valueJson_fault first
      | ok json =>
        cases others : membersJson fields rest with
        | error e =>
          rw [first, others] at h
          cases h
          exact membersJson_fault others
        | ok members =>
          rw [first, others] at h
          cases h

theorem itemsJson_fault {t : MessageType} {fault : RenderFault} :
    ∀ {items : List (List Value)}, itemsJson t items = .error fault → fault = .timeOutOfRange
  | [], h => by cases h
  | values :: rest, h => by
    rw [itemsJson] at h
    cases first : assemble t values (membersJson t.fields values) with
    | error e =>
      rw [first] at h
      cases h
      exact assemble_fault membersJson_fault first
    | ok json =>
      rw [first] at h
      exact itemsJson_fault (map_eq_error h)

end

/-- **The only fault in the values of a message is a time out of range.** -/
theorem messageJson_fault {t : MessageType} {values : List Value} {fault : RenderFault}
    (h : messageJson t values = .error fault) : fault = .timeOutOfRange :=
  assemble_fault membersJson_fault h

/-! ## 3. Fields -/

theorem valueJson_text (s : String) : valueJson .text (.text s) = .ok (Direct.text s) := by
  rw [valueJson, Direct.text]
  simp only [String.isEmpty_iff]

/-- The digits of a number with its sign are its usual text. -/
theorem ofList_decimalInt (n : Int) : String.ofList (decimalInt n) = toString n := by
  cases n with
  | ofNat n => rfl
  | negSucc n =>
    show String.ofList ('-' :: Nat.toDigits 10 (n + 1)) =
      "-" ++ String.ofList (Nat.toDigits 10 (n + 1))
    rw [← String.toList_inj, String.toList_append, String.toList_ofList, String.toList_ofList,
      String.toList_ofList]
    rfl

theorem valueJson_int64 (n : Int64) : valueJson .int64 (.int64 n) = .ok (Direct.size n) := by
  rw [valueJson, Direct.size, ofList_decimalInt]

theorem valueJson_flag (b : Bool) : valueJson .flag (.flag b) = .ok (Direct.flag b) := by
  rw [valueJson, Direct.flag]

theorem valueJson_texts (items : List String) :
    valueJson .texts (.texts items) = .ok (Direct.texts items) := by
  rw [valueJson, Direct.texts]
  simp only [List.isEmpty_iff]

/-- Labels are in the order of their keys, so that their object has their entries as they stand. -/
theorem valueJson_labels (l : Labels) :
    valueJson .labels (.labels l.entries) = .ok (Direct.labels l) := by
  have ordered : InKeyOrder ([] ++ l.entries.map Direct.entry) :=
    List.pairwise_map.mpr l.inKeyOrder
  have object : labelsJson l.entries = .object (l.entries.map Direct.entry) :=
    congrArg Json.object (insertAll_eq_append ordered)
  rw [valueJson, Direct.labels, object]
  simp only [List.isEmpty_iff]

/-- A status other than zero is its name, or its number if it has none. -/
theorem status_eq (n : Int32) : Direct.status n = if n = 0 then none else some (statusJson n) := by
  by_cases known : ∃ s ∈ InstanceStatus.all, s.number = n
  · obtain ⟨s, _, rfl⟩ := known
    cases s <;> rfl
  · have other : ∀ s : InstanceStatus, n ≠ s.number := fun s same =>
      known ⟨s, by cases s <;> decide, same.symm⟩
    have none : InstanceStatus.ofNumber? n = none :=
      List.find?_eq_none.mpr fun s _ same => other s (beq_iff_eq.mp same).symm
    rw [statusJson, none, Direct.status, if_neg (show n ≠ 1 from other .provisioning),
      if_neg (show n ≠ 2 from other .running), if_neg (show n ≠ 3 from other .stopping),
      if_neg (show n ≠ 4 from other .stopped), if_neg (show n ≠ 5 from other .deleting)]

theorem valueJson_status (n : Int32) : valueJson .status (.int32 n) = .ok (Direct.status n) := by
  rw [valueJson, if_pos rfl, status_eq]

theorem valueJson_time {t : Option Timestamp} (h : ∀ u, t = some u → u.Canonical) :
    valueJson (.message .timestamp) (timeValue t) = .ok (Direct.time t) := by
  cases t with
  | none => rfl
  | some u =>
    have inside : ¬ (u.seconds.toInt < firstSecond ∨ lastSecond < u.seconds.toInt) := by
      have canonical := h u rfl
      have first := canonical.first
      have last := canonical.last
      rw [firstSecond, lastSecond]
      omega
    show ((timeText u.seconds u.nanos).map Json.text).map some = _
    rw [timeText, if_neg inside]
    rfl

/-! ## 4. Messages -/

/-- The members of the first field and of the others. -/
theorem membersJson_cons {f : Field} {fields : List Field} {v : Value} {rest : List Value}
    {name : String} {json : Option Json} {members : List (String × Option Json)}
    (named : f.jsonName = name) (first : valueJson f.type v = .ok json)
    (others : membersJson fields rest = .ok (Direct.held members)) :
    membersJson (f :: fields) (v :: rest) = .ok (Direct.held ((name, json) :: members)) := by
  rw [membersJson]
  simp only [first, others, named]
  cases json <;> rfl

/-- **The values of a resource give the direct mapping.** -/
theorem messageJson_direct (l : Listing) {m : l.Item} (canonical : l.Canonical m) :
    messageJson (Message.type l.Item) (Message.toValues m) = .ok (l.direct m) := by
  have none : ∀ fields, membersJson fields [] = .ok (Direct.held []) := fun _ => rfl
  have object : membersJson (Message.type l.Item).fields (Message.toValues m) =
      .ok (Direct.held (l.members m)) := by
    cases l with
    | instances =>
      exact membersJson_cons rfl (valueJson_text _) <| membersJson_cons rfl (valueJson_text _) <|
        membersJson_cons rfl (valueJson_time canonical) <|
        membersJson_cons rfl (valueJson_text _) <| membersJson_cons rfl (valueJson_labels _) <|
        membersJson_cons rfl (valueJson_text _) <| membersJson_cons rfl (valueJson_status _) (none _)
    | disks =>
      exact membersJson_cons rfl (valueJson_text _) <| membersJson_cons rfl (valueJson_text _) <|
        membersJson_cons rfl (valueJson_time canonical) <|
        membersJson_cons rfl (valueJson_text _) <| membersJson_cons rfl (valueJson_text _) <|
        membersJson_cons rfl (valueJson_int64 _) <| membersJson_cons rfl (valueJson_texts _) (none _)
    | operations =>
      exact membersJson_cons rfl (valueJson_text _) <| membersJson_cons rfl (valueJson_text _) <|
        membersJson_cons rfl (valueJson_time canonical) <|
        membersJson_cons rfl (valueJson_text _) <| membersJson_cons rfl (valueJson_flag _) (none _)
  have whole : messageJson (Message.type l.Item) (Message.toValues m) =
      (membersJson (Message.type l.Item).fields (Message.toValues m)).map .ofMembers := by
    cases l <;> rfl
  rw [whole, object]
  rfl

/-! ## 5. Octets -/

theorem lookUp_fullName (t : MessageType) : lookUp t.fullName = some t := by
  cases t <;> rfl

/-- Octets that are read are rendered as their values. -/
theorem ofOctets_of_ok {t : MessageType} {octets : List UInt8} {values : List Value}
    (read : decode .keep t octets = .ok values) :
    ofOctets t.fullName octets = messageJson t values := by
  rw [ofOctets, lookUp_fullName]
  simp only [read]

end Render

namespace Listing

variable (l : Listing)

theorem typed_item (m : l.Item) : Typed maxDepth (Message.type l.Item) (Message.toValues m) := by
  cases l with
  | instances => exact typed_instance 98 m
  | disks => exact typed_disk 98 m
  | operations => exact typed_operation 98 m

/-- What fits a field for a point in time is one, or none. -/
theorem exists_time {depth : Nat} {v : Value}
    (fits : Fits (Typed (depth + 1)) (.message .timestamp) v) : ∃ t, v = timeValue t := by
  cases fits with
  | absent => exact ⟨none, rfl⟩
  | message typed =>
    rcases typed with _ | ⟨seconds, _ | ⟨nanos, ⟨⟩⟩⟩
    cases seconds with | int64 s =>
    cases nanos with | int32 n =>
    exact ⟨some ⟨s, n⟩, rfl⟩

/-- **Values that fit the fields of an item are those of an item.** -/
theorem exists_item {depth : Nat} {values : List Value}
    (typed : Forall₂ (fun f v => Fits (Typed (depth + 1)) f.type v)
      (Message.type l.Item).fields values) : ∃ m : l.Item, values = Message.toValues m := by
  cases l with
  | instances =>
    rcases typed with _ | ⟨id, _ | ⟨folderId, _ | ⟨createdAt, _ | ⟨name, _ | ⟨labels,
      _ | ⟨zoneId, _ | ⟨status, ⟨⟩⟩⟩⟩⟩⟩⟩⟩
    obtain ⟨t, rfl⟩ := exists_time createdAt
    cases id with | text a =>
    cases folderId with | text b =>
    cases name with | text c =>
    cases labels with | labels ordered =>
    cases zoneId with | text d =>
    cases status with | status n =>
    exact ⟨(⟨a, b, t, c, ⟨_, ordered⟩, d, n⟩ : Instance), rfl⟩
  | disks =>
    rcases typed with _ | ⟨id, _ | ⟨folderId, _ | ⟨createdAt, _ | ⟨name, _ | ⟨zoneId,
      _ | ⟨size, _ | ⟨instanceIds, ⟨⟩⟩⟩⟩⟩⟩⟩⟩
    obtain ⟨t, rfl⟩ := exists_time createdAt
    cases id with | text a =>
    cases folderId with | text b =>
    cases name with | text c =>
    cases zoneId with | text d =>
    cases size with | int64 n =>
    cases instanceIds with | texts items =>
    exact ⟨(⟨a, b, t, c, d, n, items⟩ : Disk), rfl⟩
  | operations =>
    rcases typed with _ | ⟨id, _ | ⟨description, _ | ⟨createdAt, _ | ⟨createdBy,
      _ | ⟨done, ⟨⟩⟩⟩⟩⟩⟩
    obtain ⟨t, rfl⟩ := exists_time createdAt
    cases id with | text a =>
    cases description with | text b =>
    cases createdBy with | text c =>
    cases done with | flag d =>
    exact ⟨(⟨a, b, t, c, d⟩ : Operation), rfl⟩

/-- A point in time takes a few octets. -/
theorem brief_time (t : Option Timestamp) : Brief (timeValue t) := by
  cases t with
  | none => trivial
  | some t =>
    have seconds := varintLength_le (ofInt64 t.seconds)
    have nanos := varintLength_le (ofInt32 t.nanos)
    have first : valueLength 1 (.int64 t.seconds) ≤ 11 := by
      show (if t.seconds = 0 then 0 else 1 + varintLength (ofInt64 t.seconds)) ≤ 11
      split <;> omega
    have second : valueLength 2 (.int32 t.nanos) ≤ 11 := by
      show (if t.nanos = 0 then 0 else 1 + varintLength (ofInt32 t.nanos)) ≤ 11
      split <;> omega
    have whole : (encodeFrom 1 [.int64 t.seconds, .int32 t.nanos]).length =
        valueLength 1 (.int64 t.seconds) + (valueLength 2 (.int32 t.nanos) + 0) :=
      length_encodeFrom 1 _
    show (encodeFrom 1 [.int64 t.seconds, .int32 t.nanos]).length < 2 ^ 64
    omega

/-- What is counted field by field can be counted as a whole. -/
theorem brief_item {m : l.Item} (counted : Forall₂ (fun f v => Counted f.type v)
    (Message.type l.Item).fields (Message.toValues m)) :
    Forall₂ (fun _ v => Brief v) (Message.type l.Item).fields (Message.toValues m) := by
  cases l with
  | instances =>
    rcases counted with _ | ⟨id, _ | ⟨folderId, _ | ⟨_, _ | ⟨name, _ | ⟨labels, _ | ⟨zoneId, _⟩⟩⟩⟩⟩⟩
    exact .cons id <| .cons folderId <| .cons (brief_time _) <| .cons name <| .cons labels <|
      .cons zoneId <| .cons trivial .nil
  | disks =>
    rcases counted with _ | ⟨id, _ | ⟨folderId, _ | ⟨_, _ | ⟨name, _ | ⟨zoneId, _ | ⟨_,
      _ | ⟨instanceIds, _⟩⟩⟩⟩⟩⟩⟩
    exact .cons id <| .cons folderId <| .cons (brief_time _) <| .cons name <| .cons zoneId <|
      .cons trivial <| .cons instanceIds .nil
  | operations =>
    rcases counted with _ | ⟨id, _ | ⟨description, _ | ⟨_, _ | ⟨createdBy, _⟩⟩⟩⟩
    exact .cons id <| .cons description <| .cons (brief_time _) <| .cons createdBy <|
      .cons trivial .nil

/-- **What is read is the values of the item, and can be written.** -/
theorem read_item {octets : List UInt8} {m : l.Item}
    (read : Message.decode l.Item octets = .ok m) :
    decode .skip (Message.type l.Item) octets = .ok (Message.toValues m) ∧
      ∀ v ∈ Message.toValues m, Brief v := by
  obtain ⟨values, decoded, rfl⟩ := map_eq_ok_iff.mp read
  obtain ⟨m, rfl⟩ := l.exists_item (decode_typed decoded)
  rw [Message.ofValues_toValues]
  exact ⟨decoded, forall_of_forall₂ (l.brief_item (decode_counted decoded))⟩

end Listing

/-! ## 6. Rendering -/

namespace Render

/-- **Octets that hold an item are rendered as the item is.** -/
theorem ofOctets_of_decode (l : Listing) {octets : List UInt8} {m : l.Item}
    (read : Message.decode l.Item octets = .ok m) :
    ofOctets (Message.type l.Item).fullName octets = toJson m := by
  obtain ⟨decoded, brief⟩ := l.read_item read
  have again := decode_brief .keep (l.typed_item m) (rearranged_refl _) brief
  rw [ofOctets_of_ok (decode_keep_of_skip decoded), toJson]
  exact (ofOctets_of_ok again).symm

/-- An item is rendered as its values are. -/
theorem toJson_eq (l : Listing) {m : l.Item} (short : Message.encodedLength m < 2 ^ 64) :
    toJson m = messageJson (Message.type l.Item) (Message.toValues m) := by
  rw [Message.encodedLength, ← length_encode] at short
  exact ofOctets_of_ok (decode_encode .keep (l.typed_item m) short)

/-- **An item with a canonical time, or none, is rendered as the object of its fields.** -/
theorem toJson_direct (l : Listing) {m : l.Item} (short : Message.encodedLength m < 2 ^ 64)
    (canonical : l.Canonical m) : toJson m = .ok (l.direct m) := by
  rw [toJson_eq l short]
  exact messageJson_direct l canonical

/-- The order in which the labels of an item are written does not show. -/
theorem ofOctets_rearranged (l : Listing) {m : l.Item} (short : Message.encodedLength m < 2 ^ 64)
    {written : List Value} (arranged : Forall₂ Rearranged (Message.toValues m) written) :
    ofOctets (Message.type l.Item).fullName (encode written) = toJson m := by
  rw [Message.encodedLength, ← encodedLength_rearranged arranged, ← length_encode] at short
  refine ofOctets_of_decode l ?_
  rw [Message.decode, decode_rearranged .skip (l.typed_item m) arranged short]
  exact congrArg Except.ok (Message.ofValues_toValues m)

end Render

/-- **Rendering by way of the octets is the direct mapping.** An item of fewer than `2 ^ 64` octets,
    as all are that fit a memory, cannot be rendered only if its time is out of range; one with a
    canonical time, or none, gives the object of its fields, and the order in which its labels are
    written does not show. Octets that hold an item, whoever wrote them, are rendered as the item
    is. -/
theorem rendered_directly (l : Listing) :
    (∀ m : l.Item, Message.encodedLength m < 2 ^ 64 →
      (∀ fault, Render.toJson m = .error fault → fault = .timeOutOfRange) ∧
      (l.Canonical m → Render.toJson m = .ok (l.direct m)) ∧
      ∀ written, Forall₂ Rearranged (Message.toValues m) written →
        Render.ofOctets (Message.type l.Item).fullName (encode written) = Render.toJson m) ∧
    ∀ octets, ∀ m : l.Item, Message.decode l.Item octets = .ok m →
      Render.ofOctets (Message.type l.Item).fullName octets = Render.toJson m := by
  refine ⟨fun m short => ⟨fun fault failed => ?_, Render.toJson_direct l short, ?_⟩, ?_⟩
  · rw [Render.toJson_eq l short] at failed
    exact Render.messageJson_fault failed
  · exact fun written arranged => Render.ofOctets_rearranged l short arranged
  · exact fun octets m read => Render.ofOctets_of_decode l read

/-- A running instance that was created at the start of 1970. -/
theorem running_instance_rendered :
    Render.toJson (M := Listing.Item .instances) (⟨"inst-1", "folder", some ⟨0, 0⟩, "web",
      .ofEntries [("env", "prod")], "zone-a", 2⟩ : Instance) =
      .ok (.object [("createdAt", .text "1970-01-01T00:00:00Z"), ("folderId", .text "folder"),
        ("id", .text "inst-1"), ("labels", .object [("env", .text "prod")]),
        ("name", .text "web"), ("status", .text "RUNNING"), ("zoneId", .text "zone-a")]) := by
  refine (((rendered_directly .instances).1 _ (by decide)).2.1 ?_).trans ?_
  · intro t created
    cases created
    exact ⟨by decide, by decide, by decide, by decide⟩
  · rfl

end ControlPlane
