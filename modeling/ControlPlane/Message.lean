import ControlPlane.Labels
import ControlPlane.Wire.Decode
import ControlPlane.Wire.Encode

/-!
# The messages

The resources, the requests and the responses as structures, each with its values in the order of
the schema (`Message`), so that all of them are written and read by the same rules:

* `Message.encode`, `Message.encodedLength`, `Message.decode` -- the octets of a message;
* `Message.ofValues_toValues` -- **the values of a message give it back**.
-/

namespace ControlPlane

open Wire

/-! ## 1. Resources -/

/-- A point in time: seconds and nanoseconds from the start of 1970. -/
structure Timestamp where
  seconds : Int64 := 0
  nanos : Int32 := 0
  deriving DecidableEq, Inhabited

/-- A virtual server. Its status is the raw number, known or not. -/
structure Instance where
  id : String := ""
  folderId : String := ""
  createdAt : Option Timestamp := none
  name : String := ""
  labels : Labels := .empty
  zoneId : String := ""
  status : Int32 := 0
  deriving Inhabited

/-- A disk, with the instances it is attached to. -/
structure Disk where
  id : String := ""
  folderId : String := ""
  createdAt : Option Timestamp := none
  name : String := ""
  zoneId : String := ""
  size : Int64 := 0
  instanceIds : List String := []
  deriving DecidableEq, Inhabited

/-- A long-running action. -/
structure Operation where
  id : String := ""
  description : String := ""
  createdAt : Option Timestamp := none
  createdBy : String := ""
  done : Bool := false
  deriving DecidableEq, Inhabited

/-! ## 2. Requests and responses -/

/-- Asks for one instance. -/
structure GetInstanceRequest where
  instanceId : String := ""
  deriving DecidableEq, Inhabited

/-- Asks for one disk. -/
structure GetDiskRequest where
  diskId : String := ""
  deriving DecidableEq, Inhabited

/-- Asks for a page of the instances of a folder. -/
structure ListInstancesRequest where
  folderId : String := ""
  pageSize : Int64 := 0
  pageToken : String := ""
  filter : String := ""
  deriving DecidableEq, Inhabited

/-- Asks for a page of the disks of a folder. -/
structure ListDisksRequest where
  folderId : String := ""
  pageSize : Int64 := 0
  pageToken : String := ""
  filter : String := ""
  deriving DecidableEq, Inhabited

/-- Asks for a page of the operations on an instance. -/
structure ListOperationsRequest where
  instanceId : String := ""
  pageSize : Int64 := 0
  pageToken : String := ""
  deriving DecidableEq, Inhabited

/-- A page of instances. -/
structure ListInstancesResponse where
  instances : List Instance := []
  nextPageToken : String := ""
  deriving Inhabited

/-- A page of disks. -/
structure ListDisksResponse where
  disks : List Disk := []
  nextPageToken : String := ""
  deriving DecidableEq, Inhabited

/-- A page of operations. -/
structure ListOperationsResponse where
  operations : List Operation := []
  nextPageToken : String := ""
  deriving DecidableEq, Inhabited

/-! ## 3. Messages as values of the schema -/

/-- A message of the schema. -/
class Message (M : Type) where
  type : MessageType
  toValues : M → List Value
  /-- The message of some values; values of another form give the default. -/
  ofValues : List Value → M
  ofValues_toValues : ∀ m, ofValues (toValues m) = m

namespace Message

/-- The octets of a message. -/
def encode {M : Type} [Message M] (m : M) : List UInt8 := Wire.encode (toValues m)

/-- The number of its octets. -/
def encodedLength {M : Type} [Message M] (m : M) : Nat := Wire.encodedLength (toValues m)

/-- The message that octets hold; unknown fields are skipped. -/
def decode (M : Type) [Message M] (octets : List UInt8) : Except Fault M :=
  (Wire.decode .skip (type M) octets).map ofValues

end Message

instance : Message Timestamp where
  type := .timestamp
  toValues t := [.int64 t.seconds, .int32 t.nanos]
  ofValues
    | [.int64 seconds, .int32 nanos] => ⟨seconds, nanos⟩
    | _ => default
  ofValues_toValues _ := rfl

/-- A point in time as a field. -/
def timeValue : Option Timestamp → Value
  | none => .absent
  | some t => .message (Message.toValues t)

/-- The point in time that a field holds. -/
def timeOfValue : Value → Option Timestamp
  | .message values => some (Message.ofValues values)
  | _ => none

@[simp] theorem timeOfValue_timeValue : ∀ t, timeOfValue (timeValue t) = t
  | none => rfl
  | some _ => rfl

instance : Message Instance where
  type := .computeInstance
  toValues i :=
    [.text i.id, .text i.folderId, timeValue i.createdAt, .text i.name, .labels i.labels.entries,
      .text i.zoneId, .int32 i.status]
  ofValues
    | [.text id, .text folderId, createdAt, .text name, .labels labels, .text zoneId,
        .int32 status] =>
      ⟨id, folderId, timeOfValue createdAt, name, Labels.ofEntries labels, zoneId, status⟩
    | _ => default
  ofValues_toValues i := by simp

instance : Message Disk where
  type := .disk
  toValues d :=
    [.text d.id, .text d.folderId, timeValue d.createdAt, .text d.name, .text d.zoneId,
      .int64 d.size, .texts d.instanceIds]
  ofValues
    | [.text id, .text folderId, createdAt, .text name, .text zoneId, .int64 size,
        .texts instanceIds] =>
      ⟨id, folderId, timeOfValue createdAt, name, zoneId, size, instanceIds⟩
    | _ => default
  ofValues_toValues d := by simp

instance : Message Operation where
  type := .operation
  toValues o :=
    [.text o.id, .text o.description, timeValue o.createdAt, .text o.createdBy, .flag o.done]
  ofValues
    | [.text id, .text description, createdAt, .text createdBy, .flag done] =>
      ⟨id, description, timeOfValue createdAt, createdBy, done⟩
    | _ => default
  ofValues_toValues o := by simp

instance : Message GetInstanceRequest where
  type := .getInstanceRequest
  toValues r := [.text r.instanceId]
  ofValues
    | [.text instanceId] => ⟨instanceId⟩
    | _ => default
  ofValues_toValues _ := rfl

instance : Message GetDiskRequest where
  type := .getDiskRequest
  toValues r := [.text r.diskId]
  ofValues
    | [.text diskId] => ⟨diskId⟩
    | _ => default
  ofValues_toValues _ := rfl

instance : Message ListInstancesRequest where
  type := .listInstancesRequest
  toValues r := [.text r.folderId, .int64 r.pageSize, .text r.pageToken, .text r.filter]
  ofValues
    | [.text folderId, .int64 pageSize, .text pageToken, .text filter] =>
      ⟨folderId, pageSize, pageToken, filter⟩
    | _ => default
  ofValues_toValues _ := rfl

instance : Message ListDisksRequest where
  type := .listDisksRequest
  toValues r := [.text r.folderId, .int64 r.pageSize, .text r.pageToken, .text r.filter]
  ofValues
    | [.text folderId, .int64 pageSize, .text pageToken, .text filter] =>
      ⟨folderId, pageSize, pageToken, filter⟩
    | _ => default
  ofValues_toValues _ := rfl

instance : Message ListOperationsRequest where
  type := .listOperationsRequest
  toValues r := [.text r.instanceId, .int64 r.pageSize, .text r.pageToken]
  ofValues
    | [.text instanceId, .int64 pageSize, .text pageToken] => ⟨instanceId, pageSize, pageToken⟩
    | _ => default
  ofValues_toValues _ := rfl

/-- Several messages, each from its values. -/
theorem map_ofValues_toValues {M : Type} [Message M] (items : List M) :
    (items.map Message.toValues).map (Message.ofValues (M := M)) = items := by
  rw [List.map_map]
  exact (List.map_congr_left fun m _ => Message.ofValues_toValues m).trans (List.map_id items)

instance : Message ListInstancesResponse where
  type := .listInstancesResponse
  toValues r := [.messages (r.instances.map Message.toValues), .text r.nextPageToken]
  ofValues
    | [.messages instances, .text nextPageToken] =>
      ⟨instances.map Message.ofValues, nextPageToken⟩
    | _ => default
  ofValues_toValues r := by simp only [map_ofValues_toValues]

instance : Message ListDisksResponse where
  type := .listDisksResponse
  toValues r := [.messages (r.disks.map Message.toValues), .text r.nextPageToken]
  ofValues
    | [.messages disks, .text nextPageToken] => ⟨disks.map Message.ofValues, nextPageToken⟩
    | _ => default
  ofValues_toValues r := by simp only [map_ofValues_toValues]

instance : Message ListOperationsResponse where
  type := .listOperationsResponse
  toValues r := [.messages (r.operations.map Message.toValues), .text r.nextPageToken]
  ofValues
    | [.messages operations, .text nextPageToken] =>
      ⟨operations.map Message.ofValues, nextPageToken⟩
    | _ => default
  ofValues_toValues r := by simp only [map_ofValues_toValues]

end ControlPlane
