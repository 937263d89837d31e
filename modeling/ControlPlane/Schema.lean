import ControlPlane.Text.Integer

/-!
# The schema of the messages

* `MessageType` -- the messages, with their short and full names;
* `MessageType.fields` -- the fields of a message; a field's number is its position, from 1 on;
* `Value` -- what a field holds, and `FieldType.absence`, what it holds when nothing was written;
* `InstanceStatus` -- the states of an instance, with their numbers and names.

The values of a message are a list with one value per field.
-/

namespace ControlPlane

/-! ## 1. Messages and fields -/

/-- The messages of the schema. -/
inductive MessageType where
  | timestamp
  | labelsEntry
  | computeInstance
  | disk
  | operation
  | getInstanceRequest
  | getDiskRequest
  | listInstancesRequest
  | listDisksRequest
  | listOperationsRequest
  | listInstancesResponse
  | listDisksResponse
  | listOperationsResponse
  deriving DecidableEq, Repr

/-- What a field may hold. -/
inductive FieldType where
  | text
  | int64
  | int32
  | flag
  /-- A number that stands for a state of an instance. -/
  | status
  | texts
  | labels
  | message (type : MessageType)
  | messages (type : MessageType)
  deriving DecidableEq, Repr

/-- A field of a message. -/
structure Field where
  name : String
  type : FieldType
  deriving DecidableEq, Repr

/-- A name whose words are joined by underscores, with capitals in place of the underscores. -/
def camelChars : List Char → List Char
  | [] => []
  | '_' :: c :: rest => c.toUpper :: camelChars rest
  | c :: rest => c :: camelChars rest

/-- The name of a field in JSON. -/
def Field.jsonName (f : Field) : String := String.ofList (camelChars f.name.toList)

namespace MessageType

/-- The messages, in the order of their declaration. -/
def all : List MessageType :=
  [.timestamp, .labelsEntry, .computeInstance, .disk, .operation, .getInstanceRequest, .getDiskRequest,
    .listInstancesRequest, .listDisksRequest, .listOperationsRequest, .listInstancesResponse,
    .listDisksResponse, .listOperationsResponse]

/-- The name of a message inside its package. -/
def name : MessageType → String
  | .timestamp => "Timestamp"
  | .labelsEntry => "Instance.LabelsEntry"
  | .computeInstance => "Instance"
  | .disk => "Disk"
  | .operation => "Operation"
  | .getInstanceRequest => "GetInstanceRequest"
  | .getDiskRequest => "GetDiskRequest"
  | .listInstancesRequest => "ListInstancesRequest"
  | .listDisksRequest => "ListDisksRequest"
  | .listOperationsRequest => "ListInstanceOperationsRequest"
  | .listInstancesResponse => "ListInstancesResponse"
  | .listDisksResponse => "ListDisksResponse"
  | .listOperationsResponse => "ListInstanceOperationsResponse"

/-- The package of a message. -/
def package : MessageType → String
  | .timestamp => "google.protobuf"
  | .operation => "cloud.operation"
  | _ => "cloud.compute.v1"

/-- The name of a message with its package. -/
def fullName (t : MessageType) : String := t.package ++ "." ++ t.name

/-- The message of a name inside a package. -/
def ofName? (name : String) : Option MessageType := all.find? fun t => t.name == name

/-- The message of a full name. -/
def ofFullName? (name : String) : Option MessageType := all.find? fun t => t.fullName == name

/-- The fields of a message, in the order of their numbers. -/
def fields : MessageType → List Field
  | .timestamp => [⟨"seconds", .int64⟩, ⟨"nanos", .int32⟩]
  | .labelsEntry => [⟨"key", .text⟩, ⟨"value", .text⟩]
  | .computeInstance =>
    [⟨"id", .text⟩, ⟨"folder_id", .text⟩, ⟨"created_at", .message .timestamp⟩, ⟨"name", .text⟩,
      ⟨"labels", .labels⟩, ⟨"zone_id", .text⟩, ⟨"status", .status⟩]
  | .disk =>
    [⟨"id", .text⟩, ⟨"folder_id", .text⟩, ⟨"created_at", .message .timestamp⟩, ⟨"name", .text⟩,
      ⟨"zone_id", .text⟩, ⟨"size", .int64⟩, ⟨"instance_ids", .texts⟩]
  | .operation =>
    [⟨"id", .text⟩, ⟨"description", .text⟩, ⟨"created_at", .message .timestamp⟩,
      ⟨"created_by", .text⟩, ⟨"done", .flag⟩]
  | .getInstanceRequest => [⟨"instance_id", .text⟩]
  | .getDiskRequest => [⟨"disk_id", .text⟩]
  | .listInstancesRequest | .listDisksRequest =>
    [⟨"folder_id", .text⟩, ⟨"page_size", .int64⟩, ⟨"page_token", .text⟩, ⟨"filter", .text⟩]
  | .listOperationsRequest =>
    [⟨"instance_id", .text⟩, ⟨"page_size", .int64⟩, ⟨"page_token", .text⟩]
  | .listInstancesResponse =>
    [⟨"instances", .messages .computeInstance⟩, ⟨"next_page_token", .text⟩]
  | .listDisksResponse => [⟨"disks", .messages .disk⟩, ⟨"next_page_token", .text⟩]
  | .listOperationsResponse =>
    [⟨"operations", .messages .operation⟩, ⟨"next_page_token", .text⟩]

/-- The field of a number. -/
def field? (t : MessageType) (number : Nat) : Option Field :=
  if number = 0 then none else t.fields[number - 1]?

end MessageType

/-! ## 2. Values -/

/-- What a field holds. -/
inductive Value where
  | text (s : String)
  | int64 (n : Int64)
  | int32 (n : Int32)
  | flag (b : Bool)
  | texts (items : List String)
  | labels (entries : List (String × String))
  | absent
  | message (values : List Value)
  | messages (items : List (List Value))
  deriving Inhabited

/-- What a field holds when nothing was written for it. -/
def FieldType.absence : FieldType → Value
  | .text => .text ""
  | .int64 => .int64 0
  | .int32 | .status => .int32 0
  | .flag => .flag false
  | .texts => .texts []
  | .labels => .labels []
  | .message _ => .absent
  | .messages _ => .messages []

/-- The values of a message for which nothing was written. -/
def MessageType.empty (t : MessageType) : List Value := t.fields.map fun f => f.type.absence

/-! ## 3. The states of an instance -/

/-- The states of an instance. -/
inductive InstanceStatus where
  | unspecified
  | provisioning
  | running
  | stopping
  | stopped
  | deleting
  deriving DecidableEq, Repr

namespace InstanceStatus

/-- The states, in the order of their numbers. -/
def all : List InstanceStatus :=
  [.unspecified, .provisioning, .running, .stopping, .stopped, .deleting]

/-- The number of a state. -/
def number : InstanceStatus → Int32
  | .unspecified => 0
  | .provisioning => 1
  | .running => 2
  | .stopping => 3
  | .stopped => 4
  | .deleting => 5

/-- The name of a state. -/
def name : InstanceStatus → String
  | .unspecified => "STATUS_UNSPECIFIED"
  | .provisioning => "PROVISIONING"
  | .running => "RUNNING"
  | .stopping => "STOPPING"
  | .stopped => "STOPPED"
  | .deleting => "DELETING"

/-- The state of a number. -/
def ofNumber? (n : Int32) : Option InstanceStatus := all.find? fun s => s.number == n

/-- The state of a name. -/
def ofName? (name : String) : Option InstanceStatus := all.find? fun s => s.name == name

/-- The state a raw number counts as. -/
def ofRaw (n : Int32) : InstanceStatus := (ofNumber? n).getD .unspecified

/-- The wording for a number of no state. -/
def unknownMessage (n : Int32) : String :=
  "unknown enumeration value " ++ String.ofList (Text.decimalInt n.toInt)

end InstanceStatus

end ControlPlane
