import ControlPlane.Proofs.Wire.Length
import ControlPlane.Proofs.Wire.RoundTrip

/-!
# Every message is read back

* `MessageType.Carrier` -- the messages of each type of the schema;
* `typed_carrier` -- the values of each fit its fields;
* `decode_any_order` -- **every message of every type is read back from its octets**, with its
  labels and those of the messages inside of it in any order, and the octets are as many as its
  length says.
-/

namespace ControlPlane

open List (Forall₂)
open Wire

/-- An entry of labels as a message. -/
structure LabelsEntry where
  key : String := ""
  value : String := ""
  deriving DecidableEq, Inhabited

instance : Message LabelsEntry where
  type := .labelsEntry
  toValues e := [.text e.key, .text e.value]
  ofValues
    | [.text key, .text value] => ⟨key, value⟩
    | _ => default
  ofValues_toValues _ := rfl

namespace MessageType

/-- The messages of a type. -/
def Carrier : MessageType → Type
  | .timestamp => Timestamp
  | .labelsEntry => LabelsEntry
  | .computeInstance => Instance
  | .disk => Disk
  | .operation => Operation
  | .getInstanceRequest => GetInstanceRequest
  | .getDiskRequest => GetDiskRequest
  | .listInstancesRequest => ListInstancesRequest
  | .listDisksRequest => ListDisksRequest
  | .listOperationsRequest => ListOperationsRequest
  | .listInstancesResponse => ListInstancesResponse
  | .listDisksResponse => ListDisksResponse
  | .listOperationsResponse => ListOperationsResponse

instance : (t : MessageType) → Message t.Carrier
  | .timestamp => inferInstanceAs (Message Timestamp)
  | .labelsEntry => inferInstanceAs (Message LabelsEntry)
  | .computeInstance => inferInstanceAs (Message Instance)
  | .disk => inferInstanceAs (Message Disk)
  | .operation => inferInstanceAs (Message Operation)
  | .getInstanceRequest => inferInstanceAs (Message GetInstanceRequest)
  | .getDiskRequest => inferInstanceAs (Message GetDiskRequest)
  | .listInstancesRequest => inferInstanceAs (Message ListInstancesRequest)
  | .listDisksRequest => inferInstanceAs (Message ListDisksRequest)
  | .listOperationsRequest => inferInstanceAs (Message ListOperationsRequest)
  | .listInstancesResponse => inferInstanceAs (Message ListInstancesResponse)
  | .listDisksResponse => inferInstanceAs (Message ListDisksResponse)
  | .listOperationsResponse => inferInstanceAs (Message ListOperationsResponse)

/-- **The values of a message fit the fields of its type.** -/
theorem typed_carrier (t : MessageType) (m : t.Carrier) :
    Typed maxDepth (Message.type t.Carrier) (Message.toValues m) := by
  cases t with
  | timestamp => exact typed_timestamp 99 m
  | labelsEntry => exact .cons (.text _) (.cons (.text _) .nil)
  | computeInstance => exact typed_instance 98 m
  | disk => exact typed_disk 98 m
  | operation => exact typed_operation 98 m
  | getInstanceRequest => exact Method.typed_request .getInstance m
  | getDiskRequest => exact Method.typed_request .getDisk m
  | listInstancesRequest => exact Method.typed_request .listInstances m
  | listDisksRequest => exact Method.typed_request .listDisks m
  | listOperationsRequest => exact Method.typed_request .listOperations m
  | listInstancesResponse => exact Method.typed_response .listInstances m
  | listDisksResponse => exact Method.typed_response .listDisks m
  | listOperationsResponse => exact Method.typed_response .listOperations m

/-- **Every message of every type is read back.** It may be written with its labels in any order,
    and so may the messages inside of it, each in an order of its own. The octets are then as many
    as the length of the message says, and they are read as the message, whatever its texts, numbers
    and labels are, and whatever of it is absent.

    A length is a number of 64 bits. -/
theorem decode_any_order (t : MessageType) (m : t.Carrier) {written : List Value}
    (arranged : Forall₂ Rearranged (Message.toValues m) written) :
    (Wire.encode written).length = Message.encodedLength m ∧
      (Message.encodedLength m < 2 ^ 64 →
        Message.decode t.Carrier (Wire.encode written) = .ok m) := by
  have length : (Wire.encode written).length = Message.encodedLength m :=
    (length_encode written).trans (encodedLength_rearranged arranged)
  refine ⟨length, fun short => ?_⟩
  rw [← length] at short
  rw [Message.decode, decode_rearranged .skip (t.typed_carrier m) arranged short]
  exact congrArg Except.ok (Message.ofValues_toValues m)

end MessageType

/-- A page of two instances: one with labels, an empty one among them, and one with nothing but a
    point in time whose fields are all zero. -/
def labelledPage : ListInstancesResponse :=
  ⟨[{ id := "a", labels := .ofEntries [("", "x"), ("env", ""), ("tier", "db")], status := -1 },
    { createdAt := some {} }], "t"⟩

/-- The values of the page with the labels in the reverse order. -/
def labelledPageReversed : List Value :=
  [.messages
    [[.text "a", .text "", .absent, .text "", .labels [("tier", "db"), ("env", ""), ("", "x")],
        .text "", .int32 (-1)],
      [.text "", .text "", .message [.int64 0, .int32 0], .text "", .labels [], .text "",
        .int32 0]],
    .text "t"]

/-- The page is read back from its octets with the labels in the reverse order. -/
theorem decode_any_order_reversed :
    Forall₂ Rearranged (Message.toValues labelledPage) labelledPageReversed ∧
      (Wire.encode labelledPageReversed).length = 47 ∧
      Message.decode ListInstancesResponse (Wire.encode labelledPageReversed) =
        .ok labelledPage := by
  have labels : [("tier", "db"), ("env", ""), ("", "x")].Perm
      [("", "x"), ("env", ""), ("tier", "db")] := by decide
  have arranged : Forall₂ Rearranged (Message.toValues labelledPage) labelledPageReversed :=
    .cons (.messages (.cons
      (.cons (.same _) <| .cons (.same _) <| .cons (.same _) <| .cons (.same _) <|
        .cons (.labels labels) <| .cons (.same _) <| .cons (.same _) .nil)
      (.cons (rearranged_refl _) .nil))) (.cons (.same _) .nil)
  have read := MessageType.decode_any_order .listInstancesResponse labelledPage arranged
  exact ⟨arranged, by decide +kernel, read.2 (by decide +kernel)⟩

end ControlPlane
