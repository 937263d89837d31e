import ControlPlane.Json
import ControlPlane.Message
import ControlPlane.Time.Instant

/-!
# Resources as JSON

A resource is rendered by way of its octets: they are read back through the schema and the values
are put under the JSON names of their fields.

* a field that holds nothing but its absence is left out;
* a 64-bit number is a text of digits, a 32-bit number a number;
* a state is its name, or its number if it has no name;
* a timestamp is the text of its instant, and its seconds have to lie in the years 1 to 9999.
-/

namespace ControlPlane

open Text Wire

/-! ## 1. Faults -/

/-- Why octets cannot be rendered. -/
inductive RenderFault where
  | unknownMessage (name : String)
  | malformed (name : String) (fault : Fault)
  | timeOutOfRange
  deriving DecidableEq, Repr

/-- The wording of a fault. -/
def RenderFault.message : RenderFault → String
  | .unknownMessage name => "Message '" ++ name ++ "' is not part of the embedded schema"
  | .malformed name fault =>
    "Failed to decode message as '" ++ name ++ "': '" ++ fault.text ++ "'"
  | .timeOutOfRange => "Failed to map message to JSON: 'timestamp out of range'"

/-! ## 2. Values -/

namespace Render

/-- The seconds of the first and of the last instant of the years 1 to 9999. -/
def firstSecond : Int := -62135596800

/-- The last second of the year 9999. -/
def lastSecond : Int := 253402300799

/-- The text of a timestamp. -/
def timeText (seconds : Int64) (nanos : Int32) : Except RenderFault String :=
  if seconds.toInt < firstSecond ∨ lastSecond < seconds.toInt then .error .timeOutOfRange
  else .ok (Instant.ofParts seconds.toInt nanos.toInt).text

/-- The JSON form of a state. -/
def statusJson (n : Int32) : Json :=
  match InstanceStatus.ofNumber? n with
  | some s => .text s.name
  | none => .number n.toInt

/-- The JSON form of labels. -/
def labelsJson (entries : List (String × String)) : Json :=
  .ofMembers (entries.map fun e => (e.1, .text e.2))

/-- The JSON form of a message with these members: a timestamp is a text, any other an object. -/
def assemble (t : MessageType) (values : List Value)
    (members : Except RenderFault (List (String × Json))) : Except RenderFault Json :=
  match t, values with
  | .timestamp, [.int64 seconds, .int32 nanos] => (timeText seconds nanos).map .text
  | _, _ => members.map .ofMembers

mutual

/-- The JSON form of what a field holds; none if that is its absence. -/
def valueJson (type : FieldType) : Value → Except RenderFault (Option Json)
  | .text s => .ok (if s.isEmpty then none else some (.text s))
  | .int64 n => .ok (if n = 0 then none else some (.text (String.ofList (decimalInt n.toInt))))
  | .int32 n =>
    .ok (if n = 0 then none
      else some (if type = .status then statusJson n else .number n.toInt))
  | .flag b => .ok (if b then some (.bool true) else none)
  | .texts items => .ok (if items.isEmpty then none else some (.list (items.map .text)))
  | .labels entries => .ok (if entries.isEmpty then none else some (labelsJson entries))
  | .absent => .ok none
  | .message values =>
    match type with
    | .message t => (assemble t values (membersJson t.fields values)).map some
    | _ => .ok none
  | .messages items =>
    match type with
    | .messages t =>
      match itemsJson t items with
      | .error fault => .error fault
      | .ok [] => .ok none
      | .ok jsons => .ok (some (.list jsons))
    | _ => .ok none

/-- The members for the fields that hold something. -/
def membersJson (fields : List Field) : List Value → Except RenderFault (List (String × Json))
  | [] => .ok []
  | v :: rest =>
    match fields with
    | [] => .ok []
    | f :: fields =>
      match valueJson f.type v with
      | .error fault => .error fault
      | .ok json =>
        match membersJson fields rest with
        | .error fault => .error fault
        | .ok members => .ok ((json.map fun j => (f.jsonName, j)).toList ++ members)

/-- The JSON forms of several messages. -/
def itemsJson (t : MessageType) : List (List Value) → Except RenderFault (List Json)
  | [] => .ok []
  | values :: rest =>
    match assemble t values (membersJson t.fields values) with
    | .error fault => .error fault
    | .ok json => (itemsJson t rest).map (json :: ·)

end

/-- The JSON form of a message. -/
def messageJson (t : MessageType) (values : List Value) : Except RenderFault Json :=
  assemble t values (membersJson t.fields values)

/-! ## 3. Messages -/

/-- The message of a full name; one point before the name does not count. -/
def lookUp (name : String) : Option MessageType :=
  match name.toList with
  | '.' :: rest => MessageType.ofFullName? (String.ofList rest)
  | _ => MessageType.ofFullName? name

/-- Renders octets as the message of a name. -/
def ofOctets (name : String) (octets : List UInt8) : Except RenderFault Json :=
  match lookUp name with
  | none => .error (.unknownMessage name)
  | some t =>
    match decode .keep t octets with
    | .error fault => .error (.malformed name fault)
    | .ok values => messageJson t values

/-- Renders a message. -/
def toJson {M : Type} [Message M] (m : M) : Except RenderFault Json :=
  ofOctets (Message.type M).fullName (Message.encode m)

end Render

end ControlPlane
