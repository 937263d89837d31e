import ControlPlane.Text.Integer

/-!
# What octets can be other than a message

* `WireType` -- the six forms a field is written in;
* `Cause`, `Fault` -- why octets are no message, and where: the fields on the way to the place,
  the innermost first;
* `Fault.text` -- the wording.
-/

namespace ControlPlane.Wire

open Text

/-! ## 1. Wire types -/

/-- The forms of a written field. -/
inductive WireType where
  | varint
  | sixtyFourBit
  | lengthDelimited
  | startGroup
  | endGroup
  | thirtyTwoBit
  deriving DecidableEq, Repr

namespace WireType

/-- The number of a form. -/
def number : WireType → Nat
  | .varint => 0
  | .sixtyFourBit => 1
  | .lengthDelimited => 2
  | .startGroup => 3
  | .endGroup => 4
  | .thirtyTwoBit => 5

/-- The form of a number. -/
def ofNumber? : Nat → Option WireType
  | 0 => some .varint
  | 1 => some .sixtyFourBit
  | 2 => some .lengthDelimited
  | 3 => some .startGroup
  | 4 => some .endGroup
  | 5 => some .thirtyTwoBit
  | _ => none

/-- The name of a form. -/
def name : WireType → String
  | .varint => "Varint"
  | .sixtyFourBit => "SixtyFourBit"
  | .lengthDelimited => "LengthDelimited"
  | .startGroup => "StartGroup"
  | .endGroup => "EndGroup"
  | .thirtyTwoBit => "ThirtyTwoBit"

end WireType

/-! ## 2. Faults -/

/-- Why octets are no message. -/
inductive Cause where
  | invalidVarint
  | invalidKey (key : Nat)
  | invalidWireType (number : Nat)
  | invalidTag
  | unexpectedWireType (actual expected : WireType)
  | underflow
  | notUtf8
  | recursionLimit
  | lengthExceeded
  | unexpectedEndGroup
  deriving DecidableEq, Repr

/-- The wording of a cause. -/
def Cause.text : Cause → String
  | .invalidVarint => "invalid varint"
  | .invalidKey key => "invalid key value: " ++ String.ofList (decimal key)
  | .invalidWireType number => "invalid wire type value: " ++ String.ofList (decimal number)
  | .invalidTag => "invalid tag value: 0"
  | .unexpectedWireType actual expected =>
    "invalid wire type: " ++ actual.name ++ " (expected " ++ expected.name ++ ")"
  | .underflow => "buffer underflow"
  | .notUtf8 => "invalid string value: data is not UTF-8 encoded"
  | .recursionLimit => "recursion limit reached"
  | .lengthExceeded => "delimited length exceeded"
  | .unexpectedEndGroup => "unexpected end group tag"

/-- Why octets are no message, and the fields on the way to the place: the names of a message and
    of its field, the innermost first. -/
structure Fault where
  path : List (String × String)
  cause : Cause
  deriving DecidableEq, Repr

namespace Fault

/-- A fault at the place itself. -/
def here (cause : Cause) : Fault := ⟨[], cause⟩

/-- A fault inside a field. -/
def inField (f : Fault) (message field : String) : Fault :=
  ⟨f.path ++ [(message, field)], f.cause⟩

/-- The wording of a fault. -/
def text (f : Fault) : String :=
  "failed to decode Protobuf message: " ++
    String.join (f.path.map fun step => step.1 ++ "." ++ step.2 ++ ": ") ++ f.cause.text

end Fault

end ControlPlane.Wire
