import ControlPlane.Schema
import ControlPlane.Text.Utf8
import ControlPlane.Wire.Fault
import ControlPlane.Wire.Varint

/-!
# Messages as octets

* `encode` -- the fields of a message in the order of their numbers, each with a key that holds
  its number and wire type; a field that holds nothing but its absence is left out;
* `encodedLength` -- how many octets that takes, counted without writing them.

A label is written as a message of its own with the key as field 1 and the text as field 2.
-/

namespace ControlPlane.Wire

open Text

/-! ## 1. Parts of a record -/

/-- The key of a field. -/
def fieldKey (number : Nat) (type : WireType) : List UInt8 := varint (8 * number + type.number)

/-- A field whose content is counted. -/
def delimited (number : Nat) (content : List UInt8) : List UInt8 :=
  fieldKey number .lengthDelimited ++ varint content.length ++ content

/-- A field that holds a number. -/
def numeric (number n : Nat) : List UInt8 := fieldKey number .varint ++ varint n

/-- A field that holds a text. -/
def textual (number : Nat) (s : String) : List UInt8 := delimited number (utf8 s)

/-- A field that holds a text, unless that is empty. -/
def textualUnlessEmpty (number : Nat) (s : String) : List UInt8 :=
  if s.isEmpty then [] else textual number s

/-- The content of a label. -/
def labelContent (entry : String × String) : List UInt8 :=
  textualUnlessEmpty 1 entry.1 ++ textualUnlessEmpty 2 entry.2

/-! ## 2. Messages -/

mutual

/-- The octets of a field. -/
def encodeValue (number : Nat) : Value → List UInt8
  | .text s => textualUnlessEmpty number s
  | .int64 n => if n = 0 then [] else numeric number (ofInt64 n)
  | .int32 n => if n = 0 then [] else numeric number (ofInt32 n)
  | .flag b => if b then numeric number 1 else []
  | .texts items => items.flatMap (textual number)
  | .labels entries => entries.flatMap fun e => delimited number (labelContent e)
  | .absent => []
  | .message values => delimited number (encodeFrom 1 values)
  | .messages items => encodeItems number items

/-- The octets of the fields from a number on. -/
def encodeFrom (number : Nat) : List Value → List UInt8
  | [] => []
  | v :: rest => encodeValue number v ++ encodeFrom (number + 1) rest

/-- The octets of several messages in one field. -/
def encodeItems (number : Nat) : List (List Value) → List UInt8
  | [] => []
  | values :: rest => delimited number (encodeFrom 1 values) ++ encodeItems number rest

end

/-- The octets of a message. -/
def encode (values : List Value) : List UInt8 := encodeFrom 1 values

/-! ## 3. Lengths -/

/-- The length of a key. -/
def keyLength (number : Nat) : Nat := varintLength (8 * number)

/-- The length of a field with a content of some length. -/
def delimitedLength (number content : Nat) : Nat :=
  keyLength number + varintLength content + content

/-- The length of a field that holds a number. -/
def numericLength (number n : Nat) : Nat := keyLength number + varintLength n

/-- The length of a field that holds a text. -/
def textualLength (number : Nat) (s : String) : Nat := delimitedLength number s.utf8ByteSize

/-- The length of a field that holds a text, unless that is empty. -/
def textualUnlessEmptyLength (number : Nat) (s : String) : Nat :=
  if s.isEmpty then 0 else textualLength number s

/-- The length of the content of a label. -/
def labelLength (entry : String × String) : Nat :=
  textualUnlessEmptyLength 1 entry.1 + textualUnlessEmptyLength 2 entry.2

mutual

/-- The length of a field. -/
def valueLength (number : Nat) : Value → Nat
  | .text s => textualUnlessEmptyLength number s
  | .int64 n => if n = 0 then 0 else numericLength number (ofInt64 n)
  | .int32 n => if n = 0 then 0 else numericLength number (ofInt32 n)
  | .flag b => if b then numericLength number 1 else 0
  | .texts items => (items.map (textualLength number)).sum
  | .labels entries => (entries.map fun e => delimitedLength number (labelLength e)).sum
  | .absent => 0
  | .message values => delimitedLength number (lengthFrom 1 values)
  | .messages items => itemsLength number items

/-- The length of the fields from a number on. -/
def lengthFrom (number : Nat) : List Value → Nat
  | [] => 0
  | v :: rest => valueLength number v + lengthFrom (number + 1) rest

/-- The length of several messages in one field. -/
def itemsLength (number : Nat) : List (List Value) → Nat
  | [] => 0
  | values :: rest => delimitedLength number (lengthFrom 1 values) + itemsLength number rest

end

/-- The length of a message. -/
def encodedLength (values : List Value) : Nat := lengthFrom 1 values

end ControlPlane.Wire
