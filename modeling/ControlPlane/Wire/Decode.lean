import ControlPlane.KeyOrder
import ControlPlane.Schema
import ControlPlane.Text.Utf8
import ControlPlane.Wire.Fault
import ControlPlane.Wire.Varint

/-!
# Messages from octets

A message is read record by record; a record is a key and a content, and it is merged into the
values read so far:

* a later number, text or flag replaces an earlier one, and a later message is merged into it;
* texts, messages and labels are collected; a later label replaces one of the same key;
* a field that the message does not define is read over.

A nested message ends where its length says. Its last record may end later: that is a fault, but
it is found after the record has been read.

Two readers differ in what they do with a field that is not defined (`Unknown`): one skips it and
names the field on the way to each fault, the other keeps it apart and names none. Messages and
groups may be nested to a depth of 100.
-/

namespace ControlPlane.Wire

open Text

/-! ## 1. Readers -/

/-- What a reader gives: a result with the octets after it. -/
abbrev Reading (α : Type) : Type := Except Fault (α × List UInt8)

/-- What a reader does with fields that are not defined. -/
inductive Unknown where
  /-- It skips them; the depth is checked at each of them. -/
  | skip
  /-- It keeps them apart; the depth is checked at each group. -/
  | keep
  deriving DecidableEq, Repr

/-- How deep messages and groups may be nested. -/
def maxDepth : Nat := 100

/-- Reads a number. -/
def readNumber (octets : List UInt8) : Reading Nat :=
  match readVarint octets with
  | none => .error (.here .invalidVarint)
  | some reading => .ok reading

/-- Reads a key: the number of a field and its wire type. -/
def readKey (octets : List UInt8) : Reading (Nat × WireType) :=
  match readNumber octets with
  | .error fault => .error fault
  | .ok (key, rest) =>
    if maxWord32 < key then .error (.here (.invalidKey key))
    else
      match WireType.ofNumber? (key % 8) with
      | none => .error (.here (.invalidWireType (key % 8)))
      | some type =>
        if key / 8 = 0 then .error (.here .invalidTag) else .ok ((key / 8, type), rest)

/-- Refuses a wire type other than the expected one. -/
def expectType (actual expected : WireType) : Except Fault Unit :=
  if actual = expected then .ok () else .error (.here (.unexpectedWireType actual expected))

/-- Splits off `count` octets. -/
def readOctets (count : Nat) (octets : List UInt8) : Reading (List UInt8) :=
  if octets.length < count then .error (.here .underflow)
  else .ok (octets.take count, octets.drop count)

/-- Reads a content with its length before it. -/
def readCounted (octets : List UInt8) : Reading (List UInt8) :=
  match readNumber octets with
  | .error fault => .error fault
  | .ok (count, rest) => readOctets count rest

/-- Reads a text. -/
def readText (octets : List UInt8) : Reading String :=
  match readCounted octets with
  | .error fault => .error fault
  | .ok (content, rest) =>
    match ofUtf8? content with
    | none => .error (.here .notUtf8)
    | some s => .ok (s, rest)

/-- Reads records while more than `limit` octets are left, `fuel` records at most. -/
def readRecords {σ : Type} (read : σ → List UInt8 → Reading σ) (limit : Nat) :
    Nat → σ → List UInt8 → Reading σ
  | 0, s, octets => .ok (s, octets)
  | fuel + 1, s, octets =>
    if limit < octets.length then
      match read s octets with
      | .error fault => .error fault
      | .ok (s', rest) => readRecords read limit fuel s' rest
    else .ok (s, octets)

/-- Reads a length and then records, which have to end where the length says. -/
def readNested {σ : Type} (read : σ → List UInt8 → Reading σ) (s : σ) (octets : List UInt8) :
    Reading σ :=
  match readNumber octets with
  | .error fault => .error fault
  | .ok (count, rest) =>
    if rest.length < count then .error (.here .underflow)
    else
      match readRecords read (rest.length - count) rest.length s rest with
      | .error fault => .error fault
      | .ok (s', after) =>
        if after.length = rest.length - count then .ok (s', after)
        else .error (.here .lengthExceeded)

/-! ## 2. Fields that are not defined -/

/-- Reads over a content that is no group. -/
def skipPlain (unknown : Unknown) (type : WireType) (octets : List UInt8) :
    Except Fault (List UInt8) :=
  match type with
  | .varint => (readNumber octets).map Prod.snd
  | .sixtyFourBit => (readOctets 8 octets).map Prod.snd
  | .thirtyTwoBit => (readOctets 4 octets).map Prod.snd
  | .lengthDelimited => (readCounted octets).map Prod.snd
  | .startGroup | .endGroup =>
    match unknown with
    | .skip => .error (.here .unexpectedEndGroup)
    | .keep => .error (.here (.unexpectedWireType type .startGroup))

/-- Reads over the records of a group up to its end. -/
def skipGroup (skip : Nat → WireType → List UInt8 → Except Fault (List UInt8)) (number : Nat) :
    Nat → List UInt8 → Except Fault (List UInt8)
  | 0, _ => .error (.here .invalidVarint)
  | fuel + 1, octets =>
    match readKey octets with
    | .error fault => .error fault
    | .ok ((inner, type), rest) =>
      if type = .endGroup then
        if inner = number then .ok rest else .error (.here .unexpectedEndGroup)
      else
        match skip inner type rest with
        | .error fault => .error fault
        | .ok after => skipGroup skip number fuel after

/-- Reads over the content of a field. -/
def skipField (unknown : Unknown) : Nat → Nat → WireType → List UInt8 →
    Except Fault (List UInt8)
  | 0, _, type, octets =>
    if unknown = .skip ∨ type = .startGroup then .error (.here .recursionLimit)
    else skipPlain unknown type octets
  | depth + 1, number, type, octets =>
    if type = .startGroup then
      skipGroup (skipField unknown depth) number (octets.length + 1) octets
    else skipPlain unknown type octets

/-! ## 3. Fields that are defined -/

/-- Merges a record into a label. Its unknown fields are skipped by either reader. -/
def mergeLabel (depth : Nat) (entry : String × String) (octets : List UInt8) :
    Reading (String × String) :=
  match readKey octets with
  | .error fault => .error fault
  | .ok ((number, type), rest) =>
    if number = 1 ∨ number = 2 then
      match expectType type .lengthDelimited with
      | .error fault => .error fault
      | .ok () =>
        match readText rest with
        | .error fault => .error fault
        | .ok (s, after) =>
          .ok (if number = 1 then (s, entry.2) else (entry.1, s), after)
    else (skipField .skip depth number type rest).map fun after => (entry, after)

/-- The reader of records of a message at the next depth, if there is one. -/
abbrev Inner : Type := Option (MessageType → List Value → List UInt8 → Reading (List Value))

/-- Reads a nested message onto the values it has so far. -/
def readInner (inner : Inner) (t : MessageType) (values : List Value) (octets : List UInt8) :
    Reading (List Value) :=
  match inner with
  | none => .error (.here .recursionLimit)
  | some read => readNested (read t) values octets

/-- The values of a message in a field, and of one that is absent. -/
def valuesOf (t : MessageType) : Value → List Value
  | .message values => values
  | _ => t.empty

/-- Merges a number into a field by `make`. -/
def mergeNumber (type : WireType) (octets : List UInt8) (make : Nat → Value) : Reading Value :=
  match expectType type .varint with
  | .error fault => .error fault
  | .ok () => (readNumber octets).map fun (n, rest) => (make n, rest)

/-- Merges a text into a field by `make`. -/
def mergeText (type : WireType) (octets : List UInt8) (make : String → Value) : Reading Value :=
  match expectType type .lengthDelimited with
  | .error fault => .error fault
  | .ok () => (readText octets).map fun (s, rest) => (make s, rest)

/-- Merges a nested message, on some values, into a field by `make`. -/
def mergeInner (inner : Inner) (type : WireType) (t : MessageType) (values : List Value)
    (octets : List UInt8) (make : List Value → Value) : Reading Value :=
  match expectType type .lengthDelimited with
  | .error fault => .error fault
  | .ok () => (readInner inner t values octets).map fun (vs, rest) => (make vs, rest)

/-- Merges a label into some entries. The wire type of its field is not looked at. -/
def mergeEntry (depth : Nat) (entries : List (String × String)) (octets : List UInt8) :
    Reading Value :=
  match depth with
  | 0 => .error (.here .recursionLimit)
  | inner + 1 =>
    (readNested (mergeLabel inner) ("", "") octets).map fun (e, rest) =>
      (.labels (insertEntry e.1 e.2 entries), rest)

/-- Merges the content of a field into its value. -/
def mergeValue (inner : Inner) (depth : Nat) :
    FieldType → Value → WireType → List UInt8 → Reading Value
  | .text, _, type, octets => mergeText type octets .text
  | .int64, _, type, octets => mergeNumber type octets fun n => .int64 (toInt64 n)
  | .int32, _, type, octets => mergeNumber type octets fun n => .int32 (toInt32 n)
  | .status, _, type, octets => mergeNumber type octets fun n => .int32 (toInt32 n)
  | .flag, _, type, octets => mergeNumber type octets fun n => .flag (n != 0)
  | .texts, .texts items, type, octets => mergeText type octets fun s => .texts (items ++ [s])
  | .texts, _, type, octets => mergeText type octets fun s => .texts [s]
  | .labels, .labels entries, _, octets => mergeEntry depth entries octets
  | .labels, _, _, octets => mergeEntry depth [] octets
  | .message t, v, type, octets => mergeInner inner type t (valuesOf t v) octets .message
  | .messages t, .messages items, type, octets =>
    mergeInner inner type t t.empty octets fun vs => .messages (items ++ [vs])
  | .messages t, _, type, octets => mergeInner inner type t t.empty octets fun vs => .messages [vs]

/-- Names the field on the way to a fault, if the reader does so. -/
def atField {α : Type} (unknown : Unknown) (t : MessageType) (f : Field) :
    Except Fault α → Except Fault α
  | .ok a => .ok a
  | .error fault =>
    match unknown with
    | .skip => .error (fault.inField t.name f.name)
    | .keep => .error fault

/-! ## 4. Messages -/

/-- Merges a record into the values of a message. -/
def mergeRecord (unknown : Unknown) (inner : Inner) (depth : Nat) (t : MessageType)
    (values : List Value) (octets : List UInt8) : Reading (List Value) :=
  match readKey octets with
  | .error fault => .error fault
  | .ok ((number, type), rest) =>
    match t.field? number, values[number - 1]? with
    | some f, some v =>
      (atField unknown t f (mergeValue inner depth f.type v type rest)).map fun (v', after) =>
        (values.set (number - 1) v', after)
    | _, _ => (skipField unknown depth number type rest).map fun after => (values, after)

/-- The reader of the records of a message at a depth. -/
def recordReader (unknown : Unknown) : Nat → MessageType → List Value → List UInt8 →
    Reading (List Value)
  | 0 => mergeRecord unknown none 0
  | depth + 1 => mergeRecord unknown (some (recordReader unknown depth)) (depth + 1)

/-- The values of a message. -/
def decode (unknown : Unknown) (t : MessageType) (octets : List UInt8) :
    Except Fault (List Value) :=
  (readRecords (recordReader unknown maxDepth t) 0 octets.length t.empty octets).map Prod.fst

end ControlPlane.Wire
