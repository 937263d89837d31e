import ControlPlane.Metadata
import ControlPlane.Status
import ControlPlane.Text.Integer
import ControlPlane.Time.Duration

/-!
# The options of a call

Headers and a deadline, and how they become the metadata of a call:

* the headers are taken in order; the first that is no valid pair decides the fault, its key
  before its value;
* the deadline is written under the key `grpc-timeout` and replaces what the headers put there;
* `Deadline.write` -- at most eight digits and the letter of a unit: the finest unit whose whole
  part of the span has eight digits at most; what is left over is dropped;
* `Deadline.read` -- the span that such a text states.

There is room for any number of keys here: that a call has room for a limited number only, beyond
which it would end the program, is not modelled.
-/

namespace ControlPlane

open Text

/-! ## 1. Deadlines as metadata -/

namespace Deadline

/-- The units of a written deadline, from the finest on: a letter and nanoseconds. -/
def units : List (Char × Nat) :=
  [('n', 1), ('u', 1000), ('m', 1000000), ('S', 1000000000), ('M', 60000000000),
    ('H', 3600000000000)]

/-- The most a written deadline may count. -/
def maxCount : Nat := 99999999

/-- The key a deadline is written under. -/
def key : String := "grpc-timeout"

/-- The first of the units that fits, with the count. -/
def fit (nanos : Nat) : List (Char × Nat) → Option (Nat × Char)
  | [] => none
  | (letter, unit) :: rest =>
    if nanos / unit ≤ maxCount then some (nanos / unit, letter) else fit nanos rest

/-- The written form of a span; there is none from `10 ^ 8` hours on. -/
def write (d : Duration) : Option String :=
  (fit d.nanos units).map fun (count, letter) => String.ofList (decimal count ++ [letter])

/-- The span that a text states; none if it is not of the written form. -/
def read (text : String) : Option Duration :=
  match text.toList.reverse with
  | [] => none
  | letter :: reversed =>
    match units.lookup letter with
    | none => none
    | some unit =>
      if 8 < reversed.length then none
      else
        match readNat maxWord64 (String.ofList reversed.reverse) with
        | .error _ => none
        | .ok count => some ⟨count * unit⟩

end Deadline

/-! ## 2. Options -/

/-- What a caller sets for a call. -/
structure CallOptions where
  headers : List (String × String)
  timeout : Option Duration
  deriving DecidableEq, Repr, Inhabited

/-- Why options give no metadata. -/
inductive OptionFault where
  | invalidKey (key : String)
  | invalidValue (key : String)
  | deadlineTooLong
  deriving DecidableEq, Repr

namespace OptionFault

/-- The wording of a fault. -/
def message : OptionFault → String
  | .invalidKey key =>
    "Invalid metadata (header) key '" ++ key ++ "': 'invalid gRPC metadata key name'"
  | .invalidValue key =>
    "Invalid metadata (header) value for key '" ++ key ++ "': 'failed to parse metadata value'"
  | .deadlineTooLong => "duration is unrealistically large"

/-- The status a caller sees. A deadline that cannot be written has none: it ends the program. -/
def status? : OptionFault → Option Status
  | .deadlineTooLong => none
  | fault => some ⟨.invalidArgument, fault.message, none⟩

end OptionFault

namespace CallOptions

/-- The pair a header gives. -/
def readHeader (header : String × String) : Except OptionFault (String × String) :=
  match Metadata.key? header.1 with
  | none => .error (.invalidKey header.1)
  | some key =>
    if Metadata.isValue header.2 then .ok (key, header.2) else .error (.invalidValue header.1)

/-- The pairs of headers, in order. -/
def readHeaders : List (String × String) → Except OptionFault (List (String × String))
  | [] => .ok []
  | header :: rest =>
    match readHeader header with
    | .error fault => .error fault
    | .ok entry => (readHeaders rest).map (entry :: ·)

/-- Adds the deadline to the metadata. -/
def withDeadline (m : Metadata) : Option Duration → Except OptionFault Metadata
  | none => .ok m
  | some d =>
    match Deadline.write d with
    | none => .error .deadlineTooLong
    | some text => .ok (m.replace Deadline.key text)

/-- The metadata of a call with these options, as they stand before the transport takes them. -/
def metadata (o : CallOptions) : Except OptionFault Metadata :=
  match readHeaders o.headers with
  | .error fault => .error fault
  | .ok entries => withDeadline ⟨entries⟩ o.timeout

end CallOptions

end ControlPlane
