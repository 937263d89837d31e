import ControlPlane.Text.Integer
import ControlPlane.Text.Quoted

/-!
# The outcome of a call

* `Code` -- the seventeen codes, their numbers, names and descriptions; a number outside 0 to 16
  counts as `unknown`;
* `Status` -- a code with a message, and what it came from if it was made on this side;
* `Status.text` -- the line a status is shown as inside other messages.
-/

namespace ControlPlane

open Text

/-! ## 1. Codes -/

/-- How a call ended. -/
inductive Code where
  | ok
  | cancelled
  | unknown
  | invalidArgument
  | deadlineExceeded
  | notFound
  | alreadyExists
  | permissionDenied
  | resourceExhausted
  | failedPrecondition
  | aborted
  | outOfRange
  | unimplemented
  | internal
  | unavailable
  | dataLoss
  | unauthenticated
  deriving DecidableEq, Repr, Inhabited

namespace Code

/-- The code of a number. -/
def ofNumber : Int → Code
  | 0 => .ok
  | 1 => .cancelled
  | 3 => .invalidArgument
  | 4 => .deadlineExceeded
  | 5 => .notFound
  | 6 => .alreadyExists
  | 7 => .permissionDenied
  | 8 => .resourceExhausted
  | 9 => .failedPrecondition
  | 10 => .aborted
  | 11 => .outOfRange
  | 12 => .unimplemented
  | 13 => .internal
  | 14 => .unavailable
  | 15 => .dataLoss
  | 16 => .unauthenticated
  | _ => .unknown

/-- The name of a code. -/
def name : Code → String
  | .ok => "Ok"
  | .cancelled => "Cancelled"
  | .unknown => "Unknown"
  | .invalidArgument => "InvalidArgument"
  | .deadlineExceeded => "DeadlineExceeded"
  | .notFound => "NotFound"
  | .alreadyExists => "AlreadyExists"
  | .permissionDenied => "PermissionDenied"
  | .resourceExhausted => "ResourceExhausted"
  | .failedPrecondition => "FailedPrecondition"
  | .aborted => "Aborted"
  | .outOfRange => "OutOfRange"
  | .unimplemented => "Unimplemented"
  | .internal => "Internal"
  | .unavailable => "Unavailable"
  | .dataLoss => "DataLoss"
  | .unauthenticated => "Unauthenticated"

/-- What a code means. -/
def description : Code → String
  | .ok => "The operation completed successfully"
  | .cancelled => "The operation was cancelled"
  | .unknown => "Unknown error"
  | .invalidArgument => "Client specified an invalid argument"
  | .deadlineExceeded => "Deadline expired before operation could complete"
  | .notFound => "Some requested entity was not found"
  | .alreadyExists => "Some entity that we attempted to create already exists"
  | .permissionDenied =>
    "The caller does not have permission to execute the specified operation"
  | .resourceExhausted => "Some resource has been exhausted"
  | .failedPrecondition =>
    "The system is not in a state required for the operation's execution"
  | .aborted => "The operation was aborted"
  | .outOfRange => "Operation was attempted past the valid range"
  | .unimplemented => "Operation is not implemented or not supported"
  | .internal => "Internal error"
  | .unavailable => "The service is currently unavailable"
  | .dataLoss => "Unrecoverable data loss or corruption"
  | .unauthenticated => "The request does not have valid authentication credentials"

end Code

/-! ## 2. Statuses -/

/-- The outcome of a call that did not give an answer. -/
structure Status where
  code : Code
  message : String
  /-- The text of what the status was made from on this side, if anything. -/
  source : Option String := none
  deriving DecidableEq, Repr, Inhabited

namespace Status

/-- The text of a status: what its code means, then its message and its source, if any. -/
def text (s : Status) : String :=
  "code: '" ++ s.code.description ++ "'" ++
    (if s.message.isEmpty then "" else ", message: " ++ quoted s.message) ++
    (match s.source with
      | none => ""
      | some source => ", source: " ++ source)

/-- A connection that could not be made. -/
def unreachable (reason : String) : Status :=
  ⟨.unavailable, "Failed to connect: '" ++ reason ++ "'", none⟩

/-- A call whose deadline passed before the answer came. -/
def timeoutExpired : Status :=
  ⟨.cancelled, "Timeout expired", some "tonic::transport::Error(Transport, TimeoutExpired(()))"⟩

/-- A failure that carries the code of success has no answer to show. -/
def missingResponse : Status := ⟨.internal, "Missing response message.", none⟩

/-- An answer of more octets than are taken in. -/
def tooLong (length limit : Nat) : Status :=
  ⟨.outOfRange, "Error, decoded message length too large: found " ++
    String.ofList (decimal length) ++ " bytes, the limit is: " ++ String.ofList (decimal limit) ++
    " bytes", none⟩

end Status

end ControlPlane
