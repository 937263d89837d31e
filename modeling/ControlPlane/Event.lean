import ControlPlane.Status
import ControlPlane.Text.Integer
import ControlPlane.Text.Quoted
import ControlPlane.Time.Duration

/-!
# What is logged

* `Event` -- what happens on the way to a page: asking for it and its coming, dialling and how
  that ends;
* `Event.text` -- what is written for an event: the level, five characters wide, the part of the
  library, and the words with their fields. In the words of a failed call the controls with which a
  terminal could be misled are written by their numbers (`harmless`);
* `Event.lines` -- the lines that a reader of the log sees.
-/

namespace ControlPlane

open Text

/-- What is logged. -/
inductive Event where
  | fetching (pageSize : Int64) (resumed : Bool)
  | received (count : Nat) (last : Bool)
  | listFailed (status : Status)
  | dialling
  | dialFailed (reason : String)
  | dialTimedOut (deadline : Duration)
  deriving DecidableEq, Repr

namespace Event

/-- The word for a truth value. -/
def flag (b : Bool) : String := if b then "true" else "false"

/-- Whether an event is a warning. -/
def isWarning : Event → Bool
  | .fetching _ _ | .received _ _ | .dialling => false
  | .listFailed _ | .dialFailed _ | .dialTimedOut _ => true

/-- The part of the library an event comes from. -/
def part : Event → String
  | .fetching _ _ | .received _ _ | .listFailed _ => "pager"
  | .dialling | .dialFailed _ | .dialTimedOut _ => "connection"

/-- A character of a message as it is logged: the controls that begin, end or move within a
    terminal sequence are written by their numbers. -/
def harmlessChar (c : Char) : List Char :=
  if c.toNat ∈ [0x07, 0x08, 0x0c, 0x1b, 0x7f] then
    ['\\', 'x', Nat.digitChar (c.toNat / 16), Nat.digitChar (c.toNat % 16)]
  else if 0x80 ≤ c.toNat ∧ c.toNat ≤ 0x9f then
    ['\\', 'u', '\x7b'] ++ hexadecimal c.toNat ++ ['\x7d']
  else [c]

/-- A message as it is logged. -/
def harmless (message : String) : String := String.ofList (message.toList.flatMap harmlessChar)

/-- The words of an event with its fields. -/
def words : Event → String
  | .fetching pageSize resumed =>
    "Fetching page page_size=" ++ String.ofList (decimalInt pageSize.toInt) ++ " resumed=" ++
      flag resumed
  | .received count last =>
    "Received page items=" ++ String.ofList (decimal count) ++ " last=" ++ flag last
  | .listFailed status => "List call failed code=" ++ status.code.name ++ " " ++
      harmless status.message
  | .dialling => "Establishing connection"
  | .dialFailed reason => "Connection attempt failed error=" ++ reason
  | .dialTimedOut deadline => "Connection attempt timed out deadline=" ++ deadline.text

/-- What is written for an event. -/
def text (e : Event) : String :=
  (if e.isWarning then " WARN" else "DEBUG") ++ " cirrus_core::" ++ e.part ++ ": " ++ e.words

/-- A line without the carriage return that may stand before its end. -/
def withoutReturn (line : List Char) : List Char :=
  if line.getLast? = some '\r' then line.dropLast else line

/-- The pieces of a text between its line feeds. -/
def pieces : List Char → List (List Char)
  | [] => [[]]
  | c :: rest =>
    match pieces rest with
    | [] => [[c]]
    | piece :: others => if c = '\n' then [] :: piece :: others else (c :: piece) :: others

/-- The lines of an event. -/
def lines (e : Event) : List String :=
  (pieces e.text.toList).map fun piece => String.ofList (withoutReturn piece)

end Event

end ControlPlane
