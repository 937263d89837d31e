import ControlPlane.Text.Utf8

/-!
# Texts for a plain output

A text that is shown on an output without colours loses its terminal control sequences:

* `Terminal`, `Terminal.next` -- the states of a terminal that reads octets, and how an octet
  changes them: an escape begins a sequence, and a control sequence, a command string or a device
  string each ends in its own way;
* `visible` -- the octets that show: printing characters outside of sequences, and white space.
-/

namespace ControlPlane.Text

/-! ## 1. The states of a terminal -/

/-- Where a terminal is in what it reads. -/
inductive Terminal where
  | ground
  | escape
  | escapeIntermediate
  | controlEntry
  | controlParameter
  | controlIntermediate
  | controlIgnore
  | deviceEntry
  | deviceParameter
  | deviceIntermediate
  | deviceIgnore
  | devicePassthrough
  | commandString
  | ignoredString
  deriving DecidableEq, Repr

/-- Whether a number lies between two others. -/
def between (low high n : Nat) : Bool := low ≤ n && n ≤ high

namespace Terminal

/-- The state after an octet. -/
def next (state : Terminal) (octet : UInt8) : Terminal :=
  let n := octet.toNat
  if n = 0x18 || n = 0x1a then .ground
  else if n = 0x1b then .escape
  else
    match state with
    | .ground => .ground
    | .escape =>
      if between 0x20 0x2f n then .escapeIntermediate
      else if n = 0x5b then .controlEntry
      else if n = 0x5d then .commandString
      else if n = 0x50 then .deviceEntry
      else if n = 0x58 || n = 0x5e || n = 0x5f then .ignoredString
      else if between 0x30 0x7e n then .ground
      else .escape
    | .escapeIntermediate => if between 0x30 0x7e n then .ground else .escapeIntermediate
    | .controlEntry =>
      if between 0x20 0x2f n then .controlIntermediate
      else if between 0x30 0x3f n then .controlParameter
      else if between 0x40 0x7e n then .ground
      else .controlEntry
    | .controlParameter =>
      if between 0x20 0x2f n then .controlIntermediate
      else if between 0x3c 0x3f n then .controlIgnore
      else if between 0x40 0x7e n then .ground
      else .controlParameter
    | .controlIntermediate =>
      if between 0x30 0x3f n then .controlIgnore
      else if between 0x40 0x7e n then .ground
      else .controlIntermediate
    | .controlIgnore => if between 0x40 0x7e n then .ground else .controlIgnore
    | .deviceEntry =>
      if between 0x20 0x2f n then .deviceIntermediate
      else if between 0x30 0x3f n then .deviceParameter
      else if between 0x40 0x7e n then .devicePassthrough
      else .deviceEntry
    | .deviceParameter =>
      if between 0x20 0x2f n then .deviceIntermediate
      else if between 0x3c 0x3f n then .deviceIgnore
      else if between 0x40 0x7e n then .devicePassthrough
      else .deviceParameter
    | .deviceIntermediate =>
      if between 0x30 0x3f n then .deviceIgnore
      else if between 0x40 0x7e n then .devicePassthrough
      else .deviceIntermediate
    | .deviceIgnore => if n = 0x9c then .ground else .deviceIgnore
    | .devicePassthrough => if n = 0x9c then .ground else .devicePassthrough
    | .commandString => if n = 0x07 then .ground else .commandString
    | .ignoredString => if n = 0x9c then .ground else .ignoredString

/-- Whether a terminal acts on control characters in a state, even inside a sequence. -/
def executes : Terminal → Bool
  | .ground | .escape | .escapeIntermediate | .controlEntry | .controlParameter
  | .controlIntermediate | .controlIgnore => true
  | _ => false

/-- White space that is kept. -/
def isSpace (octet : UInt8) : Bool :=
  octet = 0x09 || octet = 0x0a || octet = 0x0c || octet = 0x0d

/-- Whether an octet shows in a state; `after` one that shows, what is printed or continues a
    character shows in any case. -/
def shows (state : Terminal) (after : Bool) (octet : UInt8) : Bool :=
  if isSpace octet then after || state.executes
  else
    (after || decide (state = .ground)) &&
      (between 0x20 0x7e octet.toNat || 0xc0 ≤ octet.toNat || (after && 0x80 ≤ octet.toNat))

end Terminal

/-! ## 2. What shows -/

/-- The octets that show, from a state on, `after` one that shows or not. White space shows even
    inside a sequence; what is printed next shows, too, and the sequence is over then, unless it
    `resumes` with the next octet that does not show. -/
def visibleOctets (resumes : Bool) (state : Terminal) (after : Bool) : List UInt8 → List UInt8
  | [] => []
  | octet :: rest =>
    if state.shows after octet then
      octet :: visibleOctets resumes
        (if resumes && octet.toNat < 0x80 then state else .ground) true rest
    else visibleOctets resumes (state.next octet) false rest

/-- A text without what does not show. -/
def visible (resumes : Bool) (text : String) : String :=
  (ofUtf8? (visibleOctets resumes .ground false (utf8 text))).getD text

end ControlPlane.Text
