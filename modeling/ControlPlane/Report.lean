import ControlPlane.Endpoint
import ControlPlane.Render
import ControlPlane.Status

/-!
# What the program tells its user

A report stands between line feeds, so that an empty line comes before it (`Report.text`):

* a value, in its printed form;
* a failed call, with its code and its quoted message;
* an endpoint that cannot be dialled, and a resource that cannot be rendered;
* a listing that stopped early, with the number of items that came before.

All but the first begin with a heading, which may be coloured. Without colours, `printed_value`,
`printed_failed` and `printed_incomplete` have what is written out for three of them.
-/

namespace ControlPlane

open Text

/-- What the program tells its user. -/
inductive Report where
  | value (json : Json)
  | failed (status : Status)
  | invalidEndpoint (url : String)
  | notRendered (fault : RenderFault)
  | incomplete (count : Nat)

namespace Report

/-! ## 1. Headings -/

/-- The colours of headings. -/
inductive Colour where
  | red
  | yellow
  deriving DecidableEq, Repr

/-- The number of a colour in a terminal's escape sequence. -/
def Colour.number : Colour → String
  | .red => "31"
  | .yellow => "33"

/-- A heading, bold and in a colour if `coloured`. -/
def heading (coloured : Bool) (colour : Colour) (words : String) : String :=
  if coloured then "\x1b[1;" ++ colour.number ++ "m" ++ words ++ "\x1b[0m" else words

/-! ## 2. Texts -/

/-- The text of a report without its frame. -/
def body (coloured : Bool) : Report → String
  | .value json => json.pretty
  | .failed status =>
    heading coloured .red "gRPC Failed:" ++ " code=" ++ status.code.name ++ " message=" ++
      quoted status.message
  | .invalidEndpoint url =>
    heading coloured .red "Invalid endpoint:" ++ "\n\n'" ++ Endpoint.invalidMessage url ++ "'"
  | .notRendered fault =>
    heading coloured .red "Failed to render resource:" ++ "\n\n'" ++ fault.message ++ "'"
  | .incomplete count =>
    heading coloured .yellow "Incomplete listing:" ++ " only " ++ String.ofList (decimal count) ++
      " item(s) were listed before the error"

/-- The text of a report. -/
def text (coloured : Bool) (r : Report) : String := "\n" ++ r.body coloured ++ "\n"

/-- What is written out for a report: its text and a line feed. -/
def printed (coloured : Bool) (r : Report) : String := r.text coloured ++ "\n"

/-! ## 3. What is written out, word by word -/

/-- A value is written out between empty lines. -/
theorem printed_value (coloured : Bool) (json : Json) :
    (value json).printed coloured = "\n" ++ json.pretty ++ "\n\n" := by
  rw [printed, text, body, String.append_assoc]
  rfl

/-- A failed call, without colours. -/
theorem printed_failed (status : Status) :
    (failed status).printed false =
      "\ngRPC Failed: code=" ++ status.code.name ++ " message=" ++ quoted status.message ++
        "\n\n" := by
  have start : "\n" ++ ("gRPC Failed:" ++ " code=") = "\ngRPC Failed: code=" := rfl
  have stop : "\n" ++ "\n" = "\n\n" := rfl
  simp only [printed, text, body, heading, Bool.false_eq_true, if_false, ← start, ← stop,
    String.append_assoc]

/-- A listing that stopped early, without colours. -/
theorem printed_incomplete (count : Nat) :
    (incomplete count).printed false =
      "\nIncomplete listing: only " ++ String.ofList (decimal count) ++
        " item(s) were listed before the error\n\n" := by
  have start : "\n" ++ ("Incomplete listing:" ++ " only ") = "\nIncomplete listing: only " := rfl
  have stop : " item(s) were listed before the error" ++ ("\n" ++ "\n") =
      " item(s) were listed before the error\n\n" := rfl
  simp only [printed, text, body, heading, Bool.false_eq_true, if_false, ← start, ← stop,
    String.append_assoc]

end Report

end ControlPlane
