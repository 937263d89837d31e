import ControlPlane.KeyOrder
import ControlPlane.Text.Integer
import ControlPlane.Text.Quoted

/-!
# JSON values and their printed form

* `Json` -- a value without fractions; the members of an object are kept in the order of their
  keys (`Json.ofMembers` puts them there);
* `Json.pretty` -- the printed form: two blanks of indent a level, one element or member a line,
  a blank after the colon, and an empty list or object on one line;
* `Json.stringChars` -- a text between quotes: the quote and the backslash follow a backslash,
  the control characters below U+0020 have a short name or four hexadecimal digits, and
  everything else stands for itself.
-/

namespace ControlPlane

open Text

/-! ## 1. Values -/

/-- A JSON value; its numbers are whole. -/
inductive Json where
  | null
  | bool (b : Bool)
  | number (n : Int)
  | text (s : String)
  | list (items : List Json)
  | object (members : List (String × Json))
  deriving Inhabited

namespace Json

/-- The object with the given members, in the order of their keys; a second value for a key
    replaces the first. -/
def ofMembers (members : List (String × Json)) : Json := .object (insertAll [] members)

/-! ## 2. Texts -/

/-- A character as it stands between the quotes. -/
def stringChar (c : Char) : List Char :=
  if c = '"' then ['\\', '"']
  else if c = '\\' then ['\\', '\\']
  else if c = '\x08' then ['\\', 'b']
  else if c = '\t' then ['\\', 't']
  else if c = '\n' then ['\\', 'n']
  else if c = '\x0c' then ['\\', 'f']
  else if c = '\r' then ['\\', 'r']
  else if c.toNat < 0x20 then
    ['\\', 'u', '0', '0', Nat.digitChar (c.toNat / 16), Nat.digitChar (c.toNat % 16)]
  else [c]

/-- A text with its quotes. -/
def stringChars (s : String) : List Char :=
  '"' :: s.toList.flatMap stringChar ++ ['"']

/-! ## 3. The printed form -/

/-- A line break, then the indent of a level. -/
def newline (depth : Nat) : List Char := '\n' :: List.replicate (2 * depth) ' '

/-- Parts on lines of their own, a comma after each but the last. -/
def separated (depth : Nat) : List (List Char) → List Char
  | [] => []
  | [part] => newline depth ++ part
  | part :: rest => newline depth ++ part ++ ',' :: separated depth rest

/-- Parts between brackets; none at all leave the brackets on one line. -/
def block (depth : Nat) (openChar closeChar : Char) : List (List Char) → List Char
  | [] => [openChar, closeChar]
  | parts => openChar :: separated (depth + 1) parts ++ newline depth ++ [closeChar]

mutual

/-- The printed form of a value that stands at a level. -/
def prettyChars (depth : Nat) : Json → List Char
  | .null => ['n', 'u', 'l', 'l']
  | .bool true => ['t', 'r', 'u', 'e']
  | .bool false => ['f', 'a', 'l', 's', 'e']
  | .number n => decimalInt n
  | .text s => stringChars s
  | .list items => block depth '[' ']' (prettyItems (depth + 1) items)
  | .object members => block depth '\x7b' '\x7d' (prettyMembers (depth + 1) members)

/-- The printed forms of the elements of a list. -/
def prettyItems (depth : Nat) : List Json → List (List Char)
  | [] => []
  | item :: rest => prettyChars depth item :: prettyItems depth rest

/-- The printed forms of the members of an object. -/
def prettyMembers (depth : Nat) : List (String × Json) → List (List Char)
  | [] => []
  | (key, value) :: rest =>
    (stringChars key ++ ':' :: ' ' :: prettyChars depth value) :: prettyMembers depth rest

end

/-- The printed form of a value. -/
def pretty (value : Json) : String := String.ofList (prettyChars 0 value)

end Json

end ControlPlane
