import ControlPlane.Text.HiddenTable

/-!
# Quoted texts

A text between double quotes in which every character shows and none can be mistaken:

* the quote and the backslash follow a backslash;
* NUL, tab, line feed and carriage return have the names `\0`, `\t`, `\n` and `\r`;
* every other hidden character (`isHidden`) is written by its number, `\u`, then its hexadecimal
  digits in braces;
* everything else stands for itself.
-/

namespace ControlPlane.Text

/-! ## 1. Hidden characters -/

/-- Whether a number lies in one of the ranges, which are in increasing order. -/
def inRanges (n : Nat) : List (Nat × Nat) → Bool
  | [] => false
  | (low, high) :: rest =>
    if n < low then false
    else if n ≤ high then true
    else inRanges n rest

/-- A character that shows nothing of its own. -/
def isHidden (c : Char) : Bool := inRanges c.toNat hiddenRanges

/-! ## 2. Quoting -/

/-- The hexadecimal digits of a number, in lower case. -/
def hexadecimal (n : Nat) : List Char := Nat.toDigits 16 n

/-- A character as it stands between the quotes. -/
def quotedChar (c : Char) : List Char :=
  if c = '"' then ['\\', '"']
  else if c = '\\' then ['\\', '\\']
  else if c = '\x00' then ['\\', '0']
  else if c = '\t' then ['\\', 't']
  else if c = '\n' then ['\\', 'n']
  else if c = '\r' then ['\\', 'r']
  else if isHidden c then ['\\', 'u', '\x7b'] ++ hexadecimal c.toNat ++ ['\x7d']
  else [c]

/-- The quoted form of a text. -/
def quotedChars (chars : List Char) : List Char :=
  '"' :: chars.flatMap quotedChar ++ ['"']

/-- The quoted form of a text. -/
def quoted (text : String) : String := String.ofList (quotedChars text.toList)

end ControlPlane.Text
