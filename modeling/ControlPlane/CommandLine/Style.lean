/-!
# Words in style

What the command line says is written with terminal sequences that set parts of it off:

* `Style` -- what a part is: the word for an error, a heading, something to be typed as it stands,
  something that is wrong or right;
* `Style.paint` -- words between the sequences of their style and the one that ends it;
* `indented` -- a text whose later lines are moved to the right.
-/

namespace ControlPlane.CommandLine

/-- What a part of a text is. -/
inductive Style where
  | error
  | heading
  | literal
  | wrong
  | right
  deriving DecidableEq, Repr

/-- The sequences that begin a style: bold and red, bold and underlined, bold, yellow, green. -/
def Style.begins : Style → String
  | .error => "\x1b[1m\x1b[31m"
  | .heading => "\x1b[1m\x1b[4m"
  | .literal => "\x1b[1m"
  | .wrong => "\x1b[33m"
  | .right => "\x1b[32m"

/-- The sequence that ends every style. -/
def Style.ends : String := "\x1b[0m"

/-- Words in a style. -/
def Style.paint (s : Style) (words : String) : String := s.begins ++ words ++ Style.ends

/-- Blanks. -/
def blanks (n : Nat) : String := String.ofList (List.replicate n ' ')

/-- A text whose lines but the first are moved `n` columns to the right. -/
def indented (n : Nat) (text : String) : String :=
  String.ofList (text.toList.flatMap fun c => if c = '\n' then c :: List.replicate n ' ' else [c])

end ControlPlane.CommandLine
