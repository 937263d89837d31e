import ControlPlane.CommandLine.Help
import ControlPlane.Text.Similarity
import ControlPlane.Text.Visible

/-!
# Command lines that are not run

* `Fault` -- why a command line gives no invocation; asking for help or the version is one reason;
* `Fault.text` -- what the user is told, in style: what is wrong, hints, how the level is used, and
  where help is found; `Fault.written` is what is written of it, and `Fault.summary` the part of it
  that says what is wrong;
* `Fault.exitCode`, `Fault.toOutput` -- how the program ends, and where the text goes.
-/

namespace ControlPlane.CommandLine

open Text

/-! ## 1. Faults -/

/-- A hint at what may have been meant. -/
inductive Hint where
  | flag (name : String)
  | flagOf (command name : String)
  | asValue (word : String)
  | commands (words : List String)
  | withoutDashes (word : String)
  deriving DecidableEq, Repr

/-- Why a command line gives no invocation. -/
inductive Fault where
  /-- Help was asked for, in full or in short. -/
  | help (topic : Topic) (full : Bool)
  | version
  /-- Nothing at all was said at a level that needs a command. -/
  | nothingGiven (level : Level)
  | commandMissing (level : Level)
  | argumentsMissing (level : Level) (missing : List String) (used : List Flag)
  | valueMissing (flag : Flag)
  | valueInvalid (flag : Flag) (value reason : String)
  | valueUnwanted (flag : Flag) (value : String) (level : Level) (used : List Flag)
  | repeated (flag : Flag) (level : Level)
  /-- With the options that were used, if it is of use to show them. -/
  | argumentUnknown (word : String) (hints : List Hint) (level : Level)
      (used : Option (List Flag))
  | commandUnknown (word : String) (hints : List Hint) (topic : Topic)
  deriving DecidableEq, Repr

/-! ## 2. Texts -/

/-- Words in a style, between quotes. -/
def quotedIn (style : Style) (words : String) : String := "'" ++ style.paint words ++ "'"

/-- The words of a hint. -/
def Hint.words : Hint → String
  | .flag name => "a similar argument exists: " ++ quotedIn .right ("--" ++ name)
  | .flagOf command name => quotedIn .right (command ++ " --" ++ name) ++ " exists"
  | .asValue word =>
    "to pass " ++ quotedIn .wrong word ++ " as a value, use " ++ quotedIn .right ("-- " ++ word)
  | .commands [word] => "a similar subcommand exists: " ++ quotedIn .right word
  | .commands words =>
    "some similar subcommands exist: " ++
      String.intercalate ", " (words.map (quotedIn .right))
  | .withoutDashes word =>
    "subcommand " ++ quotedIn .right word ++ " exists; to use it, remove the " ++
      quotedIn .wrong "--" ++ " before it"

/-- The lines of hints. -/
def hintLines (hints : List Hint) : String :=
  if hints.isEmpty then ""
  else
    "\n" ++ String.join (hints.map fun h => "\n  " ++ Style.right.paint "tip:" ++ " " ++ h.words)

namespace Fault

/-- What is wrong. -/
def problem : Fault → String
  | .help _ _ | .version | .nothingGiven _ => ""
  | .commandMissing level =>
    quotedIn .wrong level.path ++
      " requires a subcommand but one was not provided\n  [subcommands: " ++
      String.intercalate ", " (level.commands.map Style.right.paint) ++ "]"
  | .argumentsMissing _ missing _ =>
    "the following required arguments were not provided:" ++
      String.join (missing.map fun m => "\n  " ++ Style.right.paint m)
  | .valueMissing flag =>
    "a value is required for " ++ quotedIn .wrong flag.shown ++ " but none was supplied"
  | .valueInvalid flag value reason =>
    "invalid value " ++ quotedIn .wrong value ++ " for " ++ quotedIn .literal flag.shown ++ ": " ++
      reason
  | .valueUnwanted flag value _ _ =>
    "unexpected value " ++ quotedIn .wrong value ++ " for " ++ quotedIn .literal flag.shown ++
      " found; no more were expected"
  | .repeated flag _ =>
    "the argument " ++ quotedIn .wrong flag.shown ++ " cannot be used multiple times"
  | .argumentUnknown word _ _ _ => "unexpected argument " ++ quotedIn .wrong word ++ " found"
  | .commandUnknown word _ _ => "unrecognized subcommand " ++ quotedIn .wrong word

/-- The hints of a fault. -/
def hints : Fault → List Hint
  | .argumentUnknown _ hints _ _ | .commandUnknown _ hints _ => hints
  | _ => []

/-- How the level of a fault is used, if that is told. -/
def usage? : Fault → Option String
  | .commandMissing level | .repeated _ level => some (usage level none)
  | .argumentsMissing level _ used | .valueUnwanted _ _ level used => some (usage level (some used))
  | .argumentUnknown _ _ level used => some (usage level used)
  | .commandUnknown _ _ topic => some topic.usage
  | _ => none

/-- Where more is told; the word for help has no help of its own. -/
def pointer : Fault → String
  | .commandUnknown _ _ (.helpWord _) => "\n"
  | _ => "\n\nFor more information, try " ++ quotedIn .literal "--help" ++ ".\n"

/-- The text of a fault, with the sequences of its styles. -/
def text (env : Environment) : Fault → String
  | .help topic full => topic.text env full
  | .version => versionText
  | .nothingGiven level => Topic.text env false (.level level)
  | fault =>
    Style.error.paint "error:" ++ " " ++ fault.problem ++ hintLines fault.hints ++
      (match fault.usage? with
        | none => ""
        | some u => "\n\n" ++ title "Usage" ++ " " ++ u) ++
      fault.pointer

/-- What is written of a fault: all of it where there are colours, and what shows otherwise. -/
def written (coloured : Bool) (env : Environment) (f : Fault) : String :=
  if coloured then f.text env else visible true (f.text env)

/-- Whether a fault shows help or the version. -/
def isDisplay : Fault → Bool
  | .help _ _ | .version | .nothingGiven _ => true
  | _ => false

/-- Whether the text goes to the output and not to the errors. -/
def toOutput : Fault → Bool
  | .help _ _ | .version => true
  | _ => false

/-- The exit code of a command line that is not run. -/
def exitCode (f : Fault) : Nat := if f.toOutput then 0 else 2

/-- A text up to its first empty line. -/
def firstParagraph : List Char → List Char
  | [] => []
  | '\n' :: '\n' :: _ => []
  | c :: rest => c :: firstParagraph rest

/-- What a fault says in short: help and the version in full, and of the others what is wrong. -/
def summary (env : Environment) (f : Fault) : String :=
  let shown := visible false (f.text env)
  if f.isDisplay then shown else String.ofList (firstParagraph shown.toList)

end Fault

end ControlPlane.CommandLine
