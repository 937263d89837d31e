import ControlPlane.CommandLine.Grammar
import ControlPlane.CommandLine.Style
import ControlPlane.Text.Blank
import ControlPlane.Text.Quoted

/-!
# How the command line is explained

* `usage` -- the line that shows how a level is used;
* `Topic` -- what can be explained: a level, or the word that asks for help;
* `Topic.text` -- the explanation: what the topic is for, its usage, its arguments, the levels below
  and the options. Where a level has more to say in full than in short, the full text gives each
  option lines of its own.

The texts hold the sequences of their styles.
-/

namespace ControlPlane.CommandLine

/-- The variables that stand in for options. -/
structure Environment where
  endpoint : Option String := none
  timeout : Option String := none
  deriving DecidableEq, Repr

/-- What stands in for an option. -/
def Environment.value? (env : Environment) : Flag → Option String
  | .endpoint => env.endpoint
  | .timeout => env.timeout
  | _ => none

/-- The version. -/
def versionText : String := "cirrus 0.1.0\n"

/-! ## 1. Usage -/

/-- Options without those that came before. -/
def distinct : List Flag → List Flag
  | [] => []
  | f :: rest => f :: (distinct rest).filter fun g => g != f

/-- An option with its value. -/
def paintedFlag (f : Flag) : String :=
  Style.literal.paint ("--" ++ f.long) ++
    match f.valueName? with
    | none => ""
    | some name => " <" ++ name ++ ">"

/-- How a level is used: with the options that were `used`, or in general. -/
def usage (l : Level) (used : Option (List Flag)) : String :=
  String.intercalate " "
    ([Style.literal.paint l.path] ++ (if used.isNone then ["[OPTIONS]"] else []) ++
      (distinct (l.requiredFlags ++ used.getD [])).map paintedFlag ++
      (if l.idWords?.isSome then ["<ID>"] else []) ++
      (if l.below.isEmpty then [] else ["<COMMAND>"]))

/-- What can be explained. -/
inductive Topic where
  | level (l : Level)
  /-- The word for help that follows a level. -/
  | helpWord (l : Level)
  deriving DecidableEq, Repr

/-- How a topic is used. -/
def Topic.usage : Topic → String
  | .level l => CommandLine.usage l none
  | .helpWord l => Style.literal.paint (l.path ++ " " ++ Level.helpWord) ++ " [COMMAND]..."

/-! ## 2. Columns -/

/-- A line of two columns; the left one shows as `shown`. -/
structure Row where
  shown : String
  left : String
  right : String

/-- The length of the longest text. -/
def widest (texts : List String) : Nat := texts.foldl (fun n s => max n s.length) 0

/-- Lines of two columns. -/
def columns (rows : List Row) : String :=
  let width := widest (rows.map Row.shown)
  String.join (rows.map fun r =>
    "  " ++ r.left ++ blanks (width - r.shown.length) ++ "  " ++ indented (width + 4) r.right ++ "\n")

/-- A title. -/
def title (words : String) : String := Style.heading.paint (words ++ ":")

/-- A titled part, if it has lines. -/
def part (words : String) (lines : String) : List String :=
  if lines.isEmpty then [] else [title words ++ "\n" ++ lines]

/-! ## 3. Options -/

/-- The names of an option with its value, as they show. -/
def flagShown (f : Flag) : String :=
  match f.short? with
  | none => "    " ++ f.shown
  | some c => "-" ++ String.singleton c ++ ", " ++ f.shown

/-- The names of an option with its value. -/
def flagColumn (f : Flag) : String :=
  match f.short? with
  | none => "    " ++ paintedFlag f
  | some c => Style.literal.paint ("-" ++ String.singleton c) ++ ", " ++ paintedFlag f

/-- A value as it is shown: quoted if nothing or a blank would show in it. -/
def shownDefault (value : String) : String :=
  if value.isEmpty || value.toList.any Text.isBlank then Text.quoted value else value

/-- Where else an option's value may come from. -/
def flagSources (env : Environment) (f : Flag) : List String :=
  (f.envName?.map fun v => "[env: " ++ v ++ "=" ++ (env.value? f).getD "" ++ "]").toList ++
    (f.default?.map fun d => "[default: " ++ shownDefault d ++ "]").toList

/-- What an option is for. The option for help tells where there is more, or less. -/
def flagWords (l : Level) (full : Bool) (f : Flag) : String :=
  match f, l.more?, full with
  | .help, some _, false => f.words ++ " (see more with '--help')"
  | .help, some _, true => f.words ++ " (see a summary with '-h')"
  | _, _, _ => f.words

/-- The column in which the words of an option begin that has lines of its own. -/
def ownLineColumn : Nat := 10

/-- The lines of an option that has lines of its own. -/
def flagLines (env : Environment) (l : Level) (f : Flag) : String :=
  let sources := flagSources env f
  let words := flagWords l true f ++
    (if sources.isEmpty then "" else "\n\n" ++ String.intercalate "\n" sources)
  "  " ++ flagColumn f ++ "\n" ++ blanks ownLineColumn ++ indented ownLineColumn words ++ "\n"

/-- The lines of the options. -/
def optionLines (env : Environment) (l : Level) (full : Bool) : String :=
  if full && l.more?.isSome then String.intercalate "\n" (l.flags.map (flagLines env l))
  else
    columns (l.flags.map fun f =>
      ⟨flagShown f, flagColumn f, String.intercalate " " (flagWords l full f :: flagSources env f)⟩)

/-! ## 4. Topics -/

/-- What the word for help is for. -/
def helpAbout : String := "Print this message or the help of the given subcommand(s)"

/-- The lines of the levels below a level. -/
def commandLines (l : Level) : String :=
  let row (name words : String) : Row := ⟨name, Style.literal.paint name, words⟩
  if l.below.isEmpty then ""
  else
    columns
      ((l.below.map fun (name, level) => row name level.about) ++ [row Level.helpWord helpAbout])

/-- The lines of the arguments of a level. -/
def argumentLines (l : Level) : String :=
  match l.idWords? with
  | none => ""
  | some words => columns [⟨"<ID>", "<ID>", words⟩]

/-- What a level is for, in full or in short. -/
def levelAbout (l : Level) (full : Bool) : String :=
  match l.more?, full with
  | some more, true => l.about ++ "\n\n" ++ more
  | _, _ => l.about

/-- The line that shows how a topic is used. -/
def Topic.usageLine (t : Topic) : String := title "Usage" ++ " " ++ t.usage

/-- The explanation of a topic. -/
def Topic.text (env : Environment) (full : Bool) (t : Topic) : String :=
  match t with
  | .level l =>
    String.intercalate "\n"
      ([levelAbout l full ++ "\n", t.usageLine ++ "\n"] ++
        part "Arguments" (argumentLines l) ++ part "Commands" (commandLines l) ++
        part "Options" (optionLines env l full))
  | .helpWord _ =>
    String.intercalate "\n"
      ([helpAbout ++ "\n", t.usageLine ++ "\n"] ++
        part "Arguments" "  [COMMAND]...  Print help for the subcommand(s)\n")

end ControlPlane.CommandLine
