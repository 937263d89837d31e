import ControlPlane.Endpoint

/-!
# The grammar of the command line

The program has resources, and a resource has actions. Each of these levels has options of its
own; the options of the program may stand at every level below it, too.

* `Level` -- the program, the two resources and the five actions, with their names and words;
* `Flag` -- the options, with their names, the names of their values and their words;
* `Level.flags` -- the options of a level, in the order in which they are listed.
-/

namespace ControlPlane.CommandLine

/-! ## 1. Options -/

/-- The options. -/
inductive Flag where
  | endpoint
  | header
  | timeout
  | folderId
  | filter
  | pageSize
  | limit
  | help
  | version
  deriving DecidableEq, Repr

namespace Flag

/-- The name of an option, after two dashes. -/
def long : Flag → String
  | .endpoint => "endpoint"
  | .header => "header"
  | .timeout => "timeout"
  | .folderId => "folder-id"
  | .filter => "filter"
  | .pageSize => "page-size"
  | .limit => "limit"
  | .help => "help"
  | .version => "version"

/-- The letter of an option, after one dash. -/
def short? : Flag → Option Char
  | .header => some 'H'
  | .help => some 'h'
  | .version => some 'V'
  | _ => none

/-- The name of an option's value, if it takes one. -/
def valueName? : Flag → Option String
  | .endpoint => some "ENDPOINT"
  | .header => some "HEADERS"
  | .timeout => some "TIMEOUT"
  | .folderId => some "FOLDER_ID"
  | .filter => some "FILTER"
  | .pageSize => some "PAGE_SIZE"
  | .limit => some "LIMIT"
  | .help | .version => none

/-- An option with its value, as it is shown. -/
def shown (f : Flag) : String :=
  "--" ++ f.long ++
    match f.valueName? with
    | none => ""
    | some name => " <" ++ name ++ ">"

/-- What an option is for. -/
def words : Flag → String
  | .endpoint => "The API endpoint to connect to"
  | .header => "Extra gRPC metadata sent with every call ('key:value')"
  | .timeout => "Deadline of each call, in seconds"
  | .folderId => "Folder to list resources from"
  | .filter => "Server-side filter expression"
  | .pageSize => "Items requested per page (0 uses the default of 1000)"
  | .limit => "Maximum number of items to print (0 prints everything)"
  | .help => "Print help"
  | .version => "Print version"

/-- The variable that stands in for an option. -/
def envName? : Flag → Option String
  | .endpoint => some "CIRRUS_ENDPOINT"
  | .timeout => some "CIRRUS_TIMEOUT"
  | _ => none

/-- The text of the value an option has when none is given. -/
def default? : Flag → Option String
  | .endpoint => some Endpoint.default
  | .filter => some ""
  | .pageSize | .limit => some "0"
  | _ => none

/-- The options of the program, which every level has. -/
def shared : List Flag := [.endpoint, .header, .timeout]

end Flag

/-! ## 2. Levels -/

/-- The levels of the command line. -/
inductive Level where
  | program
  | instances
  | disks
  | listInstances
  | getInstance
  | listOperations
  | listDisks
  | getDisk
  deriving DecidableEq, Repr

namespace Level

/-- The words that lead to a level, from the program's name on. -/
def path : Level → String
  | .program => "cirrus"
  | .instances => "cirrus instances"
  | .disks => "cirrus disks"
  | .listInstances => "cirrus instances list"
  | .getInstance => "cirrus instances get"
  | .listOperations => "cirrus instances operations"
  | .listDisks => "cirrus disks list"
  | .getDisk => "cirrus disks get"

/-- What a level is for. -/
def about : Level → String
  | .program => "Cloud control-plane CLI"
  | .instances => "Manage compute instances"
  | .disks => "Manage disks"
  | .listInstances => "List the instances of a folder"
  | .getInstance => "Show a single instance"
  | .listOperations => "List the operations performed on an instance"
  | .listDisks => "List the disks of a folder"
  | .getDisk => "Show a single disk"

/-- What is added to a level's words at length. -/
def more? : Level → Option String
  | .listInstances =>
    some "## Examples:\n\n```bash cirrus instances list --folder-id my-folder --limit 20 ```"
  | _ => none

/-- The levels below a level, with their names. -/
def below : Level → List (String × Level)
  | .program => [("instances", .instances), ("disks", .disks)]
  | .instances =>
    [("list", .listInstances), ("get", .getInstance), ("operations", .listOperations)]
  | .disks => [("list", .listDisks), ("get", .getDisk)]
  | _ => []

/-- The word that asks for the help of a level below. -/
def helpWord : String := "help"

/-- The words a level may be followed by. -/
def commands (l : Level) : List String :=
  match l.below with
  | [] => []
  | levels => levels.map Prod.fst ++ [helpWord]

/-- What the identifier names that an action takes. -/
def idWords? : Level → Option String
  | .getInstance | .listOperations => some "Instance id"
  | .getDisk => some "Disk id"
  | _ => none

/-- The options of a level, in the order in which they are listed. -/
def flags : Level → List Flag
  | .program => [.endpoint, .header, .timeout, .help, .version]
  | .instances | .disks | .getInstance | .getDisk => [.endpoint, .header, .timeout, .help]
  | .listInstances | .listDisks =>
    [.endpoint, .folderId, .filter, .header, .pageSize, .timeout, .limit, .help]
  | .listOperations => [.endpoint, .pageSize, .header, .limit, .timeout, .help]

/-- The options of a level that the levels above do not have. -/
def ownFlags : Level → List Flag
  | .listInstances | .listDisks => [.folderId, .filter, .pageSize, .limit]
  | .listOperations => [.pageSize, .limit]
  | _ => []

/-- The options of a level, in the order in which one that is meant is looked for. -/
def searchedFlags (l : Level) : List Flag :=
  l.ownFlags ++ Flag.shared ++ [.help] ++ (if l = .program then [.version] else [])

/-- The options a level cannot do without. -/
def requiredFlags : Level → List Flag
  | .listInstances | .listDisks => [.folderId]
  | _ => []

/-- The option of a level with a name. -/
def flagOfName? (l : Level) (name : String) : Option Flag := l.flags.find? fun f => f.long == name

/-- The option of a level with a letter. -/
def flagOfLetter? (l : Level) (c : Char) : Option Flag :=
  l.flags.find? fun f => f.short? == some c

end Level

end ControlPlane.CommandLine
