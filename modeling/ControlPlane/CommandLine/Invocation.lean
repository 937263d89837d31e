import ControlPlane.CallOptions
import ControlPlane.CommandLine.Grammar
import ControlPlane.Text.Blank
import ControlPlane.Time.Seconds

/-!
# What a command line says

* `Command`, `Invocation` -- an action with its arguments, and the settings of its calls;
* `readHeader`, `readTimeout`, `readPageSize`, `readLimit` -- the readers of the options' values;
* `Given` -- the values given at one level, and `Given.put`, which adds one.
-/

namespace ControlPlane.CommandLine

open Text

/-! ## 1. Invocations -/

/-- How a listing is pulled: the items of a page, and how many are wanted; zero for the default
    and for all. -/
structure Paging where
  pageSize : Int64
  limit : Nat
  deriving DecidableEq

/-- An action with its arguments. -/
inductive Command where
  | listInstances (folderId filter : String) (paging : Paging)
  | getInstance (id : String)
  | listOperations (id : String) (paging : Paging)
  | listDisks (folderId filter : String) (paging : Paging)
  | getDisk (id : String)
  deriving DecidableEq

/-- A command with the settings of its calls. -/
structure Invocation where
  endpoint : String
  headers : List (String × String)
  timeout : Option Duration
  command : Command
  deriving DecidableEq

/-- The options of an invocation's calls. -/
def Invocation.options (i : Invocation) : CallOptions := ⟨i.headers, i.timeout⟩

/-! ## 2. Values -/

/-- A text up to a character, and what follows that; none if the character does not stand in it. -/
def splitAtChar? (c : Char) : List Char → Option (List Char × List Char)
  | [] => none
  | x :: rest =>
    if x = c then some ([], rest)
    else (splitAtChar? c rest).map fun (before, after) => (x :: before, after)

/-- A header: a key, a colon and a value, without the blanks around them. -/
def readHeader (text : String) : Except String (String × String) :=
  match splitAtChar? ':' text.toList with
  | none => .error "Format must be 'key:value'"
  | some (key, value) => .ok (String.ofList (trimChars key), String.ofList (trimChars value))

/-- A deadline in seconds. -/
def readTimeout (text : String) : Except String Duration :=
  match Seconds.read text with
  | .error fault => .error ("Invalid timeout '" ++ text ++ "': " ++ fault.message)
  | .ok d => .ok d

/-- The number of items of a page. -/
def readPageSize (text : String) : Except String Int64 :=
  match readInt maxInt64 text with
  | .error fault => .error fault.message
  | .ok n => .ok (Int64.ofInt n)

/-- The number of items wanted. -/
def readLimit (text : String) : Except String Nat :=
  match readNat maxWord64 text with
  | .error fault => .error fault.message
  | .ok n => .ok n

/-! ## 3. The values given at a level -/

/-- The values given at one level. -/
structure Given where
  endpoint : Option String := none
  headers : List (String × String) := []
  timeout : Option Duration := none
  folderId : Option String := none
  filter : Option String := none
  pageSize : Option Int64 := none
  limit : Option Nat := none
  id : Option String := none
  deriving DecidableEq

namespace Given

/-- Whether an option that may stand once has a value. -/
def has (g : Given) : Flag → Bool
  | .endpoint => g.endpoint.isSome
  | .timeout => g.timeout.isSome
  | .folderId => g.folderId.isSome
  | .filter => g.filter.isSome
  | .pageSize => g.pageSize.isSome
  | .limit => g.limit.isSome
  | .header | .help | .version => false

/-- Reads the value of an option and adds it. -/
def put (g : Given) (f : Flag) (text : String) : Except String Given :=
  match f with
  | .endpoint => .ok { g with endpoint := some text }
  | .header => (readHeader text).map fun h => { g with headers := g.headers ++ [h] }
  | .timeout => (readTimeout text).map fun d => { g with timeout := some d }
  | .folderId => .ok { g with folderId := some text }
  | .filter => .ok { g with filter := some text }
  | .pageSize => (readPageSize text).map fun n => { g with pageSize := some n }
  | .limit => (readLimit text).map fun n => { g with limit := some n }
  | .help | .version => .ok g

/-- Whether nothing was given. -/
def isEmpty (g : Given) : Bool := g = {}

end Given

end ControlPlane.CommandLine
