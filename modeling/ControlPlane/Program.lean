import ControlPlane.Client.Session
import ControlPlane.CommandLine.Parse
import ControlPlane.Report

/-!
# The program

* `Outcome` -- how a run ends: the exit code and what was written;
* `printAll` -- the resources as they are printed, up to the first that cannot be rendered;
* `listOutcome`, `getOutcome` -- the runs of a listing and of a single call: what came is printed
  first, then the failure is reported;
* `run` -- the command line is read, the endpoint checked, and the command carried out over a
  connection that is dialled when it is needed.
-/

namespace ControlPlane.Program

open CommandLine

/-! ## 1. Outcomes -/

/-- How a run ends. -/
structure Outcome where
  exit : Nat
  stdout : String
  stderr : String
  deriving DecidableEq, Repr

/-- A run that ends with reports of a failure, after some output. -/
def failure (coloured : Bool) (stdout : String) (reports : List Report) : Outcome :=
  ⟨1, stdout, String.join (reports.map (Report.printed coloured))⟩

/-- The run of a call that ended without an answer; none if it never ends. A crash has an exit code
    of its own. -/
def faultOutcome (coloured : Bool) (stdout : String) (more : List Report) :
    CallFault → Option Outcome
  | .status s => some (failure coloured stdout (.failed s :: more))
  | .crash words => some ⟨101, "", words ++ "\n"⟩
  | .stalled => none

/-! ## 2. Printing -/

/-- What is printed for resources, and the fault of the first that cannot be rendered. -/
def printAll {M : Type} [Message M] (coloured : Bool) : List M → String × Option RenderFault
  | [] => ("", none)
  | m :: rest =>
    match Render.toJson m with
    | .error fault => ("", some fault)
    | .ok json =>
      let (out, fault) := printAll coloured rest
      ((Report.value json).printed coloured ++ out, fault)

/-- The run of a listing. -/
def listOutcome {M : Type} [Message M] (coloured : Bool) (haul : Haul M CallFault) :
    Option Outcome :=
  match haul.failure with
  | some (.crash words) => faultOutcome coloured "" [] (.crash words)
  | some .stalled => none
  | failed =>
    match printAll coloured haul.items, failed with
    | (out, some fault), _ => some (failure coloured out [.notRendered fault])
    | (out, none), none => some ⟨0, out, ""⟩
    | (out, none), some fault =>
      faultOutcome coloured out
        (if haul.items.isEmpty then [] else [.incomplete haul.items.length]) fault

/-- The run of a single call. -/
def getOutcome {M : Type} [Message M] (coloured : Bool) : Except CallFault M → Option Outcome
  | .error fault => faultOutcome coloured "" [] fault
  | .ok m => listOutcome coloured ⟨[m], none⟩

/-! ## 3. Commands -/

/-- Pulls a listing from a request on. -/
def runListing (coloured : Bool) (s : Session) (options : CallOptions) (l : Listing)
    (request : l.method.Request) (limit : Nat) : Option Outcome × Session :=
  let (haul, _, t) := (Session.iterate l request).take (Session.list l options) limit s
  (listOutcome coloured haul, t)

/-- Carries out a command. -/
def runCommand (coloured : Bool) (s : Session) (options : CallOptions) :
    Command → Option Outcome × Session
  | .listInstances folderId filter paging =>
    runListing coloured s options .instances
      (⟨folderId, paging.pageSize, "", filter⟩ : ListInstancesRequest) paging.limit
  | .listDisks folderId filter paging =>
    runListing coloured s options .disks
      (⟨folderId, paging.pageSize, "", filter⟩ : ListDisksRequest) paging.limit
  | .listOperations id paging =>
    runListing coloured s options .operations
      (⟨id, paging.pageSize, ""⟩ : ListOperationsRequest) paging.limit
  | .getInstance id =>
    let (answer, t) := s.call .getInstance (⟨id⟩ : GetInstanceRequest) options
    (getOutcome coloured answer, t)
  | .getDisk id =>
    let (answer, t) := s.call .getDisk (⟨id⟩ : GetDiskRequest) options
    (getOutcome coloured answer, t)

/-! ## 4. Runs -/

/-- The variables that a run looks at. -/
structure Variables where
  environment : Environment
  /-- Asks for colours although the output is no terminal. -/
  forceColour : Option String
  /-- Asks for no colours. -/
  noColour : Option String

/-- The variables in a list of names and values; the last of a name counts. -/
def Variables.ofList (entries : List (String × String)) : Variables :=
  let find := fun name => entries.reverse.lookup name
  ⟨⟨find "CIRRUS_ENDPOINT", find "CIRRUS_TIMEOUT"⟩, find "CLICOLOR_FORCE", find "NO_COLOR"⟩

/-- Whether the headings of reports are coloured. -/
def Variables.coloursReports (v : Variables) : Bool := v.forceColour.any fun s => s != "0"

/-- Whether the texts about the command line are coloured: a variable without a value asks for
    nothing, and the one against colours comes first. -/
def Variables.coloursFaults (v : Variables) : Bool :=
  !(v.noColour.any fun s => !s.isEmpty) && v.forceColour.any fun s => !s.isEmpty

/-- A run over a network on which dials end as the dialler says and calls get the replies; with the
    calls that the server receives. -/
def run (v : Variables) (words : List String) (dialler : Dialler) (replies : List Reply) :
    Option Outcome × List Received :=
  match parse v.environment words with
  | .error fault =>
    let text := fault.written v.coloursFaults v.environment
    (some (if fault.toOutput then ⟨fault.exitCode, text, ""⟩ else ⟨fault.exitCode, "", text⟩), [])
  | .ok invocation =>
    let coloured := v.coloursReports
    match Connection.connectTo? dialler invocation.endpoint with
    | none => (some (failure coloured "" [.invalidEndpoint invocation.endpoint]), [])
    | some connection =>
      let (outcome, s) :=
        runCommand coloured ⟨connection, replies, [], []⟩ invocation.options invocation.command
      (outcome, s.received)

end ControlPlane.Program
