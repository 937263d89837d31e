import ControlPlane.CommandLine.Fault
import ControlPlane.CommandLine.Invocation

/-!
# Reading the command line

A command line is read word by word, level by level:

* an option is named with two dashes, or with one dash and a letter; its value is attached to it or
  is the next word, unless that begins with a dash of its own;
* two dashes alone end the options: what follows is no option and no command;
* a value is read when the next option or argument comes or the level ends. Before that a fault of
  a later word may be found; and the levels below are read before a level ends;
* at its end a level takes its variables, and then nothing it needs may be missing.

Of the options of the program, the value given at the innermost level counts.

* `scan` -- reads a level and those below it; `parse` -- reads a command line.
-/

namespace ControlPlane.CommandLine

/-! ## 1. The state at a level -/

/-- What has been read at a level. -/
structure Scan where
  level : Level
  given : Given := {}
  /-- The option that was named last, with its value if that has come. -/
  pending : Option (Flag × Option String) := none
  /-- Whether two dashes have come. -/
  trailing : Bool := false
  /-- The options that were given, in order. -/
  used : List Flag := []

namespace Scan

/-- Whether the next word may be the value of an option. -/
def awaits (s : Scan) : Bool :=
  match s.pending with
  | some (_, none) => true
  | _ => false

/-- Takes the value of an option. -/
def accept (s : Scan) (f : Flag) (value : Option String) : Except Fault Scan :=
  match value with
  | none => .error (.valueMissing f)
  | some text =>
    if s.given.has f then .error (.repeated f s.level)
    else
      match s.given.put f text with
      | .error reason => .error (.valueInvalid f text reason)
      | .ok given => .ok { s with given := given, used := s.used ++ [f] }

/-- Takes the value of the option that was named last. -/
def settle (s : Scan) : Except Fault Scan :=
  match s.pending with
  | none => .ok s
  | some (f, value) => { s with pending := none }.accept f value

/-- The options that count as used when a word is refused: one whose value is at fault counts, but
    not one that was given a second time. -/
def touched (s : Scan) : List Flag :=
  match s.pending with
  | some (f, some _) => if s.given.has f then s.used.filter (· != f) else s.used ++ [f]
  | _ => s.used

/-- The options to show when a word is refused for which another option may be `meant`: none if
    nothing was given at the level. -/
def shownUse (s : Scan) (meant : Option Flag) : Option (List Flag) :=
  let used := s.touched ++ meant.toList
  if used.isEmpty && s.given.id.isNone then none else some used

/-- An option that takes a value, attached or to come. -/
def name (s : Scan) (f : Flag) (attached : Option String) : Except Fault Scan :=
  match s.settle with
  | .error fault => .error fault
  | .ok t =>
    match attached with
    | none => .ok { t with pending := some (f, none) }
    | some text => t.accept f (some text)

/-- An option that takes no value: it asks for help or for the version. -/
def switch (s : Scan) (f : Flag) (full : Bool) : Except Fault Scan :=
  match s.settle with
  | .error fault => .error fault
  | .ok t => .error (if f = .version then .version else .help (.level t.level) full)

end Scan

/-! ## 2. Hints -/

/-- The option most like a name among some options. -/
def likeliest? (word : String) (flags : List Flag) : Option String :=
  (Text.Similarity.similar word (flags.map Flag.long)).getLast?

/-- The option most like a name, at a level below whose name follows; the first that follows. -/
def hintBelow? (word : String) (l : Level) (rest : List String) : Option Hint :=
  let found := l.below.filterMap fun (name, level) =>
    match likeliest? word level.searchedFlags, rest.idxOf? name with
    | some flag, some i => some (i, Hint.flagOf name flag)
    | _, _ => none
  let first := found.foldl (fun best x =>
    match best with
    | none => some x
    | some b => if x.1 < b.1 then some x else some b) (none : Option (Nat × Hint))
  first.map Prod.snd

/-- A hint that a word could be meant as a value, where there may be one. -/
def hintAsValue (l : Level) (word : String) : List Hint :=
  if l.idWords?.isSome then [.asValue word] else []

/-- The fault of a name that no option has. -/
def unknownName (s : Scan) (name : String) (rest : List String) : Fault :=
  let word := "--" ++ name
  match likeliest? name s.level.searchedFlags with
  | some flag =>
    .argumentUnknown word [.flag flag] s.level (s.shownUse (s.level.flagOfName? flag))
  | none =>
    match hintBelow? name s.level rest with
    | some hint => .argumentUnknown word [hint] s.level (s.shownUse none)
    | none => .argumentUnknown word (hintAsValue s.level word) s.level (s.shownUse none)

/-- The fault of a word that is neither a command nor an argument. -/
def unknownWord (s : Scan) (word : String) : Fault :=
  if s.level.commands.isEmpty then .argumentUnknown word [] s.level none
  else if s.trailing && s.level.commands.contains word then
    .argumentUnknown word [.withoutDashes word] s.level none
  else
    match Text.Similarity.similar word s.level.commands with
    | [] => .commandUnknown word [] (.level s.level)
    | words => .commandUnknown word [.commands words] (.level s.level)

/-! ## 3. Words -/

/-- What a word is by its dashes. -/
inductive Word where
  | dashes
  | long (name : String) (value : Option String)
  | short (letters : List Char)
  | plain

/-- What a word is by its dashes. -/
def Word.of (word : String) : Word :=
  match word.toList with
  | ['-', '-'] => .dashes
  | '-' :: '-' :: rest =>
    match splitAtChar? '=' rest with
    | none => .long (String.ofList rest) none
    | some (name, value) => .long (String.ofList name) (some (String.ofList value))
  | ['-'] => .plain
  | '-' :: letters => .short letters
  | _ => .plain

/-- Reads a long option. -/
def readLong (s : Scan) (name : String) (value : Option String) (rest : List String) :
    Except Fault Scan :=
  match s.level.flagOfName? name with
  | none => .error (unknownName s name rest)
  | some f =>
    if f.valueName?.isSome then s.name f value
    else
      match value with
      | none => s.switch f true
      | some text => .error (.valueUnwanted f text s.level (s.used ++ [f]))

/-- Reads options by their letters. A letter that takes a value takes the letters after it. -/
def readShort (s : Scan) : List Char → Except Fault Scan
  | [] => .ok s
  | c :: rest =>
    match s.level.flagOfLetter? c with
    | none =>
      let word := "-" ++ String.singleton c
      .error (.argumentUnknown word (hintAsValue s.level word) s.level none)
    | some f =>
      if f.valueName?.isSome then
        match rest with
        | [] => s.name f none
        | '=' :: value => s.name f (some (String.ofList value))
        | value => s.name f (some (String.ofList value))
      else s.switch f false

/-- Reads an argument. -/
def readArgument (s : Scan) (word : String) : Except Fault Scan :=
  if s.level.idWords?.isSome && s.given.id.isNone then
    match s.settle with
    | .error fault => .error fault
    | .ok t => .ok { t with given := { t.given with id := some word } }
  else .error (unknownWord s word)

/-- Reads a word that is the value of an option, if one is awaited, or an argument. -/
def readPlain (s : Scan) (word : String) : Except Fault Scan :=
  match s.pending with
  | some (f, none) => .ok { s with pending := some (f, some word) }
  | _ => readArgument s word

/-- Reads a word that is no command. -/
def readWord (s : Scan) (word : String) (rest : List String) : Except Fault Scan :=
  if s.trailing then readArgument s word
  else
    match Word.of word with
    | .dashes => .ok { s with trailing := true }
    | .long name value => readLong s name value rest
    | .short letters => readShort s letters
    | .plain => readPlain s word

/-! ## 4. Levels -/

/-- The fault that a question for help gives: the help of a topic, or of one below it. -/
def helpOn (topic : Topic) : List String → Fault
  | [] => .help topic true
  | word :: rest =>
    match topic with
    | .helpWord _ => .commandUnknown word [] topic
    | .level l =>
      match l.below.lookup word with
      | some next => helpOn (.level next) rest
      | none =>
        if l.commands.contains word then helpOn (.helpWord l) rest
        else .commandUnknown word [] topic

/-- What a level needs and does not have. -/
def missing (s : Scan) : List String :=
  ((s.level.requiredFlags.filter fun f => !s.given.has f).map Flag.shown) ++
    (if s.level.idWords?.isSome && s.given.id.isNone then ["<ID>"] else [])

/-- The options whose values come from variables. -/
def fromVariables (env : Environment) (g : Given) : List Flag :=
  [Flag.endpoint, .timeout].filter fun f => !g.has f && (env.value? f).isSome

/-- Checks the variables that stand in for options. -/
def checkVariables (env : Environment) (g : Given) : Except Fault Unit :=
  match g.timeout, env.timeout with
  | none, some text =>
    match readTimeout text with
    | .error reason => .error (.valueInvalid .timeout text reason)
    | .ok _ => .ok ()
  | _, _ => .ok ()

/-- Checks that a level at which the command line ends lacks nothing. -/
def checkEnd (env : Environment) (s : Scan) : Except Fault Unit :=
  let fromEnv := fromVariables env s.given
  if !s.level.below.isEmpty then
    .error (if s.given.isEmpty && fromEnv.isEmpty then .nothingGiven s.level
      else .commandMissing s.level)
  else if !(missing s).isEmpty then
    .error (.argumentsMissing s.level (missing s) (s.used ++ fromEnv))
  else .ok ()

/-- Ends a level; `last` tells that the command line ends here. -/
def finish (env : Environment) (last : Bool) (s : Scan) : Except Fault Given :=
  match s.settle with
  | .error fault => .error fault
  | .ok t =>
    match checkVariables env t.given with
    | .error fault => .error fault
    | .ok () =>
      if last then (checkEnd env t).map fun () => t.given else .ok t.given

/-- What a word stands for where a command may stand. -/
inductive CommandWord where
  | level (l : Level)
  | help

/-- The command that a word stands for. -/
def Scan.command? (s : Scan) (word : String) : Option CommandWord :=
  if s.trailing || s.awaits || s.level.below.isEmpty then none
  else
    match s.level.below.lookup word with
    | some l => some (.level l)
    | none => if word = Level.helpWord then some .help else none

/-- Reads the words of a level and of those below: what was given at each, the outermost first, and
    the innermost level. -/
def scan (env : Environment) (s : Scan) : List String → Except Fault (List Given × Level)
  | [] => (finish env true s).map fun g => ([g], s.level)
  | word :: rest =>
    match s.command? word with
    | some .help => .error (helpOn (.level s.level) rest)
    | some (.level next) =>
      match scan env { level := next } rest with
      | .error fault => .error fault
      | .ok (givens, level) => (finish env false s).map fun g => (g :: givens, level)
    | none =>
      match readWord s word rest with
      | .error fault => .error fault
      | .ok t => scan env t rest

/-! ## 5. Command lines -/

/-- The last value that is there. -/
def innermost {α : Type} (values : List (Option α)) : Option α :=
  values.foldl (fun a b => b <|> a) none

/-- The command of a level with what was given at it. -/
def commandOf (l : Level) (g : Given) : Option Command :=
  let paging : Paging := ⟨g.pageSize.getD 0, g.limit.getD 0⟩
  match l with
  | .listInstances => some (.listInstances (g.folderId.getD "") (g.filter.getD "") paging)
  | .getInstance => some (.getInstance (g.id.getD ""))
  | .listOperations => some (.listOperations (g.id.getD "") paging)
  | .listDisks => some (.listDisks (g.folderId.getD "") (g.filter.getD "") paging)
  | .getDisk => some (.getDisk (g.id.getD ""))
  | .program | .instances | .disks => none

/-- The endpoint: as given, or from its variable, or the default. -/
def endpointOf (env : Environment) (givens : List Given) : String :=
  ((innermost (givens.map Given.endpoint)) <|> env.endpoint).getD Endpoint.default

/-- The deadline: as given, or from its variable, or none. -/
def timeoutOf (env : Environment) (givens : List Given) : Option Duration :=
  (innermost (givens.map Given.timeout)) <|>
    (env.timeout.bind fun text => (readTimeout text).toOption)

/-- The headers of the innermost level that has any. -/
def headersOf (givens : List Given) : List (String × String) :=
  (innermost (givens.map fun g => if g.headers.isEmpty then none else some g.headers)).getD []

/-- Reads a command line. -/
def parse (env : Environment) (words : List String) : Except Fault Invocation :=
  match scan env { level := .program } words with
  | .error fault => .error fault
  | .ok (givens, level) =>
    match commandOf level (givens.getLastD {}) with
    | none => .error (.commandMissing level)
    | some command =>
      .ok ⟨endpointOf env givens, headersOf givens, timeoutOf env givens, command⟩

end ControlPlane.CommandLine
