import Mathlib.Algebra.Group.Nat.Defs
import ControlPlane.CommandLine.Parse
import ControlPlane.Proofs.Text.Decimal

/-!
# Every invocation can be written

* `Invocation.words` -- an invocation as a command line: each option with its value attached, and
  the identifier behind two dashes;
* `readHeader_written`, `readPageSize_written`, `readLimit_written` -- the values are read back;
* `Leads` -- words that lead the reader of a level from one state to another, whatever follows;
  `leads_attached` -- **an option with its value attached is read as that value**;
* `scan_folder`, `scan_operations`, `scan_identified` -- what is read at the level of an action;
* `parse_words` -- **an invocation is read back from its words**.
-/

namespace ControlPlane.CommandLine

open Text

/-! ## 1. Words -/

/-- An option with its value attached. -/
def Flag.attached (f : Flag) (value : String) : String := "--" ++ f.long ++ "=" ++ value

/-- A header as a text. -/
def headerText (header : String × String) : String := header.1 ++ ":" ++ header.2

/-- The options of paging. -/
def Paging.words (p : Paging) : List String :=
  [Flag.pageSize.attached (String.ofList (decimalInt p.pageSize.toInt)),
    Flag.limit.attached (String.ofList (decimal p.limit))]

/-- The options of a list of a folder. -/
def folderWords (folderId filter : String) (paging : Paging) : List String :=
  Flag.folderId.attached folderId :: Flag.filter.attached filter :: paging.words

/-- An identifier, which may look like an option. -/
def idWords (id : String) : List String := ["--", id]

/-- A command with its arguments. -/
def Command.words : Command → List String
  | .listInstances folderId filter paging =>
    "instances" :: "list" :: folderWords folderId filter paging
  | .getInstance id => "instances" :: "get" :: idWords id
  | .listOperations id paging => "instances" :: "operations" :: (paging.words ++ idWords id)
  | .listDisks folderId filter paging => "disks" :: "list" :: folderWords folderId filter paging
  | .getDisk id => "disks" :: "get" :: idWords id

/-- The paging of a command that lists. -/
def Command.paging? : Command → Option Paging
  | .listInstances _ _ paging | .listOperations _ paging | .listDisks _ _ paging => some paging
  | .getInstance _ | .getDisk _ => none

/-- An invocation as a command line, if it has no deadline. -/
def Invocation.words (i : Invocation) : List String :=
  Flag.endpoint.attached i.endpoint :: i.headers.map (Flag.header.attached ∘ headerText) ++
    i.command.words

/-! ## 2. Values -/

/-- A text without blanks at its ends. -/
def Trimmed (text : String) : Prop :=
  (∀ c, text.toList.head? = some c → isBlank c = false) ∧
    ∀ c, text.toList.getLast? = some c → isBlank c = false

instance (text : String) : Decidable (Trimmed text) :=
  decidable_of_iff
    ((text.toList.head?.all fun c => !isBlank c) = true ∧
      (text.toList.getLast?.all fun c => !isBlank c) = true)
    (by simp [Trimmed, Option.all_eq_true])

/-- Where no blank stands first, nothing is dropped. -/
theorem dropBlanks_eq {chars : List Char}
    (first : ∀ c, chars.head? = some c → isBlank c = false) : chars.dropWhile isBlank = chars := by
  cases chars with
  | nil => rfl
  | cons c rest => rw [List.dropWhile_cons_of_neg (by rw [first c rfl]; exact Bool.false_ne_true)]

theorem trimChars_of_trimmed {text : String} (h : Trimmed text) :
    trimChars text.toList = text.toList := by
  have last : ∀ c, text.toList.reverse.head? = some c → isBlank c = false := by
    rw [List.head?_reverse]
    exact h.2
  rw [trimChars, dropBlanks_eq h.1, dropBlanks_eq last, List.reverse_reverse]

/-- A text is split where a character stands for the first time. -/
theorem splitAtChar?_append {c : Char} {before : List Char} (fresh : c ∉ before)
    (after : List Char) : splitAtChar? c (before ++ c :: after) = some (before, after) := by
  induction before with
  | nil => rw [List.nil_append, splitAtChar?, if_pos rfl]
  | cons x rest ih =>
    rw [List.mem_cons, not_or] at fresh
    rw [List.cons_append, splitAtChar?, if_neg fun same => fresh.1 same.symm, ih fresh.2]
    rfl

/-- **A header is read back from its text.** -/
theorem readHeader_written {header : String × String} (key : ':' ∉ header.1.toList)
    (trimmed : Trimmed header.1 ∧ Trimmed header.2) :
    readHeader (headerText header) = .ok header := by
  have chars : (headerText header).toList = header.1.toList ++ ':' :: header.2.toList := by
    rw [headerText, String.toList_append, String.toList_append, List.append_assoc]
    rfl
  rw [readHeader, chars, splitAtChar?_append key]
  simp only [trimChars_of_trimmed trimmed.1, trimChars_of_trimmed trimmed.2, String.ofList_toList]

theorem readPageSize_written (n : Int64) :
    readPageSize (String.ofList (decimalInt n.toInt)) = .ok n := by
  have low : -((maxInt64 : Int) + 1) ≤ n.toInt := Int64.le_toInt n
  have high : n.toInt ≤ (maxInt64 : Int) := Int64.toInt_le n
  rw [readPageSize, readInt_decimalInt low high]
  exact congrArg Except.ok (Int64.ofInt_toInt n)

theorem readLimit_written {n : Nat} (word : n ≤ maxWord64) :
    readLimit (String.ofList (decimal n)) = .ok n := by
  rw [readLimit, readNat_decimal word]

/-! ## 3. States -/

/-- No variable is set. -/
def Environment.unset : Environment := ⟨none, none⟩

/-- **Words that lead from one state to another**, whatever follows them. -/
def Leads (s : Scan) (words : List String) (t : Scan) : Prop :=
  ∀ rest, scan .unset s (words ++ rest) = scan .unset t rest

theorem Leads.cons {s t u : Scan} {word : String} {words : List String} (h : Leads s [word] t)
    (k : Leads t words u) : Leads s (word :: words) u :=
  fun rest => (h (words ++ rest)).trans (k rest)

theorem Leads.append {s t u : Scan} {words others : List String} (h : Leads s words t)
    (k : Leads t others u) : Leads s (words ++ others) u := by
  intro rest
  rw [List.append_assoc, h, k]

/-- A word that is no command leads to what is read of it. -/
theorem leads_word {s t : Scan} {word : String} (other : s.command? word = none)
    (read : ∀ rest, readWord s word rest = .ok t) : Leads s [word] t := by
  intro rest
  rw [List.cons_append, List.nil_append, scan, other]
  simp only [read rest]

/-- At an action no word is a command. -/
theorem command?_of_action {s : Scan} (action : s.level.below = []) (word : String) :
    s.command? word = none := by
  rw [Scan.command?, action]
  simp only [List.isEmpty_nil, Bool.or_true, if_true]

/-- A word that begins with a dash is no command. -/
theorem command?_of_dash (s : Scan) {word : String} (dash : word.toList.head? = some '-') :
    s.command? word = none := by
  have other : ∀ name ∈ Level.helpWord :: s.level.below.map Prod.fst, word ≠ name := by
    rintro name member rfl
    have names : ∀ l : Level, ∀ name ∈ Level.helpWord :: l.below.map Prod.fst,
        name.toList.head? ≠ some '-' := by
      intro l
      cases l <;> decide
    exact names s.level word member dash
  have unknown : s.level.below.lookup word = none := by
    rw [List.lookup_eq_none_iff]
    intro entry member
    have different := other entry.1 (List.mem_cons_of_mem _ (List.mem_map_of_mem member))
    exact bne_iff_ne.mpr different
  rw [Scan.command?, unknown]
  simp only [if_neg (other _ List.mem_cons_self), ite_self]

/-- An option with its value attached is a long option with that value. -/
theorem Word.of_attached (f : Flag) (value : String) :
    Word.of (f.attached value) = .long f.long (some value) := by
  have name : '=' ∉ f.long.toList := by cases f <;> decide
  have chars :
      (f.attached value).toList = '-' :: '-' :: (f.long.toList ++ '=' :: value.toList) := by
    simp only [Flag.attached, String.toList_append, List.append_assoc]
    rfl
  -- behind the dashes there is something, the equals sign at least
  obtain ⟨c, rest, split⟩ : ∃ c rest, f.long.toList ++ '=' :: value.toList = c :: rest :=
    List.exists_cons_of_ne_nil (List.append_ne_nil_of_right_ne_nil _ (List.cons_ne_nil _ _))
  have parts := splitAtChar?_append name value.toList
  rw [split] at parts
  rw [Word.of, chars, split]
  simp only [parts, String.ofList_toList]

/-- **An option with its value attached is read as that value**, at a level that has the option and
    no value for it yet. -/
theorem leads_attached {s : Scan} {f : Flag} {value : String} {given : Given}
    (known : s.level.flagOfName? f.long = some f) (valued : f.valueName?.isSome = true)
    (ahead : s.trailing = false) (settled : s.pending = none) (fresh : s.given.has f = false)
    (read : s.given.put f value = .ok given) :
    Leads s [f.attached value] { s with given := given, used := s.used ++ [f] } := by
  have dash : (f.attached value).toList.head? = some '-' := by
    simp only [Flag.attached, String.toList_append, List.append_assoc]
    rfl
  refine leads_word (command?_of_dash s dash) fun rest => ?_
  obtain ⟨level, given', pending, trailing, used⟩ := s
  subst ahead settled
  simp only [readWord, Bool.false_eq_true, if_false, Word.of_attached, readLong, known, valued,
    if_true, Scan.name, Scan.settle, Scan.accept, fresh, read]

/-- **So are headers, one after another.** -/
theorem leads_headers {headers : List (String × String)}
    (keys : ∀ header ∈ headers, ':' ∉ header.1.toList)
    (trimmed : ∀ header ∈ headers, Trimmed header.1 ∧ Trimmed header.2) {s : Scan}
    (outermost : s.level = .program) (ahead : s.trailing = false) (settled : s.pending = none) :
    Leads s (headers.map (Flag.header.attached ∘ headerText))
      { s with
        given := { s.given with headers := s.given.headers ++ headers }
        used := s.used ++ headers.map fun _ => Flag.header } := by
  induction headers generalizing s with
  | nil =>
    simp only [List.map_nil, List.append_nil]
    exact fun rest => rfl
  | cons header others ih =>
    rw [List.forall_mem_cons] at keys trimmed
    have known : s.level.flagOfName? Flag.header.long = some .header := by
      rw [outermost]
      rfl
    have read : s.given.put .header (headerText header) =
        .ok { s.given with headers := s.given.headers ++ [header] } := by
      rw [Given.put, readHeader_written keys.1 trimmed.1]
      rfl
    have first := leads_attached known rfl ahead settled rfl read
    have rest := ih keys.2 trimmed.2
      (s := { s with
        given := { s.given with headers := s.given.headers ++ [header] }
        used := s.used ++ [Flag.header] }) outermost ahead settled
    simp only [List.append_assoc, List.cons_append, List.nil_append] at rest
    exact first.cons rest

/-- The options of paging. -/
theorem leads_paging {paging : Paging} (word : paging.limit ≤ maxWord64) {s : Scan}
    (known : ∀ f ∈ [Flag.pageSize, .limit], s.level.flagOfName? f.long = some f)
    (fresh : s.given.pageSize = none ∧ s.given.limit = none) (ahead : s.trailing = false)
    (settled : s.pending = none) :
    Leads s paging.words
      { s with
        given := { s.given with pageSize := some paging.pageSize, limit := some paging.limit }
        used := s.used ++ [.pageSize] ++ [.limit] } := by
  have size : s.given.put .pageSize (String.ofList (decimalInt paging.pageSize.toInt)) =
      .ok { s.given with pageSize := some paging.pageSize } := by
    rw [Given.put, readPageSize_written]
    rfl
  have limit : ({ s.given with pageSize := some paging.pageSize } : Given).put .limit
      (String.ofList (decimal paging.limit)) =
        .ok { s.given with pageSize := some paging.pageSize, limit := some paging.limit } := by
    rw [Given.put, readLimit_written word]
    rfl
  have first := leads_attached (known .pageSize (by decide)) rfl ahead settled
    (by rw [Given.has, fresh.1]; rfl) size
  refine first.cons ?_
  exact leads_attached (s := { s with
      given := { s.given with pageSize := some paging.pageSize }
      used := s.used ++ [.pageSize] }) (known .limit (by decide)) rfl ahead settled
    (by rw [Given.has, fresh.2]; rfl) limit

/-- Behind two dashes an identifier is read as it is. -/
theorem leads_id (id : String) {s : Scan} (action : s.level.below = [])
    (takes : s.level.idWords?.isSome = true) (fresh : s.given.id = none)
    (ahead : s.trailing = false) (settled : s.pending = none) :
    Leads s (idWords id) { s with trailing := true, given := { s.given with id := some id } } := by
  have dashes : Leads s ["--"] { s with trailing := true } := by
    refine leads_word (command?_of_action action _) fun rest => ?_
    rw [readWord, ahead]
    rfl
  have argument : Leads { s with trailing := true } [id]
      { s with trailing := true, given := { s.given with id := some id } } := by
    refine leads_word (command?_of_action (s := { s with trailing := true }) action id)
      fun rest => ?_
    simp only [readWord, if_true, readArgument, takes, fresh, Option.isNone_none, Bool.and_self,
      Scan.settle, settled]
  exact dashes.cons argument

/-! ## 4. Levels -/

/-- A variable that is not set is not at fault. -/
theorem checkVariables_unset (g : Given) : checkVariables .unset g = .ok () := by
  rw [checkVariables, Environment.unset]
  cases g.timeout with
  | none => rfl
  | some d => rfl

/-- A word that names a level leads to it. -/
theorem scan_command {s : Scan} {word : String} {next level : Level} {rest : List String}
    {givens : List Given} (named : s.level.below.lookup word = some next)
    (ahead : s.trailing = false) (settled : s.pending = none)
    (inner : scan .unset { level := next } rest = .ok (givens, level)) :
    scan .unset s (word :: rest) = .ok (s.given :: givens, level) := by
  have waits : s.awaits = false := by
    rw [Scan.awaits, settled]
  have levels : s.level.below.isEmpty = false := by
    cases none : s.level.below with
    | nil =>
      rw [none] at named
      cases named
    | cons => rfl
  have command : s.command? word = some (.level next) := by
    rw [Scan.command?, named, ahead, waits, levels]
    rfl
  have finished : finish .unset false s = .ok s.given := by
    rw [finish, Scan.settle, settled]
    simp only [checkVariables_unset, Bool.false_eq_true, if_false]
  rw [scan, command]
  simp only [inner, finished]
  rfl

/-- The command line ends at an action that lacks nothing. -/
theorem scan_end {s : Scan} (action : s.level.below = []) (settled : s.pending = none)
    (complete : missing s = []) : scan .unset s [] = .ok ([s.given], s.level) := by
  have complete' : checkEnd .unset s = .ok () := by
    rw [checkEnd, action, complete]
    rfl
  rw [scan, finish, Scan.settle, settled]
  simp only [checkVariables_unset, complete', if_true]
  rfl

/-- What is read at the level of a list of a folder. -/
theorem scan_folder {l : Level} (folder : l = .listInstances ∨ l = .listDisks)
    (folderId filter : String) {paging : Paging} (word : paging.limit ≤ maxWord64) :
    scan .unset { level := l } (folderWords folderId filter paging) =
      .ok ([{ folderId := some folderId, filter := some filter, pageSize := some paging.pageSize,
              limit := some paging.limit }], l) := by
  have known : ∀ f ∈ [Flag.folderId, .filter, .pageSize, .limit],
      l.flagOfName? f.long = some f := by
    rcases folder with rfl | rfl <;> decide
  have first : Leads { level := l } [Flag.folderId.attached folderId] _ :=
    leads_attached (known .folderId (by decide)) rfl rfl rfl rfl rfl
  have second : Leads
      { level := l, given := { folderId := some folderId }, used := [.folderId] }
      [Flag.filter.attached filter] _ :=
    leads_attached (known .filter (by decide)) rfl rfl rfl rfl rfl
  have others := leads_paging word
    (s := { level := l, given := { folderId := some folderId, filter := some filter },
            used := [.folderId, .filter] })
    (fun f member => known f (List.mem_cons_of_mem _ (List.mem_cons_of_mem _ member)))
    ⟨rfl, rfl⟩ rfl rfl
  have all := (first.cons (second.cons others)) []
  rw [List.append_nil] at all
  rw [folderWords, all]
  rcases folder with rfl | rfl
  · exact scan_end rfl rfl rfl
  · exact scan_end rfl rfl rfl

/-- What is read at the level of a single resource. -/
theorem scan_identified {l : Level} (single : l = .getInstance ∨ l = .getDisk) (id : String) :
    scan .unset { level := l } (idWords id) = .ok ([{ id := some id }], l) := by
  have action : l.below = [] ∧ l.idWords?.isSome = true := by
    rcases single with rfl | rfl <;> decide
  have all := leads_id id (s := { level := l }) action.1 action.2 rfl rfl rfl []
  rw [List.append_nil] at all
  rw [all]
  rcases single with rfl | rfl
  · exact scan_end rfl rfl rfl
  · exact scan_end rfl rfl rfl

/-- What is read at the level of a list of operations. -/
theorem scan_operations (id : String) {paging : Paging} (word : paging.limit ≤ maxWord64) :
    scan .unset { level := .listOperations } (paging.words ++ idWords id) =
      .ok ([{ pageSize := some paging.pageSize, limit := some paging.limit, id := some id }],
        .listOperations) := by
  have options := leads_paging word (s := { level := .listOperations }) (by decide) ⟨rfl, rfl⟩
    rfl rfl
  have identifier := leads_id id
    (s := { level := .listOperations,
            given := { pageSize := some paging.pageSize, limit := some paging.limit },
            used := [.pageSize, .limit] }) rfl rfl rfl rfl rfl
  have all := options.append identifier []
  rw [List.append_nil] at all
  rw [all]
  exact scan_end rfl rfl rfl

/-- **What is read of a command**: nothing at the level of its resource, and its arguments at the
    level of its action. -/
theorem scan_words {command : Command}
    (word : ∀ paging, command.paging? = some paging → paging.limit < 2 ^ 64) {s : Scan}
    (outermost : s.level = .program) (ahead : s.trailing = false) (settled : s.pending = none) :
    ∃ g l, scan .unset s command.words = .ok ([s.given, {}, g], l) ∧
      commandOf l g = some command ∧ g.endpoint = none ∧ g.timeout = none ∧ g.headers = [] := by
  -- the resource is named at the level of the program, and the action at its own
  have named : ∀ {resource action : String} {inner l : Level} {words : List String} {g : Given},
      Level.program.below.lookup resource = some inner → inner.below.lookup action = some l →
      scan .unset { level := l } words = .ok ([g], l) →
        scan .unset s (resource :: action :: words) = .ok ([s.given, {}, g], l) := by
    intro resource action inner l words g first second read
    have next := scan_command (s := { level := inner }) second rfl rfl read
    exact scan_command (outermost ▸ first) ahead settled next
  cases command with
  | listInstances folderId filter paging =>
    have limit : paging.limit ≤ maxWord64 := Nat.le_of_lt_succ (word paging rfl)
    have read := scan_folder (.inl rfl) folderId filter limit
    exact ⟨_, _, named rfl rfl read, rfl, rfl, rfl, rfl⟩
  | getInstance id =>
    have read := scan_identified (.inl rfl) id
    exact ⟨_, _, named rfl rfl read, rfl, rfl, rfl, rfl⟩
  | listOperations id paging =>
    have limit : paging.limit ≤ maxWord64 := Nat.le_of_lt_succ (word paging rfl)
    have read := scan_operations id limit
    exact ⟨_, _, named rfl rfl read, rfl, rfl, rfl, rfl⟩
  | listDisks folderId filter paging =>
    have limit : paging.limit ≤ maxWord64 := Nat.le_of_lt_succ (word paging rfl)
    have read := scan_folder (.inr rfl) folderId filter limit
    exact ⟨_, _, named rfl rfl read, rfl, rfl, rfl, rfl⟩
  | getDisk id =>
    have read := scan_identified (.inr rfl) id
    exact ⟨_, _, named rfl rfl read, rfl, rfl, rfl, rfl⟩

/-! ## 5. Command lines -/

/-- **An invocation that can be written**: it has no deadline, its headers are as they are read, and
    its limit is a number of 64 bits. Its other texts may be any. -/
structure Writable (i : Invocation) : Prop where
  untimed : i.timeout = none
  keys : ∀ header ∈ i.headers, ':' ∉ header.1.toList
  trimmed : ∀ header ∈ i.headers, Trimmed header.1 ∧ Trimmed header.2
  limit : ∀ paging, i.command.paging? = some paging → paging.limit < 2 ^ 64

/-- **An invocation is read back from its words**, when no variable is set. -/
theorem parse_words {i : Invocation} (writable : Writable i) : parse .unset i.words = .ok i := by
  obtain ⟨endpoint, headers, timeout, command⟩ := i
  obtain ⟨rfl, keys, trimmed, limit⟩ := writable
  have first : Leads { level := .program } [Flag.endpoint.attached endpoint] _ :=
    leads_attached rfl rfl rfl rfl rfl rfl
  have second := leads_headers keys trimmed rfl rfl rfl
    (s := { level := .program, given := { endpoint := some endpoint }, used := [.endpoint] })
  obtain ⟨g, l, read, same, noEndpoint, noTimeout, noHeaders⟩ := scan_words limit rfl rfl rfl
    (s := { level := .program, given := { endpoint := some endpoint, headers := headers },
            used := .endpoint :: headers.map fun _ => Flag.header })
  have scanned : scan .unset { level := .program } (Invocation.words ⟨endpoint, headers, none,
      command⟩) = .ok ([{ endpoint := some endpoint, headers := headers }, {}, g], l) :=
    (first.cons second command.words).trans read
  -- only the outermost level has an endpoint and headers
  have found : headersOf [{ endpoint := some endpoint, headers := headers }, {}, g] = headers := by
    cases headers with
    | nil => simp [headersOf, innermost, noHeaders]
    | cons => simp [headersOf, innermost, noHeaders]
  rw [parse, scanned]
  simp only [List.getLastD_cons, List.getLastD_nil, same, found]
  simp [endpointOf, timeoutOf, innermost, noEndpoint, noTimeout, Environment.unset]

/-- A list of disks whose texts look like options, headers and numbers: there is no endpoint, no
    key, a value with an equals sign and a colon in it, a folder `--help` and a filter `-x=1`. -/
def confusing : Invocation :=
  ⟨"", [("", ""), ("-k", "=v:w x")], none, .listDisks "--help" "-x=1" ⟨-5, 2 ^ 64 - 1⟩⟩

/-- So is one whose identifier is two dashes. -/
def dashed : Invocation := ⟨"--", [("a=b", "")], none, .listOperations "--" ⟨-2 ^ 63, 0⟩⟩

/-- They are written, and read back. -/
theorem parse_words_confusing :
    confusing.words = ["--endpoint=", "--header=:", "--header=-k:=v:w x", "disks", "list",
      "--folder-id=--help", "--filter=-x=1", "--page-size=-5", "--limit=18446744073709551615"] ∧
    parse .unset confusing.words = .ok confusing ∧ parse .unset dashed.words = .ok dashed := by
  refine ⟨by decide +kernel, parse_words ⟨rfl, ?_, ?_, ?_⟩, parse_words ⟨rfl, ?_, ?_, ?_⟩⟩
  · decide
  · decide +kernel
  · intro paging same
    rw [← Option.some.inj same]
    decide
  · decide
  · decide +kernel
  · intro paging same
    rw [← Option.some.inj same]
    decide

end ControlPlane.CommandLine
