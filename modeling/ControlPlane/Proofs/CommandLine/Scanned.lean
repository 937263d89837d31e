import ControlPlane.Proofs.CommandLine.Line

/-!
# What is read of a line

A line is read piece by piece, and each piece gives its value to its level:

* `Added` -- what the value of an option adds to those of its level;
* `scan_settle` -- the value of an option may be taken at once, though it is taken later;
* `Piece.give`, `giveAll` -- **what a piece adds to the values of its level**, and all pieces do;
* `scan_pieces` -- pieces are read so, whatever follows them;
* `Line.Gives`, `Line.parse_eq_ok_iff` -- **what is read of a line**.
-/

namespace ControlPlane.CommandLine

/-! ## 1. Values that have come -/

/-- **What the value of an option adds** to the values of a level. -/
inductive Added (g : Given) (text : String) : Flag → Given → Prop where
  | endpoint : Added g text .endpoint { g with endpoint := some text }
  | header {h : String × String} (read : readHeader text = .ok h) :
      Added g text .header { g with headers := g.headers ++ [h] }
  | timeout {d : Duration} (read : readTimeout text = .ok d) :
      Added g text .timeout { g with timeout := some d }
  | folderId : Added g text .folderId { g with folderId := some text }
  | filter : Added g text .filter { g with filter := some text }
  | pageSize {n : Int64} (read : readPageSize text = .ok n) :
      Added g text .pageSize { g with pageSize := some n }
  | limit {n : Nat} (read : readLimit text = .ok n) : Added g text .limit { g with limit := some n }
  | help : Added g text .help g
  | version : Added g text .version g

/-- **A value is added in no other way.** -/
theorem put_eq_ok_iff {g g' : Given} {f : Flag} {text : String} :
    g.put f text = .ok g' ↔ Added g text f g' := by
  have mapped : ∀ {α : Type} {x : Except String α} {make : α → Given},
      x.map make = .ok g' → ∃ a, x = .ok a ∧ make a = g' := by
    intro α x make same
    cases x with
    | error => cases same
    | ok a => exact ⟨a, rfl, Except.ok.inj same⟩
  constructor
  · intro read
    cases f with
    | endpoint => cases read; exact .endpoint
    | folderId => cases read; exact .folderId
    | filter => cases read; exact .filter
    | help => cases read; exact .help
    | version => cases read; exact .version
    | header =>
      obtain ⟨h, value, rfl⟩ := mapped read
      exact .header value
    | timeout =>
      obtain ⟨d, value, rfl⟩ := mapped read
      exact .timeout value
    | pageSize =>
      obtain ⟨n, value, rfl⟩ := mapped read
      exact .pageSize value
    | limit =>
      obtain ⟨n, value, rfl⟩ := mapped read
      exact .limit value
  · intro added
    cases added with
    | header read | timeout read | pageSize read | limit read => rw [Given.put, read]; rfl
    | _ => rfl

section Settling

variable {env : Environment} {s t : Scan} {f : Flag}

/-- **What is taken of an option**: nothing but its value, once. -/
theorem accept_eq_ok_iff {value : Option String} :
    s.accept f value = .ok t ↔ ∃ text given, value = some text ∧ s.given.has f = false ∧
      s.given.put f text = .ok given ∧ t = { s with given := given, used := s.used ++ [f] } := by
  constructor
  · intro accepted
    unfold Scan.accept at accepted
    split at accepted
    · cases accepted
    · rename_i text
      split at accepted
      · cases accepted
      · rename_i fresh
        split at accepted
        · cases accepted
        · rename_i given read
          cases accepted
          exact ⟨text, given, rfl, Bool.eq_false_iff.mpr fresh, read, rfl⟩
  · rintro ⟨text, given, rfl, fresh, read, rfl⟩
    simp only [Scan.accept, fresh, read, Bool.false_eq_true, if_false]

theorem settle_of_none (settled : s.pending = none) : s.settle = .ok s := by
  rw [Scan.settle, settled]

/-- A state whose pending value is taken is as before, but for its values. -/
theorem settle_keeps (settled : s.settle = .ok t) :
    t.level = s.level ∧ t.trailing = s.trailing ∧ t.pending = none ∧ t.given.id = s.given.id := by
  rw [Scan.settle] at settled
  split at settled
  · rename_i none
    cases settled
    exact ⟨rfl, rfl, none, rfl⟩
  · obtain ⟨text, given, _, _, read, rfl⟩ := accept_eq_ok_iff.mp settled
    have same : given.id = s.given.id := by
      cases put_eq_ok_iff.mp read <;> rfl
    exact ⟨rfl, rfl, rfl, same⟩

/-- A reader that first takes the value of the option that was named last. -/
def Settles (read : Scan → Except Fault Scan) : Prop :=
  ∀ s : Scan, (read s).toOption = s.settle.toOption.bind fun t => (read t).toOption

/-- A reader does so, if it fails where that value is at fault, and if it does not see otherwise
    whether that value has been taken. -/
theorem settles_of {read : Scan → Except Fault Scan}
    (fails : ∀ s fault, s.settle = .error fault → (read s).toOption = none)
    (later : ∀ s t, s.settle = .ok t → t.settle = .ok t → t.level = s.level →
      t.given.id = s.given.id → (read s).toOption = (read t).toOption) : Settles read := by
  intro s
  cases settled : s.settle with
  | error fault => exact fails s fault settled
  | ok t =>
    obtain ⟨level, _, none, id⟩ := settle_keeps settled
    exact later s t settled (settle_of_none none) level id

theorem readArgument_settles (word : String) : Settles fun s => readArgument s word := by
  refine settles_of (fun s fault settled => ?_) fun s t settled again level id => ?_
  · rw [readArgument, settled]
    split <;> rfl
  · rw [readArgument, readArgument, settled, again, level, id]
    split <;> rfl

theorem name_settles (f : Flag) (attached : Option String) : Settles fun s => s.name f attached := by
  refine settles_of (fun s fault settled => ?_) fun s t settled again level id => ?_
  · rw [Scan.name, settled]
    rfl
  · rw [Scan.name, Scan.name, settled, again]

/-- An option without a value ends the reading. -/
theorem switch_toOption (s : Scan) (f : Flag) (full : Bool) : (s.switch f full).toOption = none := by
  rw [Scan.switch]
  split <;> rfl

theorem readLong_settles (name : String) (value : Option String) (rest : List String) :
    Settles fun s => readLong s name value rest := by
  refine settles_of (fun s fault settled => ?_) fun s t settled again level id => ?_
  · simp only [readLong]
    split
    · rfl
    · split
      · rw [name_settles, settled]
        rfl
      · split
        · exact switch_toOption s _ _
        · rfl
  · simp only [readLong, level]
    split
    · rfl
    · split
      · rw [name_settles, settled]
        rfl
      · split
        · rw [switch_toOption, switch_toOption]
        · rfl

theorem readShort_settles {letters : List Char} (present : letters ≠ []) :
    Settles fun s => readShort s letters := by
  obtain ⟨c, rest, rfl⟩ := List.exists_cons_of_ne_nil present
  refine settles_of (fun s fault settled => ?_) fun s t settled again level id => ?_
  · simp only [readShort]
    split
    · rfl
    · split
      · split <;> rw [name_settles, settled] <;> rfl
      · exact switch_toOption s _ _
  · simp only [readShort, level]
    split
    · rfl
    · split
      · split <;> rw [name_settles, settled] <;> rfl
      · rw [switch_toOption, switch_toOption]

/-- There are letters in a short option. -/
theorem Word.letters_ne_nil {word : String} {letters : List Char}
    (short : Word.of word = .short letters) : letters ≠ [] := by
  rintro rfl
  rw [Word.of] at short
  split at short <;> simp_all
  split at short <;> cases short

/-- Any other word than two dashes first takes the value that has come. -/
theorem readWord_settle {value word : String} {rest : List String}
    (named : s.pending = some (f, some value))
    (other : s.trailing = false → Word.of word ≠ .dashes) :
    (readWord s word rest).toOption =
      s.settle.toOption.bind fun t => (readWord t word rest).toOption := by
  -- what the word is does not change when the value is taken, so it is read by the same reader
  have same : ∀ {read : Scan → Except Fault Scan}, Settles read →
      (∀ t, t.trailing = s.trailing → (t = s ∨ t.pending = none) → readWord t word rest = read t) →
      (readWord s word rest).toOption =
        s.settle.toOption.bind fun t => (readWord t word rest).toOption := by
    intro read settles reads
    rw [reads s rfl (.inl rfl), settles s]
    cases settled : s.settle with
    | error => rfl
    | ok t =>
      obtain ⟨_, trailing, none, _⟩ := settle_keeps settled
      exact congrArg Except.toOption (reads t trailing (.inr none)).symm
  cases trailing : s.trailing with
  | true =>
    refine same (readArgument_settles word) fun t also _ => ?_
    rw [readWord, also, trailing]
    rfl
  | false =>
    cases form : Word.of word with
    | dashes => exact absurd form (other trailing)
    | long name attached =>
      refine same (readLong_settles name attached rest) fun t also _ => ?_
      rw [readWord, also, trailing, form]
      rfl
    | short letters =>
      refine same (readShort_settles (Word.letters_ne_nil form)) fun t also _ => ?_
      rw [readWord, also, trailing, form]
      rfl
    | plain =>
      refine same (readArgument_settles word) fun t also settled => ?_
      have argument : readPlain t word = readArgument t word := by
        rcases settled with rfl | none
        · rw [readPlain, named]
        · rw [readPlain, none]
      rw [readWord, also, trailing, form]
      exact argument

/-- A word that is no command is read, and then those behind it. -/
theorem scan_word {word : String} {rest : List String} (other : s.command? word = none) :
    (scan env s (word :: rest)).toOption =
      (readWord s word rest).toOption.bind fun t => (scan env t rest).toOption := by
  rw [scan, other]
  cases readWord s word rest <;> rfl

/-- No word is a command where a value is awaited. -/
theorem command?_of_awaiting (awaits : s.pending = some (f, none)) (word : String) :
    s.command? word = none := by
  have waits : s.awaits = true := by
    rw [Scan.awaits, awaits]
  rw [Scan.command?, waits, Bool.or_true, Bool.true_or, if_pos rfl]

/-- No word is a command behind two dashes either. -/
theorem command?_of_trailing (trailing : s.trailing = true) (word : String) :
    s.command? word = none := by
  rw [Scan.command?, trailing, Bool.true_or, Bool.true_or, if_pos rfl]

theorem readWord_dashes {word : String} (ahead : s.trailing = false)
    (form : Word.of word = .dashes) (rest : List String) :
    readWord s word rest = .ok { s with trailing := true } := by
  rw [readWord, ahead, form]
  rfl

section Named

variable {value word : String} {rest : List String} (named : s.pending = some (f, some value))
include named

/-- The words that are commands are the same when the value has been taken. -/
theorem command?_settle (settled : s.settle = .ok t) (word : String) :
    t.command? word = s.command? word := by
  obtain ⟨level, trailing, none, _⟩ := settle_keeps settled
  have waits : t.awaits = s.awaits := by
    rw [Scan.awaits, Scan.awaits, none, named]
  rw [Scan.command?, Scan.command?, level, trailing, waits]

/-- The value is the same behind two dashes. -/
theorem settle_trailing : ({ s with trailing := true } : Scan).settle =
    s.settle.map fun t => { t with trailing := true } := by
  simp only [Scan.settle, named, Scan.accept]
  split
  · rfl
  · cases s.given.put f value <;> rfl

/-- At a command the value is taken anyway. -/
theorem scan_settle_command {found : CommandWord} (command : s.command? word = some found) :
    (scan env s (word :: rest)).toOption =
      s.settle.toOption.bind fun t => (scan env t (word :: rest)).toOption := by
  cases settled : s.settle with
  | error fault =>
    rw [scan, command]
    cases found with
    | help => rfl
    | level next =>
      simp only [finish, settled]
      cases scan env { level := next } rest <;> rfl
  | ok t =>
    obtain ⟨level, _, none, _⟩ := settle_keeps settled
    rw [scan, command]
    simp only [Except.toOption, Option.bind_some, scan, command?_settle named settled, command,
      finish, settled, settle_of_none none, level]
    cases found <;> rfl

/-- **The value of an option may be taken at once.** Whatever words follow, the same is read. -/
theorem scan_settle (words : List String) :
    (scan env s words).toOption =
      s.settle.toOption.bind fun t => (scan env t words).toOption := by
  induction words generalizing s with
  | nil =>
    rw [scan, finish]
    cases settled : s.settle with
    | error => rfl
    | ok t =>
      obtain ⟨level, _, none, _⟩ := settle_keeps settled
      simp only [Except.toOption, Option.bind_some, scan, finish, settle_of_none none, level]
  | cons word rest ih =>
    cases command : s.command? word with
    | some found => exact scan_settle_command named command
    | none =>
      have other : ∀ t, s.settle = .ok t → t.command? word = none :=
        fun t settled => (command?_settle named settled word).trans command
      rw [scan_word command]
      by_cases ends : s.trailing = false ∧ Word.of word = .dashes
      · -- two dashes take no value, but none of the words behind them hangs on that
        rw [readWord_dashes ends.1 ends.2, Except.toOption, Option.bind_some,
          ih (s := { s with trailing := true }) named, settle_trailing named]
        cases settled : s.settle with
        | error => rfl
        | ok t =>
          have ahead := (settle_keeps settled).2.1.trans ends.1
          rw [Except.toOption, Option.bind_some, scan_word (other t settled),
            readWord_dashes ahead ends.2]
          rfl
      · have notDashes : s.trailing = false → Word.of word ≠ .dashes :=
          fun ahead form => ends ⟨ahead, form⟩
        rw [readWord_settle named notDashes]
        cases settled : s.settle with
        | error => rfl
        | ok t => rw [Except.toOption, Option.bind_some, Option.bind_some, scan_word (other t settled)]

end Named

end Settling

/-! ## 2. Pieces -/

/-- **What a piece adds to the values of its level**, if it may stand there once more. -/
def Piece.give (g : Given) : Piece → Option Given
  | .option f value _ => if g.has f then none else (g.put f value).toOption
  | .argument word => if g.id.isNone then some { g with id := some word } else none

/-- The option that a piece uses. -/
def Piece.used : Piece → List Flag
  | .option f _ _ => [f]
  | .argument _ => []

/-- What pieces add, one after another. -/
def giveAll (g : Given) (pieces : List Piece) : Option Given := pieces.foldlM Piece.give g

/-- The state at a level after pieces that give some values. -/
def Scan.after (s : Scan) (pieces : List Piece) (g : Given) : Scan :=
  { s with given := g, used := s.used ++ pieces.flatMap Piece.used }

section Pieces

variable {env : Environment} {s : Scan} {p : Piece} {f : Flag} {value : String}

theorem Scan.after_nil (s : Scan) : s.after [] s.given = s := by
  rw [Scan.after, List.flatMap_nil, List.append_nil]

theorem Scan.after_after (s : Scan) (pieces others : List Piece) (g g' : Given) :
    (s.after pieces g).after others g' = s.after (pieces ++ others) g' := by
  simp only [Scan.after, List.flatMap_append, List.append_assoc]

/-- A value that is taken at once is what the option gives. -/
theorem accept_toOption (s : Scan) (f : Flag) (value : String) (spelling : Spelling) :
    (s.accept f (some value)).toOption =
      (Piece.give s.given (.option f value spelling)).map (s.after [.option f value spelling]) := by
  simp only [Scan.accept, Piece.give]
  split
  · rfl
  · cases s.given.put f value <;> rfl

/-- The next word is the value of an option that awaits one. -/
theorem scan_awaited (awaits : s.pending = some (f, none)) (ahead : s.trailing = false)
    (plain : IsPlain value) (rest : List String) :
    scan env s (value :: rest) = scan env { s with pending := some (f, some value) } rest := by
  have read : readWord s value rest = .ok { s with pending := some (f, some value) } := by
    rw [readWord, Word.of_eq_plain_iff.mpr plain]
    simp only [ahead, Bool.false_eq_true, if_false, readPlain, awaits]
  rw [scan, command?_of_awaiting awaits]
  simp only [read]

/-- An option begins with a dash. -/
theorem Piece.head_dash {l : Level} {spelling : Spelling}
    (fits : (Piece.option f value spelling).Fits l) :
    (Piece.option f value spelling).head.toList.head? = some '-' := by
  have dash : (Piece.option f value spelling).form ≠ .plain := by
    cases spelling <;> nofun
  rw [← Piece.form_eq fits, ne_eq, Word.of_eq_plain_iff, IsPlain] at dash
  exact (Classical.not_imp.mp dash).1

/-- **The first word of an option names it**, with its value or without. -/
theorem readWord_option {spelling : Spelling} (fits : (Piece.option f value spelling).Fits s.level)
    (ahead : s.trailing = false) (rest : List String) :
    readWord s (Piece.option f value spelling).head rest =
      s.name f (if (Piece.option f value spelling).tail = [] then some value else none) := by
  have form := Piece.form_eq fits
  obtain ⟨member, valued, written⟩ := fits
  rw [readWord, ahead, form]
  simp only [Bool.false_eq_true, if_false]
  cases spelling with
  | joined | apart =>
    simp only [Piece.form, readLong, Level.flagOfName?_long member, valued, if_true, Piece.tail,
      List.cons_ne_nil, if_false]
  | letter =>
    obtain ⟨c, letter⟩ := Option.isSome_iff_exists.mp written.1
    obtain ⟨x, chars, value_eq⟩ := List.exists_cons_of_ne_nil written.2.1
    have same : value = String.ofList (x :: chars) := by
      rw [← value_eq, String.ofList_toList]
    have other : x ≠ '=' := by
      rintro rfl
      exact written.2.2 (congrArg List.head? value_eq)
    simp only [Piece.form, letter, value_eq, Option.toList_some, List.singleton_append, readShort,
      Level.flagOfLetter?_short member letter, valued, if_true, Piece.tail]
    split
    · rename_i none
      cases none
    · rename_i equals
      exact absurd (List.cons_eq_cons.mp equals).1 other
    · rw [same]
  | letterJoined =>
    obtain ⟨c, letter⟩ := Option.isSome_iff_exists.mp written
    simp only [Piece.form, letter, Option.toList_some, List.singleton_append, readShort,
      Level.flagOfLetter?_short member letter, valued, if_true, Piece.tail, String.ofList_toList]
  | letterApart =>
    obtain ⟨c, letter⟩ := Option.isSome_iff_exists.mp written.1
    simp only [Piece.form, letter, Option.toList_some, readShort,
      Level.flagOfLetter?_short member letter, valued, if_true, Piece.tail, List.cons_ne_nil,
      if_false]

/-- The argument of a level is its identifier. -/
theorem readArgument_toOption {word : String} (takes : s.level.idWords?.isSome = true)
    (settled : s.pending = none) : (readArgument s word).toOption =
      (Piece.give s.given (.argument word)).map (s.after [.argument word]) := by
  rw [readArgument, takes, settle_of_none settled, Bool.true_and, Piece.give]
  split
  · rw [Option.map_some, Scan.after, List.flatMap_singleton, Piece.used, List.append_nil]
    rfl
  · rfl

/-- What stands behind the first word of an option is its value. -/
theorem Piece.tail_eq {l : Level} {spelling : Spelling}
    (fits : (Piece.option f value spelling).Fits l)
    (apart : (Piece.option f value spelling).tail ≠ []) :
    (Piece.option f value spelling).tail = [value] ∧ IsPlain value := by
  cases spelling with
  | joined | letter | letterJoined => exact absurd rfl apart
  | apart => exact ⟨rfl, fits.2.2⟩
  | letterApart => exact ⟨rfl, fits.2.2.2⟩

/-- Where nothing is pending, the value that has come is what is taken. -/
theorem settle_named (settled : s.pending = none) :
    ({ s with pending := some (f, some value) } : Scan).settle = s.accept f (some value) := by
  obtain ⟨level, given, pending, trailing, used⟩ := s
  cases settled
  rfl

theorem scan_argument {word : String} (fits : (Piece.argument word).Fits s.level)
    (settled : s.pending = none) (ahead : s.trailing = false) (rest : List String) :
    (scan env s (word :: rest)).toOption = (Piece.give s.given (.argument word)).bind fun g =>
      (scan env (s.after [.argument word] g) rest).toOption := by
  have other := command?_of_action (Level.below_eq_nil fits.1) word
  have read : readWord s word rest = readArgument s word := by
    rw [readWord, ahead, Word.of_eq_plain_iff.mpr fits.2]
    simp only [Bool.false_eq_true, if_false, readPlain, settled]
  rw [scan_word other, read, readArgument_toOption fits.1 settled, Option.bind_map]
  rfl

/-- **A piece gives its value to its level**, and the words behind it are read from there. -/
theorem scan_piece (fits : p.Fits s.level) (settled : s.pending = none) (ahead : s.trailing = false)
    (rest : List String) :
    (scan env s (p.words ++ rest)).toOption =
      (p.give s.given).bind fun g => (scan env (s.after [p] g) rest).toOption := by
  cases p with
  | argument word => exact scan_argument fits settled ahead rest
  | option f value spelling =>
    have other := command?_of_dash s (Piece.head_dash fits)
    rw [Piece.words, List.cons_append, scan_word other, readWord_option fits ahead, Scan.name,
      settle_of_none settled]
    by_cases attached : (Piece.option f value spelling).tail = []
    · -- the value is part of the word, and taken at once
      rw [if_pos attached, attached, List.nil_append]
      dsimp only
      rw [accept_toOption s f value spelling, Option.bind_map]
      rfl
    · -- the value is the next word, and taken when the words behind it are read
      obtain ⟨next, plain⟩ := Piece.tail_eq fits attached
      rw [if_neg attached, next]
      change (scan env { s with pending := some (f, none) } (value :: rest)).toOption = _
      have awaited : scan env { s with pending := some (f, none) } (value :: rest) =
          scan env { s with pending := some (f, some value) } rest := by
        refine scan_awaited rfl ?_ plain rest
        exact ahead
      rw [awaited, scan_settle rfl, settle_named settled, accept_toOption s f value spelling,
        Option.bind_map]
      rfl

theorem giveAll_append_eq_some_iff {g g' : Given} {pieces others : List Piece} :
    giveAll g (pieces ++ others) = some g' ↔
      ∃ between, giveAll g pieces = some between ∧ giveAll between others = some g' := by
  rw [giveAll, List.foldlM_append]
  exact Option.bind_eq_some_iff

/-- **So do pieces one after another.** -/
theorem scan_pieces {pieces : List Piece} (fits : ∀ p ∈ pieces, p.Fits s.level)
    (settled : s.pending = none) (ahead : s.trailing = false) (rest : List String) :
    (scan env s (wordsOf pieces ++ rest)).toOption =
      (giveAll s.given pieces).bind fun g => (scan env (s.after pieces g) rest).toOption := by
  induction pieces generalizing s with
  | nil =>
    have none : giveAll s.given [] = some s.given := rfl
    rw [none, Option.bind_some, s.after_nil]
    rfl
  | cons p others ih =>
    rw [List.forall_mem_cons] at fits
    rw [wordsOf_cons, List.append_assoc, scan_piece fits.1 settled ahead, giveAll,
      List.foldlM_cons]
    cases given : p.give s.given with
    | none => rfl
    | some g =>
      have later := ih (s := s.after [p] g) fits.2 settled ahead
      simp only [s.after_after] at later
      exact later

end Pieces

/-! ## 3. Levels -/

section Levels

variable {env : Environment} {s : Scan}

theorem toOption_eq_some_iff {ε α : Type} {x : Except ε α} {a : α} :
    x.toOption = some a ↔ x = .ok a := by
  cases x with
  | error => simp [Except.toOption]
  | ok => simp only [Except.toOption, Option.some.injEq, Except.ok.injEq]

/-- Behind two dashes there are arguments. -/
theorem scan_trailing {words : List String}
    (takes : words ≠ [] → s.level.idWords?.isSome = true) (settled : s.pending = none)
    (trailing : s.trailing = true) :
    (scan env s words).toOption = (giveAll s.given (words.map .argument)).bind fun g =>
      (scan env (s.after (words.map .argument) g) []).toOption := by
  induction words generalizing s with
  | nil =>
    have none : giveAll s.given ([].map .argument) = some s.given := rfl
    rw [none, Option.bind_some, List.map_nil, s.after_nil]
  | cons word rest ih =>
    have takes := takes (List.cons_ne_nil _ _)
    have read : readWord s word rest = readArgument s word := by
      rw [readWord, if_pos trailing]
    rw [scan_word (command?_of_trailing trailing word), read, readArgument_toOption takes settled, Option.bind_map, giveAll,
      List.map_cons, List.foldlM_cons]
    cases given : Piece.give s.given (.argument word) with
    | none => rfl
    | some g =>
      have later := ih (s := s.after [.argument word] g) (fun _ => takes) settled trailing
      simp only [s.after_after] at later
      exact later

/-- Two dashes end the options. -/
theorem scan_dashes (ahead : s.trailing = false) (rest : List String) :
    (scan env s ("--" :: rest)).toOption = (scan env { s with trailing := true } rest).toOption := by
  have other : s.command? "--" = none := command?_of_dash s rfl
  rw [scan_word other, readWord_dashes ahead rfl]
  rfl

theorem checkEnd_eq_ok_iff :
    checkEnd env s = .ok () ↔ s.level.below = [] ∧ missing s = [] := by
  rw [checkEnd]
  cases s.level.below with
  | cons => simp
  | nil =>
    cases missing s with
    | cons => simp
    | nil => exact iff_of_true rfl ⟨rfl, rfl⟩

/-- **A command line may end at an action that lacks nothing.** -/
theorem scan_nil_eq_ok_iff (settled : s.pending = none) {r : List Given × Level} :
    scan env s [] = .ok r ↔ s.level.below = [] ∧ checkVariables env s.given = .ok () ∧
      missing s = [] ∧ r = ([s.given], s.level) := by
  have ends : scan env s [] = .ok r ↔ checkVariables env s.given = .ok () ∧
      checkEnd env s = .ok () ∧ r = ([s.given], s.level) := by
    simp only [scan, finish, settle_of_none settled, if_true]
    cases checkVariables env s.given with
    | error => simp [Except.map]
    | ok =>
      cases checkEnd env s with
      | error => simp [Except.map]
      | ok =>
        constructor
        · intro same
          cases same
          exact ⟨rfl, rfl, rfl⟩
        · rintro ⟨_, _, rfl⟩
          rfl
  rw [ends, checkEnd_eq_ok_iff]
  constructor
  · rintro ⟨checked, ⟨last, complete⟩, same⟩
    exact ⟨last, checked, complete, same⟩
  · rintro ⟨last, checked, complete, same⟩
    exact ⟨checked, ⟨last, complete⟩, same⟩

/-- **The word for a level below leads to it**, and its own level ends there. -/
theorem scan_command_eq_ok_iff {command : String × Level} (member : command ∈ s.level.below)
    (settled : s.pending = none) (ahead : s.trailing = false) {rest : List String}
    {r : List Given × Level} :
    scan env s (command.1 :: rest) = .ok r ↔ checkVariables env s.given = .ok () ∧
      ∃ givens level, scan env { level := command.2 } rest = .ok (givens, level) ∧
        r = (s.given :: givens, level) := by
  have below : s.level.below.isEmpty = false ∧
      s.level.below.lookup command.1 = some command.2 := by
    have all : ∀ l : Level, ∀ c ∈ l.below, l.below.isEmpty = false ∧ l.below.lookup c.1 = some c.2 := by
      intro l
      cases l <;> decide
    exact all s.level command member
  have found : s.command? command.1 = some (.level command.2) := by
    have waits : s.awaits = false := by
      rw [Scan.awaits, settled]
    rw [Scan.command?, ahead, waits, below.1, below.2]
    rfl
  rw [scan, found]
  simp only [finish, settle_of_none settled, Bool.false_eq_true, if_false]
  cases scan env { level := command.2 } rest with
  | error => simp
  | ok below =>
    cases checkVariables env s.given with
    | error => simp [Except.map]
    | ok =>
      obtain ⟨givens, level⟩ := below
      constructor
      · intro same
        exact ⟨rfl, givens, level, rfl, (Except.ok.inj same).symm⟩
      · rintro ⟨_, _, _, ⟨⟩, rfl⟩
        rfl

/-- Pieces are read if they give something, and then the words behind them. -/
theorem scan_pieces_eq_ok_iff {pieces : List Piece} (fits : ∀ p ∈ pieces, p.Fits s.level)
    (settled : s.pending = none) (ahead : s.trailing = false) {rest : List String}
    {r : List Given × Level} :
    scan env s (wordsOf pieces ++ rest) = .ok r ↔
      ∃ g, giveAll s.given pieces = some g ∧ scan env (s.after pieces g) rest = .ok r := by
  rw [← toOption_eq_some_iff, scan_pieces fits settled ahead, Option.bind_eq_some_iff]
  simp only [toOption_eq_some_iff]

end Levels

/-! ## 4. Lines -/

/-- The values of the three places, the outermost first. -/
def inOrder (givens : Place → Given) : List Given := [givens .outer, givens .middle, givens .inner]

namespace Line

/-- The arguments behind two dashes, which are arguments of the action. -/
def arguments (line : Line) : Place → List Piece
  | .inner => (line.behind.getD []).map .argument
  | _ => []

/-- The pieces at a place, with the arguments behind two dashes. -/
def written (line : Line) (place : Place) : List Piece := line.pieces place ++ line.arguments place

/-- **What is read of a line**: the values given at each place, and what they make together. -/
structure Gives (env : Environment) (line : Line) (givens : Place → Given) (i : Invocation) :
    Prop where
  given : ∀ place, giveAll {} (line.written place) = some (givens place)
  checked : ∀ place, checkVariables env (givens place) = .ok ()
  complete : missing { level := line.action.2, given := givens .inner } = []
  command : commandOf line.action.2 (givens .inner) = some i.command
  endpoint : i.endpoint = endpointOf env (inOrder givens)
  headers : i.headers = headersOf (inOrder givens)
  timeout : i.timeout = timeoutOf env (inOrder givens)

variable {env : Environment} {line : Line}

theorem action_below (line : Line) : line.action.2.below = [] := by
  have all : ∀ r ∈ Level.program.below, ∀ a ∈ r.2.below, a.2.below = [] := by decide
  exact all line.resource line.resource_mem line.action line.action_mem

/-- What is read behind the options of the action. -/
theorem scan_ending_eq_ok_iff {s : Scan} (level : s.level = line.action.2) (settled : s.pending = none)
    (ahead : s.trailing = false) {r : List Given × Level} :
    scan env s line.ending = .ok r ↔
      ∃ g, giveAll s.given ((line.behind.getD []).map .argument) = some g ∧
        checkVariables env g = .ok () ∧ missing { level := line.action.2, given := g } = [] ∧
          r = ([g], line.action.2) := by
  -- the last level ends where the words do
  have ended : ∀ {t : Scan}, t.level = line.action.2 → t.pending = none →
      (scan env t [] = .ok r ↔ checkVariables env t.given = .ok () ∧
        missing { level := line.action.2, given := t.given } = [] ∧
          r = ([t.given], line.action.2)) := by
    intro t same settled
    rw [scan_nil_eq_ok_iff settled, same, line.action_below, ← same]
    exact ⟨fun h => h.2, fun h => ⟨rfl, h⟩⟩
  have takes := line.behind_fits
  rw [ending]
  revert takes
  cases line.behind with
  | none =>
    intro _
    rw [Option.elim_none, ended level settled]
    constructor
    · rintro ⟨checked, complete, rfl⟩
      exact ⟨s.given, rfl, checked, complete, rfl⟩
    · rintro ⟨g, ⟨⟩, checked, complete, rfl⟩
      exact ⟨checked, complete, rfl⟩
  | some words =>
    intro takes
    rw [Option.elim_some, ← toOption_eq_some_iff, scan_dashes ahead,
      scan_trailing (s := { s with trailing := true }) (level ▸ takes) settled rfl,
      Option.bind_eq_some_iff]
    simp only [toOption_eq_some_iff]
    refine exists_congr fun g => and_congr_right fun _ => ?_
    exact ended level settled

/-- What is read behind the action. -/
theorem scan_inner_eq_ok_iff {r : List Given × Level} :
    scan env { level := line.action.2 } (wordsOf (line.pieces .inner) ++ line.ending) = .ok r ↔
      ∃ g, giveAll {} (line.written .inner) = some g ∧ checkVariables env g = .ok () ∧
        missing { level := line.action.2, given := g } = [] ∧ r = ([g], line.action.2) := by
  rw [scan_pieces_eq_ok_iff (line.fits .inner) rfl rfl]
  simp only [written, arguments, giveAll_append_eq_some_iff]
  constructor
  · rintro ⟨between, given, read⟩
    obtain ⟨g, behind, others⟩ := (scan_ending_eq_ok_iff rfl rfl rfl).mp read
    exact ⟨g, ⟨between, given, behind⟩, others⟩
  · rintro ⟨g, ⟨between, given, behind⟩, others⟩
    exact ⟨between, given, (scan_ending_eq_ok_iff rfl rfl rfl).mpr ⟨g, behind, others⟩⟩

/-- What is read behind the resource. -/
theorem scan_middle_eq_ok_iff {r : List Given × Level} :
    scan env { level := line.resource.2 } (wordsOf (line.pieces .middle) ++ line.actionWords) = .ok r ↔
      ∃ m, giveAll {} (line.written .middle) = some m ∧ checkVariables env m = .ok () ∧
        ∃ g, giveAll {} (line.written .inner) = some g ∧ checkVariables env g = .ok () ∧
          missing { level := line.action.2, given := g } = [] ∧ r = ([m, g], line.action.2) := by
  have written : line.written .middle = line.pieces .middle := List.append_nil _
  rw [scan_pieces_eq_ok_iff (line.fits .middle) rfl rfl, written]
  refine exists_congr fun m => and_congr_right fun _ => ?_
  rw [actionWords, scan_command_eq_ok_iff line.action_mem rfl rfl]
  refine and_congr_right fun _ => ?_
  constructor
  · rintro ⟨givens, level, read, rfl⟩
    obtain ⟨g, given, checked, complete, same⟩ := scan_inner_eq_ok_iff.mp read
    cases same
    exact ⟨g, given, checked, complete, rfl⟩
  · rintro ⟨g, given, checked, complete, rfl⟩
    exact ⟨[g], _, scan_inner_eq_ok_iff.mpr ⟨g, given, checked, complete, rfl⟩, rfl⟩

/-- What is read of all words. -/
theorem scan_eq_ok_iff {r : List Given × Level} :
    scan env { level := .program } line.words = .ok r ↔ ∃ givens : Place → Given,
      (∀ place, giveAll {} (line.written place) = some (givens place)) ∧
      (∀ place, checkVariables env (givens place) = .ok ()) ∧
      missing { level := line.action.2, given := givens .inner } = [] ∧
      r = (inOrder givens, line.action.2) := by
  have written : line.written .outer = line.pieces .outer := List.append_nil _
  rw [words, scan_pieces_eq_ok_iff (line.fits .outer) rfl rfl, ← written]
  constructor
  · rintro ⟨o, given, read⟩
    obtain ⟨checked, givens, level, below, rfl⟩ :=
      (scan_command_eq_ok_iff line.resource_mem rfl rfl).mp read
    obtain ⟨m, given', checked', g, given'', checked'', complete, same⟩ :=
      scan_middle_eq_ok_iff.mp below
    cases same
    refine ⟨Place.each o m g, ?_, ?_, complete, rfl⟩
    · rintro (_ | _ | _)
      exacts [given, given', given'']
    · rintro (_ | _ | _)
      exacts [checked, checked', checked'']
  · rintro ⟨givens, given, checked, complete, rfl⟩
    have below := scan_middle_eq_ok_iff.mpr ⟨givens .middle, given .middle, checked .middle,
      givens .inner, given .inner, checked .inner, complete, rfl⟩
    exact ⟨givens .outer, given .outer, (scan_command_eq_ok_iff line.resource_mem rfl rfl).mpr
      ⟨checked .outer, _, _, below, rfl⟩⟩

/-- **What is read of a line.** -/
theorem parse_eq_ok_iff {i : Invocation} :
    parse env line.words = .ok i ↔ ∃ givens, line.Gives env givens i := by
  rw [parse]
  constructor
  · intro accepted
    cases read : scan env { level := .program } line.words with
    | error => simp only [read, reduceCtorEq] at accepted
    | ok r =>
      obtain ⟨givens, given, checked, complete, rfl⟩ := scan_eq_ok_iff.mp read
      simp only [read, inOrder, List.getLastD_cons, List.getLastD_nil] at accepted
      cases command : commandOf line.action.2 (givens .inner) with
      | none => simp only [command, reduceCtorEq] at accepted
      | some c =>
        simp only [command, Except.ok.injEq] at accepted
        subst accepted
        exact ⟨givens, given, checked, complete, command, rfl, rfl, rfl⟩
  · rintro ⟨givens, given, checked, complete, command, endpoint, headers, timeout⟩
    rw [scan_eq_ok_iff.mpr ⟨givens, given, checked, complete, rfl⟩]
    have last : (inOrder givens).getLastD {} = givens .inner := rfl
    simp only [last, command, ← endpoint, ← headers, ← timeout]

end Line

end ControlPlane.CommandLine
