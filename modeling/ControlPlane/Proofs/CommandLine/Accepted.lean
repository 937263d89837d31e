import ControlPlane.Proofs.CommandLine.Scanned

/-!
# Command lines that are run

Whatever words a command line consists of, if it is run at all, it is a line:

* `Word.eq_of_long` and others -- a word is what its dashes say;
* `exists_value` -- an option that awaits a value gets one;
* `exists_piece` -- what is read of a word is a piece;
* `exists_pieces` -- **what is read at a level is pieces**, up to where the level ends;
* `exists_line` -- **a command line that is run is a line**.
-/

namespace ControlPlane.CommandLine

/-! ## 1. Words -/

/-- What stands before and behind a character at which a text is split. -/
theorem eq_of_splitAtChar? {c : Char} {chars before after : List Char}
    (split : splitAtChar? c chars = some (before, after)) : chars = before ++ c :: after := by
  induction chars generalizing before with
  | nil => cases split
  | cons x rest ih =>
    rw [splitAtChar?] at split
    split at split
    · rename_i same
      cases split
      rw [same, List.nil_append]
    · obtain ⟨⟨before', after'⟩, found, same⟩ := Option.map_eq_some_iff.mp split
      cases same
      rw [ih found, List.cons_append]

namespace Word

variable {word name value : String} {letters : List Char}

theorem eq_of_dashes (form : Word.of word = .dashes) : word = "--" := by
  rw [Word.of] at form
  split at form
  · rename_i chars
    exact String.toList_injective chars
  · split at form <;> cases form
  · cases form
  · cases form
  · cases form

theorem eq_of_long (form : Word.of word = .long name none) : word = "--" ++ name := by
  rw [Word.of] at form
  split at form
  · cases form
  · rename_i rest _ chars
    split at form
    · cases form
      refine String.toList_injective ?_
      rw [chars]
      simp only [String.toList_append, String.toList_ofList]
      rfl
    · cases form
  · cases form
  · cases form
  · cases form

theorem eq_of_long_value (form : Word.of word = .long name (some value)) :
    word = "--" ++ name ++ "=" ++ value := by
  rw [Word.of] at form
  split at form
  · cases form
  · rename_i rest _ chars
    split at form
    · cases form
    · rename_i parts
      cases form
      refine String.toList_injective ?_
      rw [chars, eq_of_splitAtChar? parts]
      simp only [String.toList_append, String.toList_ofList, List.append_assoc]
      rfl
  · cases form
  · cases form
  · cases form

theorem toList_of_short (form : Word.of word = .short letters) : word.toList = '-' :: letters := by
  rw [Word.of] at form
  split at form
  · cases form
  · split at form <;> cases form
  · cases form
  · rename_i chars
    cases form
    exact chars
  · cases form

/-- A word that begins with a letter is the option of that letter, and what is attached. -/
theorem eq_of_short {f : Flag} {c : Char} (form : Word.of word = .short (c :: letters))
    (letter : f.short? = some c) : word = f.lettered ++ String.ofList letters := by
  refine String.toList_injective ?_
  rw [toList_of_short form, String.toList_append, Flag.lettered_toList letter, String.toList_ofList]
  rfl

end Word

/-! ## 2. Pieces -/

section Accepted

variable {env : Environment} {s : Scan} {f : Flag} {r : List Given × Level} {word : String}
  {words rest : List String}

/-- An option that awaits a value has none to take. -/
theorem settle_of_awaiting (awaits : s.pending = some (f, none)) :
    s.settle = .error (.valueMissing f) := by
  rw [Scan.settle, awaits]
  rfl

/-- Whatever would first take that value refuses. -/
theorem Settles.refuses {read : Scan → Except Fault Scan} (settles : Settles read)
    (awaits : s.pending = some (f, none)) : (read s).toOption = none := by
  rw [settles s, settle_of_awaiting awaits]
  rfl

/-- So the command line may not end there. -/
theorem scan_nil_of_awaiting (awaits : s.pending = some (f, none)) :
    (scan env s []).toOption = none := by
  rw [scan, finish, settle_of_awaiting awaits]
  rfl

/-- Behind two dashes there is no value for it either. -/
theorem scan_trailing_of_awaiting (awaits : s.pending = some (f, none))
    (trailing : s.trailing = true) : (scan env s words).toOption = none := by
  cases words with
  | nil => exact scan_nil_of_awaiting awaits
  | cons word rest =>
    rw [scan_word (command?_of_awaiting awaits word), readWord, if_pos trailing,
      (readArgument_settles word).refuses awaits]
    rfl

/-- **An option that awaits a value gets one**: nothing else is read in its place. -/
theorem exists_value (awaits : s.pending = some (f, none)) (ahead : s.trailing = false)
    (accepted : scan env s words = .ok r) : ∃ value rest, words = value :: rest ∧ IsPlain value := by
  rw [← toOption_eq_some_iff] at accepted
  cases words with
  | nil =>
    rw [scan_nil_of_awaiting awaits] at accepted
    cases accepted
  | cons value rest =>
    refine ⟨value, rest, rfl, ?_⟩
    rw [scan_word (command?_of_awaiting awaits value)] at accepted
    cases form : Word.of value with
    | plain => exact Word.of_eq_plain_iff.mp form
    | dashes =>
      have ended : (scan env { s with trailing := true } rest).toOption = none :=
        scan_trailing_of_awaiting awaits rfl
      rw [readWord_dashes ahead form, Except.toOption, Option.bind_some, ended] at accepted
      cases accepted
    | long name attached =>
      rw [readWord, ahead, form] at accepted
      simp only [Bool.false_eq_true, if_false,
        (readLong_settles name attached rest).refuses awaits] at accepted
      cases accepted
    | short letters =>
      rw [readWord, ahead, form] at accepted
      simp only [Bool.false_eq_true, if_false,
        (readShort_settles (Word.letters_ne_nil form)).refuses awaits] at accepted
      cases accepted

/-- So does one that is named without its value. -/
theorem exists_value_of_name (settled : s.pending = none) (ahead : s.trailing = false) {t : Scan}
    (named : s.name f none = .ok t) (accepted : scan env t words = .ok r) :
    ∃ value rest, words = value :: rest ∧ IsPlain value := by
  rw [Scan.name, settle_of_none settled] at named
  cases named
  exact exists_value (s := { s with pending := some (f, none) }) rfl ahead accepted

theorem flagOfName?_eq_some {l : Level} {name : String} (found : l.flagOfName? name = some f) :
    f ∈ l.flags ∧ f.long = name := by
  have same := List.find?_some found
  exact ⟨List.mem_of_find?_eq_some found, eq_of_beq same⟩

theorem flagOfLetter?_eq_some {l : Level} {c : Char} (found : l.flagOfLetter? c = some f) :
    f ∈ l.flags ∧ f.short? = some c := by
  have same := List.find?_some found
  exact ⟨List.mem_of_find?_eq_some found, eq_of_beq same⟩

/-- An option by its name is a piece with its value. -/
theorem exists_piece_of_long {name : String} {attached : Option String}
    (form : Word.of word = .long name attached) (settled : s.pending = none)
    (ahead : s.trailing = false) {t : Scan} (read : readLong s name attached rest = .ok t)
    (later : scan env t rest = .ok r) :
    ∃ (p : Piece) (others : List String), p.Fits s.level ∧ word :: rest = p.words ++ others := by
  rw [readLong] at read
  split at read
  · cases read
  · rename_i f found
    obtain ⟨member, rfl⟩ := flagOfName?_eq_some found
    split at read
    · rename_i valued
      cases attached with
      | some value =>
        refine ⟨.option f value .joined, rest, ⟨member, valued, trivial⟩, ?_⟩
        rw [Word.eq_of_long_value form]
        rfl
      | none =>
        obtain ⟨value, others, rfl, plain⟩ := exists_value_of_name settled ahead read later
        refine ⟨.option f value .apart, others, ⟨member, valued, plain⟩, ?_⟩
        rw [Word.eq_of_long form]
        rfl
    · split at read
      · rw [← toOption_eq_some_iff, switch_toOption] at read
        cases read
      · cases read

/-- So is one by its letter. -/
theorem exists_piece_of_short {letters : List Char} (form : Word.of word = .short letters)
    (settled : s.pending = none) (ahead : s.trailing = false) {t : Scan}
    (read : readShort s letters = .ok t) (later : scan env t rest = .ok r) :
    ∃ (p : Piece) (others : List String), p.Fits s.level ∧ word :: rest = p.words ++ others := by
  obtain ⟨c, letters, rfl⟩ := List.exists_cons_of_ne_nil (Word.letters_ne_nil form)
  rw [readShort] at read
  split at read
  · cases read
  · rename_i f found
    obtain ⟨member, letter⟩ := flagOfLetter?_eq_some found
    have word_eq := Word.eq_of_short form letter
    have has : f.short?.isSome = true := Option.isSome_iff_exists.mpr ⟨c, letter⟩
    split at read
    · rename_i valued
      split at read
      · obtain ⟨value, others, rfl, plain⟩ := exists_value_of_name settled ahead read later
        refine ⟨.option f value .letterApart, others, ⟨member, valued, has, plain⟩, ?_⟩
        rw [word_eq, String.ofList_nil, String.append_empty]
        rfl
      · rename_i value
        refine ⟨.option f (String.ofList value) .letterJoined, rest, ⟨member, valued, has⟩, ?_⟩
        have equals : String.ofList ('=' :: value) = "=" ++ String.ofList value :=
          @String.ofList_append ['='] value
        rw [word_eq, equals, ← String.append_assoc]
        rfl
      · rename_i present other
        have fits : Spelling.Fits f (String.ofList letters) .letter := by
          refine ⟨has, ?_⟩
          rw [String.toList_ofList]
          refine ⟨present, fun equals => ?_⟩
          obtain ⟨value, rfl⟩ := List.head?_eq_some_iff.mp equals
          exact other value rfl
        exact ⟨.option f (String.ofList letters) .letter, rest, ⟨member, valued, fits⟩,
          congrArg (· :: rest) word_eq⟩
    · rw [← toOption_eq_some_iff, switch_toOption] at read
      cases read

/-- **What is read of a word that is no command and does not end the options is a piece.** -/
theorem exists_piece (settled : s.pending = none) (ahead : s.trailing = false)
    (other : s.command? word = none) (more : Word.of word ≠ .dashes)
    (accepted : scan env s (word :: rest) = .ok r) :
    ∃ (p : Piece) (others : List String), p.Fits s.level ∧ word :: rest = p.words ++ others := by
  rw [← toOption_eq_some_iff, scan_word other, Option.bind_eq_some_iff] at accepted
  obtain ⟨t, read, later⟩ := accepted
  rw [toOption_eq_some_iff] at read later
  rw [readWord, ahead] at read
  simp only [Bool.false_eq_true, if_false] at read
  cases form : Word.of word with
  | dashes => exact absurd form more
  | long name attached =>
    rw [form] at read
    exact exists_piece_of_long form settled ahead read later
  | short letters =>
    rw [form] at read
    exact exists_piece_of_short form settled ahead read later
  | plain =>
    rw [form] at read
    simp only [readPlain, settled, readArgument] at read
    split at read
    · rename_i takes
      have plain := Word.of_eq_plain_iff.mp form
      exact ⟨.argument word, rest, ⟨(Bool.and_eq_true_iff.mp takes).1, plain⟩, rfl⟩
    · cases read

/-- A word that is a command leads to a level below. -/
theorem mem_below_of_command? {next : Level} (command : s.command? word = some (.level next)) :
    (word, next) ∈ s.level.below := by
  rw [Scan.command?] at command
  split at command
  · cases command
  · split at command
    · rename_i l named
      cases command
      obtain ⟨before, behind, same, _⟩ := List.lookup_eq_some_iff.mp named
      rw [same]
      exact List.mem_append_right _ List.mem_cons_self
    · split at command <;> cases command

/-- **What is read at a level is pieces**, and then nothing, two dashes or the word for a level
    below. -/
theorem exists_pieces (settled : s.pending = none) (ahead : s.trailing = false)
    (accepted : scan env s words = .ok r) :
    ∃ (pieces : List Piece) (rest : List String) (t : Scan),
      words = wordsOf pieces ++ rest ∧ (∀ p ∈ pieces, p.Fits s.level) ∧
      (rest = [] ∨ (∃ more, rest = "--" :: more) ∨
        ∃ command ∈ s.level.below, ∃ more, rest = command.1 :: more) ∧
      t.level = s.level ∧ t.pending = none ∧ t.trailing = false ∧ scan env t rest = .ok r := by
  -- by the number of words, as a piece may be two of them
  induction length : words.length using Nat.strongRecOn generalizing s words with
  | ind n ih =>
    have none : ∀ p ∈ ([] : List Piece), p.Fits s.level := fun _ h => absurd h List.not_mem_nil
    cases words with
    | nil => exact ⟨[], [], s, rfl, none, .inl rfl, rfl, settled, ahead, accepted⟩
    | cons word rest =>
      cases command : s.command? word with
      | some found =>
        cases found with
        | help =>
          rw [scan, command] at accepted
          cases accepted
        | level next =>
          have member := mem_below_of_command? command
          exact ⟨[], word :: rest, s, rfl, none, .inr (.inr ⟨_, member, rest, rfl⟩), rfl, settled,
            ahead, accepted⟩
      | none =>
        by_cases dashes : Word.of word = .dashes
        · obtain rfl := Word.eq_of_dashes dashes
          exact ⟨[], "--" :: rest, s, rfl, none, .inr (.inl ⟨rest, rfl⟩), rfl, settled, ahead,
            accepted⟩
        · obtain ⟨p, others, fits, split⟩ := exists_piece settled ahead command dashes accepted
          rw [split, ← toOption_eq_some_iff, scan_piece fits settled ahead,
            Option.bind_eq_some_iff] at accepted
          obtain ⟨g, _, later⟩ := accepted
          have shorter : others.length < n := by
            rw [← length, split, List.length_append, Piece.words, List.length_cons]
            omega
          obtain ⟨pieces, ending, t, same, inside, ends, after⟩ :=
            ih _ shorter (s := s.after [p] g) settled ahead (toOption_eq_some_iff.mp later) rfl
          refine ⟨p :: pieces, ending, t, ?_, List.forall_mem_cons.mpr ⟨fits, inside⟩, ends, after⟩
          rw [split, same, wordsOf_cons, List.append_assoc]

/-! ## 3. Levels -/

/-- Behind two dashes a command line ends at an action. -/
theorem scan_trailing_ok (trailing : s.trailing = true) (settled : s.pending = none)
    (accepted : scan env s words = .ok r) :
    s.level.below = [] ∧ (words ≠ [] → s.level.idWords?.isSome = true) := by
  cases words with
  | nil => exact ⟨((scan_nil_eq_ok_iff settled).mp accepted).1, fun h => absurd rfl h⟩
  | cons word rest =>
    rw [← toOption_eq_some_iff, scan_word (command?_of_trailing trailing word), readWord, if_pos trailing,
      Option.bind_eq_some_iff] at accepted
    obtain ⟨t, read, _⟩ := accepted
    rw [toOption_eq_some_iff, readArgument] at read
    split at read
    · rename_i takes
      have takes := (Bool.and_eq_true_iff.mp takes).1
      exact ⟨Level.below_eq_nil takes, fun _ => takes⟩
    · cases read

/-- What is read at a level above others leads to one of these. -/
theorem exists_command {l : Level} (above : l.below ≠ [])
    (accepted : scan env { level := l } words = .ok r) :
    ∃ (pieces : List Piece) (command : String × Level) (more : List String) (below : List Given × Level),
      words = wordsOf pieces ++ command.1 :: more ∧ (∀ p ∈ pieces, p.Fits l) ∧ command ∈ l.below ∧
        scan env { level := command.2 } more = .ok below := by
  obtain ⟨pieces, rest, t, same, fits, ends, level, settled, ahead, read⟩ :=
    exists_pieces rfl rfl accepted
  change t.level = l at level
  rcases ends with rfl | ⟨more, rfl⟩ | ⟨command, member, more, rfl⟩
  · exact absurd (level ▸ ((scan_nil_eq_ok_iff settled).mp read).1) above
  · rw [← toOption_eq_some_iff, scan_dashes ahead, toOption_eq_some_iff] at read
    have ended := (scan_trailing_ok (s := { t with trailing := true }) rfl settled read).1
    exact absurd (level ▸ ended) above
  · obtain ⟨_, givens, last, below, _⟩ :=
      (scan_command_eq_ok_iff (level ▸ member) settled ahead).mp read
    exact ⟨pieces, command, more, _, same, fits, member, below⟩

/-- What is read at an action ends there. -/
theorem exists_ending {l : Level} (action : l.below = [])
    (accepted : scan env { level := l } words = .ok r) :
    ∃ (pieces : List Piece) (behind : Option (List String)),
      words = wordsOf pieces ++ behind.elim [] ("--" :: ·) ∧ (∀ p ∈ pieces, p.Fits l) ∧
        (behind.getD [] ≠ [] → l.idWords?.isSome = true) := by
  obtain ⟨pieces, rest, t, same, fits, ends, level, settled, ahead, read⟩ :=
    exists_pieces rfl rfl accepted
  change t.level = l at level
  rcases ends with rfl | ⟨more, rfl⟩ | ⟨command, member, more, rfl⟩
  · exact ⟨pieces, none, same, fits, fun h => absurd rfl h⟩
  · rw [← toOption_eq_some_iff, scan_dashes ahead, toOption_eq_some_iff] at read
    have takes := (scan_trailing_ok (s := { t with trailing := true }) rfl settled read).2
    exact ⟨pieces, some more, same, fits, level ▸ takes⟩
  · change command ∈ l.below at member
    rw [action] at member
    exact absurd member List.not_mem_nil

/-- **A command line that is run is a line.** -/
theorem exists_line {i : Invocation} (accepted : parse env words = .ok i) :
    ∃ line : Line, line.words = words := by
  rw [parse] at accepted
  cases read : scan env { level := .program } words with
  | error => simp only [read, reduceCtorEq] at accepted
  | ok r =>
    obtain ⟨outer, resource, words', _, rfl, outerFits, resourceMem, read⟩ :=
      exists_command (by decide) read
    have above : resource.2.below ≠ [] := by
      have all : ∀ r ∈ Level.program.below, r.2.below ≠ [] := by decide
      exact all resource resourceMem
    obtain ⟨middle, action, words'', _, rfl, middleFits, actionMem, read⟩ :=
      exists_command above read
    have below : action.2.below = [] := by
      have all : ∀ r ∈ Level.program.below, ∀ a ∈ r.2.below, a.2.below = [] := by decide
      exact all resource resourceMem action actionMem
    obtain ⟨inner, behind, rfl, innerFits, behindFits⟩ := exists_ending below read
    refine ⟨⟨resource, action, Place.each outer middle inner, behind, resourceMem, actionMem, ?_,
      behindFits⟩, rfl⟩
    rintro (_ | _ | _)
    exacts [outerFits, middleFits, innerFits]

end Accepted

end ControlPlane.CommandLine
