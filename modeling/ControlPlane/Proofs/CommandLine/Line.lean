import Mathlib.Logic.Function.Basic
import ControlPlane.Proofs.CommandLine.Written

/-!
# Command lines and what stands on them

A command line that is run names a resource and an action of it. Before, between and behind these
two words stand options with their values, and behind the second one an argument may stand too:

* `Spelling` -- how an option is written with its value, in one word or two;
* `Piece` -- an option or an argument, and `Piece.Fits` -- where it may stand;
* `Line` -- **a command line as the pieces at its three places**, and `Line.words` -- its words;
* `words_injective` -- **words can be taken for one such line at most**;
* `Moved` -- two lines that differ in the place of one piece.

What the words mean is not said here, but what each word is, so that an option is told from a value
that looks like it.
-/

namespace ControlPlane.CommandLine

/-! ## 1. Options with their values -/

/-- How an option is written with its value: by its name or its letter, and the value attached to it
    or as the next word. -/
inductive Spelling where
  | joined
  | apart
  | letter
  | letterJoined
  | letterApart
  deriving DecidableEq, Repr

/-- An option by its name. -/
def Flag.dashed (f : Flag) : String := "--" ++ f.long

/-- An option by its letter. -/
def Flag.lettered (f : Flag) : String := "-" ++ (f.short?.elim "" String.singleton)

/-- A word that is no option: it begins with no dash, or is nothing but a dash. -/
def IsPlain (word : String) : Prop := word.toList.head? = some '-' → word.toList = ['-']

instance (word : String) : Decidable (IsPlain word) := inferInstanceAs (Decidable (_ → _))

theorem Word.of_eq_plain_iff {word : String} : Word.of word = .plain ↔ IsPlain word := by
  rw [Word.of, IsPlain]
  generalize word.toList = chars
  split
  · exact iff_of_false (fun h => by cases h) fun h => by cases h rfl
  · refine iff_of_false (fun h => ?_) fun h => by cases h rfl
    split at h <;> cases h
  · exact iff_of_true rfl fun _ => rfl
  · rename_i more
    exact iff_of_false (fun h => by cases h) fun h => more (List.cons_eq_cons.mp (h rfl)).2
  · rename_i other
    refine iff_of_true rfl fun dash => ?_
    obtain ⟨rest, rfl⟩ := List.head?_eq_some_iff.mp dash
    exact absurd rfl (other rest)

/-- What an option with a value can be written as. A value that is a word of its own is no option,
    and one that is attached to a letter is not taken for something else. -/
def Spelling.Fits (f : Flag) (value : String) : Spelling → Prop
  | .joined => True
  | .apart => IsPlain value
  | .letter => f.short?.isSome = true ∧ value.toList ≠ [] ∧ value.toList.head? ≠ some '='
  | .letterJoined => f.short?.isSome = true
  | .letterApart => f.short?.isSome = true ∧ IsPlain value

instance (f : Flag) (value : String) : (spelling : Spelling) → Decidable (spelling.Fits f value)
  | .joined => inferInstanceAs (Decidable True)
  | .apart => inferInstanceAs (Decidable (IsPlain value))
  | .letter => inferInstanceAs (Decidable (_ ∧ _ ∧ _ ≠ _))
  | .letterJoined => inferInstanceAs (Decidable (_ = _))
  | .letterApart => inferInstanceAs (Decidable (_ ∧ IsPlain value))

/-- **What stands on a command line** beside the words for resource and action. -/
inductive Piece where
  | option (f : Flag) (value : String) (spelling : Spelling)
  | argument (word : String)
  deriving DecidableEq, Repr

namespace Piece

/-- The first word of a piece. -/
def head : Piece → String
  | .option f value .joined => f.attached value
  | .option f _ .apart => f.dashed
  | .option f value .letter => f.lettered ++ value
  | .option f value .letterJoined => f.lettered ++ "=" ++ value
  | .option f _ .letterApart => f.lettered
  | .argument word => word

/-- The words of a piece behind its first. -/
def tail : Piece → List String
  | .option _ value .apart | .option _ value .letterApart => [value]
  | _ => []

/-- The words of a piece. -/
def words (p : Piece) : List String := p.head :: p.tail

/-- **Where a piece may stand**: an option at a level that has it, and an argument at one that takes
    an identifier. -/
def Fits (l : Level) : Piece → Prop
  | .option f value spelling => f ∈ l.flags ∧ f.valueName?.isSome = true ∧ spelling.Fits f value
  | .argument word => l.idWords?.isSome = true ∧ IsPlain word

instance (l : Level) : (p : Piece) → Decidable (p.Fits l)
  | .option f value spelling =>
    inferInstanceAs (Decidable (f ∈ l.flags ∧ _ = _ ∧ spelling.Fits f value))
  | .argument word => inferInstanceAs (Decidable (_ = _ ∧ IsPlain word))

/-- What the first word of a piece is by its dashes. -/
def form : Piece → Word
  | .option f value .joined => .long f.long (some value)
  | .option f _ .apart => .long f.long none
  | .option f value .letter => .short (f.short?.toList ++ value.toList)
  | .option f value .letterJoined => .short (f.short?.toList ++ '=' :: value.toList)
  | .option f _ .letterApart => .short f.short?.toList
  | .argument _ => .plain

end Piece

/-- An option by its name is a long option without a value. -/
theorem Word.of_dashed (f : Flag) : Word.of f.dashed = .long f.long none := by
  cases f <;> rfl

theorem Flag.lettered_toList {f : Flag} {c : Char} (letter : f.short? = some c) :
    f.lettered.toList = ['-', c] := by
  rw [Flag.lettered, letter, String.toList_append, Option.elim_some, String.toList_singleton]
  rfl

/-- No option has a dash for its letter. -/
theorem Flag.letter_ne_dash {f : Flag} {c : Char} (letter : f.short? = some c) : c ≠ '-' := by
  rintro rfl
  cases f <;> cases letter

/-- A dash and something that is no dash make a short option. -/
theorem Word.of_letters {word : String} {c : Char} {rest : List Char}
    (chars : word.toList = '-' :: c :: rest) (other : c ≠ '-') :
    Word.of word = .short (c :: rest) := by
  rw [Word.of, chars]
  split <;> simp_all

/-- **What the first word of a piece is.** -/
theorem Piece.form_eq {l : Level} {p : Piece} (fits : p.Fits l) : Word.of p.head = p.form := by
  cases p with
  | argument word => exact Word.of_eq_plain_iff.mpr fits.2
  | option f value spelling =>
    obtain ⟨_, _, written⟩ := fits
    cases spelling with
    | joined => exact Word.of_attached f value
    | apart => exact Word.of_dashed f
    | letter =>
      obtain ⟨c, letter⟩ := Option.isSome_iff_exists.mp written.1
      have chars : (f.lettered ++ value).toList = '-' :: c :: value.toList := by
        rw [String.toList_append, Flag.lettered_toList letter]
        rfl
      rw [head, form, Word.of_letters chars (Flag.letter_ne_dash letter), letter]
      rfl
    | letterJoined =>
      obtain ⟨c, letter⟩ := Option.isSome_iff_exists.mp written
      have chars : (f.lettered ++ "=" ++ value).toList = '-' :: c :: '=' :: value.toList := by
        rw [String.toList_append, String.toList_append, Flag.lettered_toList letter]
        rfl
      rw [head, form, Word.of_letters chars (Flag.letter_ne_dash letter), letter]
      rfl
    | letterApart =>
      obtain ⟨c, letter⟩ := Option.isSome_iff_exists.mp written.1
      rw [head, form, Word.of_letters (Flag.lettered_toList letter) (Flag.letter_ne_dash letter),
        letter]
      rfl

/-- A level finds its options by their names. -/
theorem Level.flagOfName?_long {l : Level} {f : Flag} (member : f ∈ l.flags) :
    l.flagOfName? f.long = some f := by
  revert member
  cases l <;> cases f <;> decide

/-- It finds them by their letters. -/
theorem Level.flagOfLetter?_short {l : Level} {f : Flag} {c : Char} (member : f ∈ l.flags)
    (letter : f.short? = some c) : l.flagOfLetter? c = some f := by
  revert member
  cases f with
  | header | help | version =>
    cases letter
    cases l <;> decide
  | _ => cases letter

/-- The piece that begins with a word of some form, and the words behind it. -/
def Level.piece? (l : Level) (word : String) : Word → List String → Option (Piece × List String)
  | .long name (some value), rest =>
    (l.flagOfName? name).map fun f => (.option f value .joined, rest)
  | .long name none, value :: rest =>
    (l.flagOfName? name).map fun f => (.option f value .apart, rest)
  | .short (c :: '=' :: value), rest =>
    (l.flagOfLetter? c).map fun f => (.option f (String.ofList value) .letterJoined, rest)
  | .short [c], value :: rest =>
    (l.flagOfLetter? c).map fun f => (.option f value .letterApart, rest)
  | .short (c :: value), rest =>
    (l.flagOfLetter? c).map fun f => (.option f (String.ofList value) .letter, rest)
  | .plain, rest => some (.argument word, rest)
  | _, _ => none

/-- **A piece is found where its words come first.** -/
theorem Level.piece?_words {l : Level} {p : Piece} (fits : p.Fits l) (rest : List String) :
    l.piece? p.head p.form (p.tail ++ rest) = some (p, rest) := by
  cases p with
  | argument word => rfl
  | option f value spelling =>
    obtain ⟨member, _, written⟩ := fits
    have named := Level.flagOfName?_long member
    cases spelling with
    | joined | apart =>
      simp only [Piece.form, Piece.tail, List.cons_append, List.nil_append, Level.piece?, named,
        Option.map_some]
    | letter =>
      obtain ⟨c, letter⟩ := Option.isSome_iff_exists.mp written.1
      have found := Level.flagOfLetter?_short member letter
      obtain ⟨x, chars, value_eq⟩ := List.exists_cons_of_ne_nil written.2.1
      have other : x ≠ '=' := by
        rintro rfl
        exact written.2.2 (congrArg List.head? value_eq)
      rw [Piece.form, letter, value_eq, Option.toList_some, List.singleton_append, Level.piece?,
        found, ← value_eq, String.ofList_toList]
      · rfl
      · exact fun _ same => other (List.cons_eq_cons.mp same).1
      · exact fun _ _ _ none => List.cons_ne_nil _ _ none
    | letterJoined =>
      obtain ⟨c, letter⟩ := Option.isSome_iff_exists.mp written
      have found := Level.flagOfLetter?_short member letter
      simp only [Piece.form, Piece.tail, letter, Option.toList_some, List.singleton_append,
        List.nil_append, Level.piece?, found, Option.map_some, String.ofList_toList]
    | letterApart =>
      obtain ⟨c, letter⟩ := Option.isSome_iff_exists.mp written.1
      have found := Level.flagOfLetter?_short member letter
      simp only [Piece.form, Piece.tail, letter, Option.toList_some, List.cons_append,
        List.nil_append, Level.piece?, found, Option.map_some]

/-- **Words begin with one piece at most.** -/
theorem Piece.unique {l : Level} {p q : Piece} {rest rest' : List String} (hp : p.Fits l)
    (hq : q.Fits l) (same : p.words ++ rest = q.words ++ rest') : p = q ∧ rest = rest' := by
  obtain ⟨heads, tails⟩ := List.cons_eq_cons.mp same
  have forms : p.form = q.form := by
    rw [← form_eq hp, ← form_eq hq, heads]
  have found : l.piece? p.head p.form (p.tail.append rest) = some (p, rest) :=
    Level.piece?_words hp rest
  rw [heads, forms, tails] at found
  cases found.symm.trans (Level.piece?_words hq rest')
  exact ⟨rfl, rfl⟩

/-! ## 2. Pieces one after another -/

/-- The words of pieces. -/
def wordsOf (pieces : List Piece) : List String := pieces.flatMap Piece.words

theorem wordsOf_cons (p : Piece) (others : List Piece) :
    wordsOf (p :: others) = p.words ++ wordsOf others := List.flatMap_cons

/-- Words that begin with no piece of a level. -/
def Stops (l : Level) (rest : List String) : Prop :=
  ∀ p : Piece, p.Fits l → ∀ rest', p.words ++ rest' ≠ rest

/-- **Words begin with the pieces of one list**, if what follows them is none. -/
theorem wordsOf_unique {l : Level} {pieces pieces' : List Piece} {rest rest' : List String}
    (fits : ∀ p ∈ pieces, p.Fits l) (fits' : ∀ p ∈ pieces', p.Fits l) (stops : Stops l rest)
    (stops' : Stops l rest') (same : wordsOf pieces ++ rest = wordsOf pieces' ++ rest') :
    pieces = pieces' ∧ rest = rest' := by
  induction pieces generalizing pieces' with
  | nil =>
    cases pieces' with
    | nil => exact ⟨rfl, same⟩
    | cons p' others' =>
      rw [wordsOf_cons, List.append_assoc] at same
      exact absurd same.symm (stops p' (fits' p' List.mem_cons_self) _)
  | cons p others ih =>
    cases pieces' with
    | nil =>
      rw [wordsOf_cons, List.append_assoc] at same
      exact absurd same (stops' p (fits p List.mem_cons_self) _)
    | cons p' others' =>
      rw [List.forall_mem_cons] at fits fits'
      rw [wordsOf_cons, wordsOf_cons, List.append_assoc, List.append_assoc] at same
      obtain ⟨rfl, behind⟩ := Piece.unique fits.1 fits'.1 same
      obtain ⟨rfl, rfl⟩ := ih fits.2 fits'.2 behind
      exact ⟨rfl, rfl⟩

/-- Nothing begins with no piece. -/
theorem stops_nil (l : Level) : Stops l [] := fun _ _ _ => List.cons_ne_nil _ _

/-- Two dashes begin no piece. -/
theorem stops_dashes (l : Level) (rest : List String) : Stops l ("--" :: rest) := by
  intro p fits rest' same
  have dashes : Word.of p.head = .dashes := by
    rw [(List.cons_eq_cons.mp same).1]
    rfl
  rw [Piece.form_eq fits] at dashes
  cases p with
  | argument => cases dashes
  | option f value spelling => cases spelling <;> cases dashes

/-- The word for a level below is no option. -/
theorem Level.isPlain_of_mem {l : Level} {command : String × Level} (member : command ∈ l.below) :
    IsPlain command.1 := by
  have all : ∀ command ∈ l.below, command.1.toList.head? ≠ some '-' := by
    cases l <;> decide
  exact fun dash => absurd dash (all command member)

/-- A level that has others below takes no identifier. -/
theorem Level.below_eq_nil {l : Level} (takes : l.idWords?.isSome = true) : l.below = [] := by
  cases l with
  | getInstance | listOperations | getDisk => rfl
  | _ => cases takes

/-- The word for a level below begins no piece. -/
theorem stops_command {l : Level} {command : String × Level} (member : command ∈ l.below)
    (rest : List String) : Stops l (command.1 :: rest) := by
  intro p fits rest' same
  have plain : Word.of p.head = .plain := by
    rw [(List.cons_eq_cons.mp same).1]
    exact Word.of_eq_plain_iff.mpr (Level.isPlain_of_mem member)
  rw [Piece.form_eq fits] at plain
  cases p with
  | argument =>
    rw [Level.below_eq_nil fits.1] at member
    exact List.not_mem_nil member
  | option f value spelling => cases spelling <;> cases plain

/-! ## 3. Lines -/

/-- Where a piece stands: before the resource, between it and the action, or behind the action. -/
inductive Place where
  | outer
  | middle
  | inner
  deriving DecidableEq, Repr

/-- What there is at each place. -/
def Place.each {α : Type} (outer middle inner : α) : Place → α
  | .outer => outer
  | .middle => middle
  | .inner => inner

/-- The level of the pieces at a place. -/
def Place.level (resource action : Level) : Place → Level :=
  each .program resource action

/-- **A command line**: a resource and an action of it, each with its word, the pieces at the three
    places, and what stands behind two dashes, if these stand there. That is arguments, whatever it
    looks like. -/
structure Line where
  resource : String × Level
  action : String × Level
  pieces : Place → List Piece
  behind : Option (List String)
  resource_mem : resource ∈ Level.program.below
  action_mem : action ∈ resource.2.below
  fits : ∀ place, ∀ p ∈ pieces place, p.Fits (place.level resource.2 action.2)
  behind_fits : behind.getD [] ≠ [] → action.2.idWords?.isSome = true

namespace Line

variable {line other : Line}

/-- The words behind the options. -/
def ending (line : Line) : List String := line.behind.elim [] ("--" :: ·)

/-- The words from the action on. -/
def actionWords (line : Line) : List String :=
  line.action.1 :: (wordsOf (line.pieces .inner) ++ line.ending)

/-- The words from the resource on. -/
def resourceWords (line : Line) : List String :=
  line.resource.1 :: (wordsOf (line.pieces .middle) ++ line.actionWords)

/-- **The words of a line.** -/
def words (line : Line) : List String := wordsOf (line.pieces .outer) ++ line.resourceWords

/-- A word leads to one level below at most. -/
theorem command_eq {l : Level} {command command' : String × Level} (member : command ∈ l.below)
    (member' : command' ∈ l.below) (same : command.1 = command'.1) : command = command' := by
  have all : ∀ c ∈ l.below, ∀ c' ∈ l.below, c.1 = c'.1 → c = c' := by
    cases l <;> decide
  exact all command member command' member' same

/-- **Words can be taken for one line at most.** -/
theorem words_injective (same : line.words = other.words) : line = other := by
  obtain ⟨resource, action, pieces, behind, resource_mem, action_mem, fits, _⟩ := line
  obtain ⟨resource', action', pieces', behind', resource_mem', action_mem', fits', _⟩ := other
  obtain ⟨outers, same⟩ := wordsOf_unique (fits .outer) (fits' .outer) (stops_command resource_mem _)
    (stops_command resource_mem' _) same
  obtain ⟨resources, same⟩ := List.cons_eq_cons.mp same
  obtain rfl := command_eq resource_mem resource_mem' resources
  obtain ⟨middles, same⟩ := wordsOf_unique (fits .middle) (fits' .middle) (stops_command action_mem _)
    (stops_command action_mem' _) same
  obtain ⟨actions, same⟩ := List.cons_eq_cons.mp same
  obtain rfl := command_eq action_mem action_mem' actions
  have stops : ∀ behind : Option (List String), Stops action.2 (behind.elim [] ("--" :: ·)) := by
    intro behind
    cases behind with
    | none => exact stops_nil _
    | some words => exact stops_dashes _ _
  obtain ⟨inners, endings⟩ := wordsOf_unique (fits .inner) (fits' .inner) (stops behind) (stops behind') same
  obtain rfl : pieces = pieces' := by
    funext place
    cases place with
    | outer => exact outers
    | middle => exact middles
    | inner => exact inners
  obtain rfl : behind = behind' := by
    cases behind <;> cases behind' <;> cases endings <;> rfl
  rfl

end Line

/-! ## 4. Options on a line -/

/-- The value that a piece gives an option. -/
def Piece.value? (f : Flag) : Piece → Option String
  | .option g value _ => if g = f then some value else none
  | .argument _ => none

/-- The values that pieces give an option, in order. -/
def valuesOf (f : Flag) (pieces : List Piece) : List String := pieces.filterMap (Piece.value? f)

theorem valuesOf_append (f : Flag) (pieces others : List Piece) :
    valuesOf f (pieces ++ others) = valuesOf f pieces ++ valuesOf f others :=
  List.filterMap_append

namespace Line

/-- **The values of an option on a line**, in the order in which they stand there. -/
def values (line : Line) (f : Flag) : List String :=
  valuesOf f (line.pieces .outer) ++ valuesOf f (line.pieces .middle) ++
    valuesOf f (line.pieces .inner)

/-- The lines of `instances get`. -/
def instancesGet (pieces : Place → List Piece) (behind : Option (List String))
    (fits : ∀ place, ∀ p ∈ pieces place, p.Fits (place.level .instances .getInstance)) : Line where
  resource := ("instances", .instances)
  action := ("get", .getInstance)
  pieces
  behind
  resource_mem := by decide
  action_mem := by decide
  fits
  behind_fits _ := rfl

end Line

/-- **Pieces at the three places with one more at one of them**, anywhere among those that stand
    there. -/
def Inserted (x : Piece) (bare pieces : Place → List Piece) : Prop :=
  ∃ place front back, bare place = front ++ back ∧
    pieces = Function.update bare place (front ++ x :: back)

/-- **Two lines that differ in where one piece stands.** -/
structure Moved (x : Piece) (line moved : Line) : Prop where
  resource : moved.resource = line.resource
  action : moved.action = line.action
  behind : moved.behind = line.behind
  piece : ∃ bare, Inserted x bare line.pieces ∧ Inserted x bare moved.pieces

end ControlPlane.CommandLine
