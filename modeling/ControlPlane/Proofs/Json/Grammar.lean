import ControlPlane.Json
import ControlPlane.Proofs.Text.Decimal
import ControlPlane.Proofs.Text.Pieces

/-!
# JSON texts

What a JSON text says, apart from any printer: it is a row of tokens with white space between them,
and a value is a row of tokens.

* `Token`, `Token.Spelled` -- the tokens, and all the ways to write them;
* `Spells` -- a text as tokens with gaps between them, up to what it leaves;
* `Token.Spelled.cut`, `Spells.unique` -- **a text is read as tokens in one way only**;
* `Json.tokens` -- the tokens of a value; `Json.tokens_cut` -- **the value is told from them**;
* `Denotes`, `DenotesAll` -- a text for one value, and a text for one value after the other;
* `DenotesAll.unique`, `Denotes.unique` -- **a text denotes one value, or one sequence, at most.**

A number is whole here, as the values are.
-/

namespace ControlPlane.Json

open Text

/-! ## 1. Tokens -/

/-- A part of a JSON text that white space may not stand in. -/
inductive Token where
  | mark (c : Char)
  | null
  | bool (b : Bool)
  | number (n : Int)
  | text (s : String)
  deriving DecidableEq, Repr

/-- The brackets, the colon and the comma. -/
def marks : List Char := ['[', ']', '\x7b', '\x7d', ':', ',']

/-- White space. -/
def white : List Char := [' ', '\t', '\n', '\r']

/-- The letters that may stand behind a backslash, each with what it stands for. -/
def letters : List (Char × Char) :=
  [('"', '"'), ('\\', '\\'), ('/', '/'), ('b', '\x08'), ('f', '\x0c'), ('n', '\n'), ('r', '\r'),
    ('t', '\t')]

/-- **The ways to write a character between quotes**: itself, if it is no control character and
    neither the quote nor the backslash; its letter behind a backslash; its number in four
    hexadecimal digits; and, beyond those, two numbers for its two halves. -/
inductive Writes : List Char → Char → Prop
  | plain {c : Char} (printing : 0x20 ≤ c.toNat) (quote : c ≠ '"') (backslash : c ≠ '\\') :
    Writes [c] c
  | letter {x c : Char} (known : (x, c) ∈ letters) : Writes ['\\', x] c
  | number {digits : List Char} {c : Char} (four : digits.length = 4)
      (value : hexNumber? digits = some c.toNat) : Writes ('\\' :: 'u' :: digits) c
  | halves {high low : List Char} {h l : Nat} {c : Char} (four : high.length = 4)
      (value : hexNumber? high = some h) (first : 0xd800 ≤ h ∧ h < 0xdc00)
      (four' : low.length = 4) (value' : hexNumber? low = some l)
      (second : 0xdc00 ≤ l ∧ l < 0xe000)
      (whole : c.toNat = 0x10000 + (h - 0xd800) * 0x400 + (l - 0xdc00)) :
      Writes ('\\' :: 'u' :: high ++ '\\' :: 'u' :: low) c

/-- **The ways to write a token.** -/
inductive Token.Spelled : Token → List Char → Prop
  | mark {c : Char} (known : c ∈ marks) : Spelled (.mark c) [c]
  | null : Spelled .null ['n', 'u', 'l', 'l']
  | yes : Spelled (.bool true) ['t', 'r', 'u', 'e']
  | no : Spelled (.bool false) ['f', 'a', 'l', 's', 'e']
  | natural (n : Nat) : Spelled (.number n) (decimal n)
  | negative (n : Nat) : Spelled (.number (-n)) ('-' :: decimal n)
  | text {chars : List Char} {s : String} (inside : Pieces Writes chars s.toList) :
    Spelled (.text s) ('"' :: chars ++ ['"'])

/-! ## 2. Texts between quotes -/

/-- No letter is taken twice. -/
theorem letters_unique : ∀ a ∈ letters, ∀ b ∈ letters, a.1 = b.1 → a.2 = b.2 := by
  decide

/-- A number is no letter. -/
theorem number_not_letter : ∀ a ∈ letters, a.1 ≠ 'u' := by
  decide

/-- A character is no half of one. -/
theorem not_half (c : Char) {h : Nat} (first : 0xd800 ≤ h ∧ h < 0xdc00) : c.toNat ≠ h := by
  have valid : c.toNat < 0xd800 ∨ 0xdfff < c.toNat ∧ c.toNat < 0x110000 := c.valid
  omega

/-- Numbers of four digits are told apart. -/
theorem digits_cut {digits others rest rest' : List Char} {m n : Nat} (four : digits.length = 4)
    (four' : others.length = 4) (value : hexNumber? digits = some m)
    (value' : hexNumber? others = some n) (same : digits ++ rest = others ++ rest') :
    m = n ∧ rest = rest' := by
  obtain ⟨rfl, behind⟩ := List.append_inj same (four.trans four'.symm)
  rw [value] at value'
  exact ⟨Option.some.inj value', behind⟩

theorem writes_separable : Separable Writes where
  cut := by
    intro piece other c d rest rest' first second same
    cases first with
    | plain _ _ backslash =>
      cases second with
      | plain _ _ _ => exact List.cons.inj same
      | letter _ => exact absurd (List.cons.inj same).1 backslash
      | number _ _ => exact absurd (List.cons.inj same).1 backslash
      | halves _ _ _ _ _ _ _ => exact absurd (List.cons.inj same).1 backslash
    | letter known =>
      cases second with
      | plain _ _ backslash => exact absurd (List.cons.inj same).1.symm backslash
      | letter known' =>
        obtain ⟨letter, behind⟩ := List.cons.inj (List.cons.inj same).2
        exact ⟨letters_unique _ known _ known' letter, behind⟩
      | number _ _ =>
        exact absurd (List.cons.inj (List.cons.inj same).2).1 (number_not_letter _ known)
      | halves _ _ _ _ _ _ _ =>
        exact absurd (List.cons.inj (List.cons.inj same).2).1 (number_not_letter _ known)
    | number four value =>
      cases second with
      | plain _ _ backslash => exact absurd (List.cons.inj same).1.symm backslash
      | letter known' =>
        exact absurd (List.cons.inj (List.cons.inj same).2).1.symm (number_not_letter _ known')
      | number four' value' =>
        obtain ⟨numbers, behind⟩ := digits_cut four four' value value'
          (List.cons.inj (List.cons.inj same).2).2
        exact ⟨Char.toNat_inj.mp numbers, behind⟩
      | halves four' value' first _ _ _ _ =>
        simp only [List.cons_append, List.append_assoc, List.cons.injEq, true_and] at same
        exact absurd (digits_cut four four' value value' same).1 (not_half c first)
    | halves four value first low value₂ _ whole =>
      cases second with
      | plain _ _ backslash => exact absurd (List.cons.inj same).1.symm backslash
      | letter known' =>
        exact absurd (List.cons.inj (List.cons.inj same).2).1.symm (number_not_letter _ known')
      | number four' value' =>
        simp only [List.cons_append, List.append_assoc, List.cons.injEq, true_and] at same
        exact absurd (digits_cut four' four value' value same.symm).1 (not_half d first)
      | halves four' value' _ low' value₂' _ whole' =>
        simp only [List.cons_append, List.append_assoc, List.cons.injEq, true_and] at same
        obtain ⟨rfl, same⟩ := digits_cut four four' value value' same
        obtain ⟨rfl, behind⟩ := digits_cut low low' value₂ value₂'
          (List.cons.inj (List.cons.inj same).2).2
        exact ⟨Char.toNat_inj.mp (whole.trans whole'.symm), behind⟩
  unquoted := by
    intro piece c rest rest' written same
    cases written with
    | plain _ quote _ => exact quote (List.cons.inj same).1
    | letter _ => cases (List.cons.inj same).1
    | number _ _ => cases (List.cons.inj same).1
    | halves _ _ _ _ _ _ _ => cases (List.cons.inj same).1

/-- No character below U+0020 stands between quotes. -/
theorem Writes.printing {piece : List Char} {c : Char} (written : Writes piece c) :
    ∀ x ∈ piece, 0x20 ≤ x.toNat := by
  have number : ∀ {digits : List Char} {n : Nat}, hexNumber? digits = some n →
      ∀ x ∈ '\\' :: 'u' :: digits, 0x20 ≤ x.toNat := by
    intro digits n value x member
    rcases List.mem_cons.mp member with rfl | member
    · decide
    · rcases List.mem_cons.mp member with rfl | member
      · decide
      · have range := range_of_isHexDigit (isHexDigit_of_read value member)
        omega
  cases written with
  | plain printing _ _ => exact List.forall_mem_singleton.mpr printing
  | letter known =>
    have all : ∀ a ∈ letters, 0x20 ≤ a.1.toNat := by decide
    exact List.forall_mem_cons.mpr ⟨by decide, List.forall_mem_singleton.mpr (all _ known)⟩
  | number _ value => exact number value
  | halves _ value _ _ value' _ _ =>
    exact List.forall_mem_append.mpr ⟨number value, number value'⟩

/-! ## 3. Tokens are told apart -/

/-- What a token is, as its first character tells. -/
inductive Kind where
  | mark
  | word
  | number
  | text
  deriving DecidableEq

/-- The kind of a token. -/
def Token.kind : Token → Kind
  | .mark _ => .mark
  | .null | .bool _ => .word
  | .number _ => .number
  | .text _ => .text

/-- The kind of the token that begins with a character, if any does. -/
def kindOf (c : Char) : Kind :=
  if c ∈ marks then .mark
  else if c = '"' then .text
  else if c = '-' ∨ c.isDigit = true then .number
  else .word

/-- Whether a token ends only where another character than its own comes. -/
def Kind.runs : Kind → Bool
  | .word | .number => true
  | .mark | .text => false

/-- A character that is neither white space nor a mark. -/
def isInner (c : Char) : Bool := !(white.contains c || marks.contains c)

/-- A digit begins a number, and is none of the other characters that count. -/
theorem digit_facts {c : Char} (digit : c.isDigit = true) :
    kindOf c = .number ∧ c ∉ white ∧ isInner c = true := by
  have others : ∀ d ∈ '"' :: white ++ marks, d.isDigit = false := by decide
  have other : c ∉ '"' :: white ++ marks := by
    intro member
    rw [others c member] at digit
    cases digit
  simp only [List.cons_append, List.mem_cons, List.mem_append, not_or] at other
  obtain ⟨quote, space, mark⟩ := other
  refine ⟨?_, space, ?_⟩
  · rw [kindOf, if_neg mark, if_neg quote, if_pos (.inr digit)]
  · simp only [isInner, List.contains_eq_mem, mark, space, decide_false, Bool.or_self,
      Bool.not_false]

namespace Token.Spelled

variable {t u : Token} {chars others rest rest' : List Char}

/-- The first character of a token tells its kind. -/
theorem head (spelled : t.Spelled chars) :
    ∃ c cs, chars = c :: cs ∧ kindOf c = t.kind ∧ c ∉ white := by
  cases spelled with
  | mark known =>
    have facts : ∀ c ∈ marks, kindOf c = .mark ∧ c ∉ white := by decide
    exact ⟨_, [], rfl, facts _ known⟩
  | null => exact ⟨'n', _, rfl, by decide⟩
  | yes => exact ⟨'t', _, rfl, by decide⟩
  | no => exact ⟨'f', _, rfl, by decide⟩
  | natural n =>
    obtain ⟨c, cs, whole, digit⟩ := decimal_head n
    obtain ⟨kind, space, _⟩ := digit_facts digit
    exact ⟨c, cs, whole, kind, space⟩
  | negative n => exact ⟨'-', _, rfl, rfl, by decide⟩
  | text inside => exact ⟨'"', _, rfl, rfl, by decide⟩

/-- A word or a number has neither white space nor marks in it. -/
theorem inner (spelled : t.Spelled chars) (runs : t.kind.runs = true) :
    ∀ c ∈ chars, isInner c = true := by
  have digits : ∀ n, ∀ c ∈ decimal n, isInner c = true :=
    fun n c member => (digit_facts (isDigit_of_mem_decimal member)).2.2
  cases spelled with
  | mark known => cases runs
  | null => decide
  | yes => decide
  | no => decide
  | natural n => exact digits n
  | negative n =>
    intro c member
    rcases List.mem_cons.mp member with rfl | digit
    · decide
    · exact digits n c digit
  | text inside => cases runs

/-- Words and numbers that are written alike are the same. -/
theorem eq_of_runs (first : t.Spelled chars) (second : u.Spelled others) (same : chars = others)
    (kinds : t.kind = u.kind) (runs : t.kind.runs = true) : t = u := by
  -- a number without its sign begins with a digit
  have unsigned : ∀ m n, '-' :: decimal m ≠ decimal n := by
    intro m n signed
    obtain ⟨c, cs, whole, _, minus⟩ := decimal_eq_cons n
    rw [whole] at signed
    exact minus (List.cons.inj signed).1.symm
  cases first with
  | mark _ => cases runs
  | null =>
    cases second with
    | null => rfl
    | yes => cases same
    | no => cases same
    | _ => cases kinds
  | yes =>
    cases second with
    | null => cases same
    | yes => rfl
    | no => cases same
    | _ => cases kinds
  | no =>
    cases second with
    | null => cases same
    | yes => cases same
    | no => rfl
    | _ => cases kinds
  | natural m =>
    cases second with
    | natural n => rw [decimal_injective same]
    | negative n => exact absurd same.symm (unsigned n m)
    | _ => cases kinds
  | negative m =>
    cases second with
    | natural n => exact absurd same (unsigned m n)
    | negative n => rw [decimal_injective (List.cons.inj same).2]
    | _ => cases kinds
  | text _ => cases runs

/-- **A token ends in one place only**: a mark with itself, a text with its closing quote, and a word
    or a number where another character than its own comes. -/
theorem cut (first : t.Spelled chars) (second : u.Spelled others)
    (stops : t.kind.runs = true → Stops isInner rest)
    (stops' : u.kind.runs = true → Stops isInner rest')
    (same : chars ++ rest = others ++ rest') : t = u ∧ rest = rest' := by
  have kinds : t.kind = u.kind := by
    obtain ⟨c, cs, whole, kind, _⟩ := first.head
    obtain ⟨d, ds, whole', kind', _⟩ := second.head
    rw [whole, whole', List.cons_append, List.cons_append] at same
    rw [← kind, ← kind', (List.cons.inj same).1]
  -- a word or a number ends where its characters do; the others end with a character of their own
  by_cases runs : t.kind.runs = true
  · have runs' : u.kind.runs = true := kinds ▸ runs
    obtain ⟨alike, behind⟩ :=
      run_cut (first.inner runs) (second.inner runs') (stops runs) (stops' runs') same
    exact ⟨first.eq_of_runs second alike kinds runs, behind⟩
  · cases first with
    | mark _ =>
      cases second with
      | mark _ =>
        obtain ⟨rfl, behind⟩ := List.cons.inj same
        exact ⟨rfl, behind⟩
      | _ => cases kinds
    | text inside =>
      cases second with
      | text inside' =>
        simp only [List.cons_append, List.append_assoc, List.cons.injEq, true_and,
          List.nil_append] at same
        obtain ⟨texts, behind⟩ := inside.cut writes_separable inside' same
        rw [String.toList_inj.mp texts]
        exact ⟨rfl, behind⟩
      | _ => cases kinds
    | _ => exact absurd rfl runs

/-- **No character below U+0020 stands in a token.** -/
theorem printing (spelled : t.Spelled chars) : ∀ c ∈ chars, 0x20 ≤ c.toNat := by
  have digits : ∀ n, ∀ c ∈ decimal n, 0x20 ≤ c.toNat := by
    intro n c member
    have range := range_of_isDigit (isDigit_of_mem_decimal member)
    omega
  cases spelled with
  | mark known =>
    have all : ∀ c ∈ marks, 0x20 ≤ c.toNat := by decide
    exact List.forall_mem_singleton.mpr (all _ known)
  | null => decide
  | yes => decide
  | no => decide
  | natural n => exact digits n
  | negative n => exact List.forall_mem_cons.mpr ⟨by decide, digits n⟩
  | text inside =>
    have quote : 0x20 ≤ '"'.toNat := by decide
    exact List.forall_mem_cons.mpr ⟨quote, List.forall_mem_append.mpr
      ⟨inside.forall_mem fun _ _ written => written.printing, List.forall_mem_singleton.mpr quote⟩⟩

end Token.Spelled

/-! ## 4. Texts as tokens -/

/-- **A text as tokens**, up to what it leaves, with characters of a kind in the gaps between them; a
    word or a number is read as far as it goes. -/
inductive Spells (gap : List Char) : List Char → List Token → List Char → Prop
  | nil (rest : List Char) : Spells gap rest [] rest
  | space {c : Char} {text rest : List Char} {ts : List Token} (between : c ∈ gap)
      (others : Spells gap text ts rest) : Spells gap (c :: text) ts rest
  | token {t : Token} {chars text rest : List Char} {ts : List Token} (first : t.Spelled chars)
      (ends : t.kind.runs = true → Stops isInner text) (others : Spells gap text ts rest) :
      Spells gap (chars ++ text) (t :: ts) rest

namespace Spells

variable {gap : List Char} {text middle rest : List Char} {ts us : List Token}

/-- One text after the other. -/
theorem append (first : Spells gap text ts middle) (second : Spells gap middle us rest) :
    Spells gap text (ts ++ us) rest := by
  induction first with
  | nil _ => exact second
  | space between _ ih => exact .space between (ih second)
  | token first ends _ ih => exact .token first ends (ih second)

/-- More characters may stand in the gaps. -/
theorem widen {wider : List Char} (allowed : ∀ c ∈ gap, c ∈ wider)
    (spells : Spells gap text ts rest) : Spells wider text ts rest := by
  induction spells with
  | nil _ => exact .nil _
  | space between _ ih => exact .space (allowed _ between) ih
  | token first ends _ ih => exact .token first ends ih

/-- A character of a text is one of a gap, one of a token, or left over. -/
theorem mem_cases (spells : Spells gap text ts rest) {c : Char} (member : c ∈ text) :
    c ∈ gap ∨ (∃ (t : Token) (chars : List Char), t.Spelled chars ∧ c ∈ chars) ∨ c ∈ rest := by
  induction spells with
  | nil _ => exact .inr (.inr member)
  | space between _ ih =>
    rcases List.mem_cons.mp member with rfl | later
    · exact .inl between
    · exact ih later
  | token first _ _ ih =>
    rcases List.mem_append.mp member with inside | later
    · exact .inr (.inl ⟨_, _, first, inside⟩)
    · exact ih later

/-- Two readings of a text to its end, for an induction along the first. -/
theorem tokens_eq {other rest' : List Char} (first : Spells white text ts rest)
    (second : Spells white other us rest') (same : text = other) (whole : rest = [])
    (whole' : rest' = []) : ts = us := by
  -- no token begins with white space, so both readings have their gaps in the same places
  induction first generalizing other us with
  | nil rest =>
    subst whole
    cases second with
    | nil _ => rfl
    | space _ _ => cases same
    | token second _ _ =>
      obtain ⟨c, cs, chars, _⟩ := second.head
      rw [chars] at same
      cases same
  | space between _ ih =>
    cases second with
    | nil _ =>
      rw [whole'] at same
      cases same
    | space _ others => exact ih others (List.cons.inj same).2 whole
    | token second _ _ =>
      obtain ⟨c, cs, chars, _, inner⟩ := second.head
      rw [chars] at same
      exact absurd ((List.cons.inj same).1 ▸ between) inner
  | token first ends _ ih =>
    cases second with
    | nil _ =>
      obtain ⟨c, cs, chars, _⟩ := first.head
      rw [chars, whole'] at same
      cases same
    | space between _ =>
      obtain ⟨c, cs, chars, _, inner⟩ := first.head
      rw [chars] at same
      exact absurd ((List.cons.inj same).1 ▸ between) inner
    | token second ends' others =>
      obtain ⟨rfl, behind⟩ := first.cut second ends ends' same
      rw [ih others behind whole]

/-- **A text is read as tokens in one way only.** -/
theorem unique (first : Spells white text ts []) (second : Spells white text us []) : ts = us :=
  first.tokens_eq second rfl rfl rfl

end Spells

/-! ## 5. Values as tokens -/

/-- Parts with a comma before each but the first. -/
def listed : List (List Token) → List Token
  | [] => []
  | part :: others => part ++ others.flatMap fun other => .mark ',' :: other

/-- Parts between brackets. -/
def enclosed (openChar closeChar : Char) (parts : List (List Token)) : List Token :=
  .mark openChar :: listed parts ++ [.mark closeChar]

mutual

/-- **The tokens of a value.** -/
def tokens : Json → List Token
  | .null => [.null]
  | .bool b => [.bool b]
  | .number n => [.number n]
  | .text s => [.text s]
  | .list items => enclosed '[' ']' (itemTokens items)
  | .object members => enclosed '\x7b' '\x7d' (memberTokens members)

/-- The tokens of each element of a list. -/
def itemTokens : List Json → List (List Token)
  | [] => []
  | item :: rest => item.tokens :: itemTokens rest

/-- The tokens of each member of an object: its key, a colon, and its value. -/
def memberTokens : List (String × Json) → List (List Token)
  | [] => []
  | (key, value) :: rest => (.text key :: .mark ':' :: value.tokens) :: memberTokens rest

end

/-- The tokens of a member. -/
def entryTokens (member : String × Json) : List Token :=
  .text member.1 :: .mark ':' :: member.2.tokens

theorem itemTokens_eq (items : List Json) : itemTokens items = items.map tokens := by
  induction items with
  | nil => rfl
  | cons item rest ih => rw [itemTokens, ih, List.map_cons]

theorem memberTokens_eq (members : List (String × Json)) :
    memberTokens members = members.map entryTokens := by
  induction members with
  | nil => rfl
  | cons member rest ih => rw [memberTokens, ih, List.map_cons, entryTokens]

/-- **Induction over a value**, through the elements of its lists and the members of its objects. -/
theorem induct {P : Json → Prop} (null : P .null) (bool : ∀ b, P (.bool b))
    (number : ∀ n, P (.number n)) (text : ∀ s, P (.text s))
    (list : ∀ items, (∀ item ∈ items, P item) → P (.list items))
    (object : ∀ members, (∀ member ∈ members, P member.2) → P (.object members)) :
    ∀ value, P value :=
  @Json.rec P (fun items => ∀ item ∈ items, P item)
    (fun members => ∀ member ∈ members, P member.2) (fun member => P member.2)
    null bool number text list object
    (fun _ none => by cases none) (fun _ _ first others => List.forall_mem_cons.mpr ⟨first, others⟩)
    (fun _ none => by cases none) (fun _ _ first others => List.forall_mem_cons.mpr ⟨first, others⟩)
    (fun _ _ value => value)

/-! ## 6. Values are told from their tokens -/

/-- The first token of a value is none of the marks that end a part. -/
theorem tokens_head (value : Json) : ∃ t ts, value.tokens = t :: ts ∧ t ≠ .mark ',' ∧
    t ≠ .mark ']' ∧ t ≠ .mark '\x7d' := by
  cases value with
  | null => exact ⟨_, _, rfl, by decide⟩
  | bool b => exact ⟨_, _, rfl, by simp⟩
  | number n => exact ⟨_, _, rfl, by simp⟩
  | text s => exact ⟨_, _, rfl, by simp⟩
  | list items => exact ⟨.mark '[', _, rfl, by decide⟩
  | object members => exact ⟨.mark '\x7b', _, rfl, by decide⟩

section Parts

variable {α : Type} {part : α → List Token} {closeChar : Char} {items others : List α}
  {rest rest' : List Token}

/-- Parts with a comma before each are told apart, up to the bracket. -/
theorem following_cut (bracket : closeChar ≠ ',')
    (apart : ∀ a ∈ items, ∀ b rest rest', part a ++ rest = part b ++ rest' → a = b ∧ rest = rest')
    (same : (items.flatMap fun a => .mark ',' :: part a) ++ .mark closeChar :: rest =
      (others.flatMap fun a => .mark ',' :: part a) ++ .mark closeChar :: rest') :
    items = others ∧ rest = rest' := by
  induction items generalizing others with
  | nil =>
    cases others with
    | nil => exact ⟨rfl, (List.cons.inj same).2⟩
    | cons b _ => exact absurd (Token.mark.inj (List.cons.inj same).1) bracket
  | cons a items ih =>
    cases others with
    | nil => exact absurd (Token.mark.inj (List.cons.inj same).1).symm bracket
    | cons b others =>
      simp only [List.flatMap_cons, List.cons_append, List.append_assoc, List.cons.injEq,
        true_and] at same
      obtain ⟨rfl, tails⟩ := apart a List.mem_cons_self b _ _ same
      obtain ⟨rfl, behind⟩ := ih (fun c member => apart c (List.mem_cons_of_mem a member)) tails
      exact ⟨rfl, behind⟩

/-- **Parts between brackets are told apart.** -/
theorem enclosed_cut {openChar : Char} (bracket : closeChar ≠ ',')
    (apart : ∀ a ∈ items, ∀ b rest rest', part a ++ rest = part b ++ rest' → a = b ∧ rest = rest')
    (opens : ∀ a rest rest', part a ++ rest ≠ .mark closeChar :: rest')
    (same : enclosed openChar closeChar (items.map part) ++ rest =
      enclosed openChar closeChar (others.map part) ++ rest') : items = others ∧ rest = rest' := by
  simp only [enclosed, List.cons_append, List.append_assoc, List.cons.injEq, true_and,
    List.nil_append] at same
  cases items with
  | nil =>
    cases others with
    | nil => exact ⟨rfl, (List.cons.inj same).2⟩
    | cons b others =>
      simp only [List.map_cons, listed, List.append_assoc] at same
      exact absurd same.symm (opens b _ _)
  | cons a items =>
    cases others with
    | nil =>
      simp only [List.map_cons, listed, List.append_assoc] at same
      exact absurd same (opens a _ _)
    | cons b others =>
      simp only [List.map_cons, listed, List.append_assoc, List.flatMap_map] at same
      obtain ⟨rfl, tails⟩ := apart a List.mem_cons_self b _ _ same
      obtain ⟨rfl, behind⟩ := following_cut bracket
        (fun c member => apart c (List.mem_cons_of_mem a member)) tails
      exact ⟨rfl, behind⟩

end Parts

/-- **A value is told from its tokens, whatever follows them.** -/
theorem tokens_cut (value : Json) : ∀ other rest rest',
    value.tokens ++ rest = other.tokens ++ rest' → value = other ∧ rest = rest' := by
  -- the other value is of the same kind, for the first tokens are the same
  induction value using induct with
  | null =>
    intro other rest rest' same
    cases other with
    | null => exact ⟨rfl, (List.cons.inj same).2⟩
    | _ => cases (List.cons.inj same).1
  | bool b =>
    intro other rest rest' same
    cases other with
    | bool c =>
      obtain ⟨first, behind⟩ := List.cons.inj same
      exact ⟨congrArg bool (Token.bool.inj first), behind⟩
    | _ => cases (List.cons.inj same).1
  | number n =>
    intro other rest rest' same
    cases other with
    | number m =>
      obtain ⟨first, behind⟩ := List.cons.inj same
      exact ⟨congrArg number (Token.number.inj first), behind⟩
    | _ => cases (List.cons.inj same).1
  | text s =>
    intro other rest rest' same
    cases other with
    | text t =>
      obtain ⟨first, behind⟩ := List.cons.inj same
      exact ⟨congrArg text (Token.text.inj first), behind⟩
    | _ => cases (List.cons.inj same).1
  | list items ih =>
    intro other rest rest' same
    cases other with
    | list others =>
      rw [tokens, tokens, itemTokens_eq, itemTokens_eq] at same
      have opens : ∀ (a : Json) rest rest', a.tokens ++ rest ≠ .mark ']' :: rest' := by
        intro a rest rest' closed
        obtain ⟨t, ts, whole, _, bracket, _⟩ := a.tokens_head
        rw [whole] at closed
        exact bracket (List.cons.inj closed).1
      obtain ⟨rfl, behind⟩ := enclosed_cut (by decide) ih opens same
      exact ⟨rfl, behind⟩
    | _ => cases (List.cons.inj same).1
  | object members ih =>
    intro other rest rest' same
    cases other with
    | object others =>
      rw [tokens, tokens, memberTokens_eq, memberTokens_eq] at same
      have apart : ∀ a ∈ members, ∀ b rest rest',
          entryTokens a ++ rest = entryTokens b ++ rest' → a = b ∧ rest = rest' := by
        rintro ⟨key, value⟩ member ⟨key', value'⟩ rest rest' same
        obtain ⟨first, tails⟩ := List.cons.inj same
        obtain ⟨rfl, behind⟩ := ih _ member value' rest rest' (List.cons.inj tails).2
        exact ⟨Prod.ext (Token.text.inj first) rfl, behind⟩
      have opens : ∀ a rest rest', entryTokens a ++ rest ≠ .mark '\x7d' :: rest' := by
        intro a rest rest' closed
        cases (List.cons.inj closed).1
      obtain ⟨rfl, behind⟩ := enclosed_cut (by decide) apart opens same
      exact ⟨rfl, behind⟩
    | _ => cases (List.cons.inj same).1

/-! ## 7. What a text denotes -/

/-- A text for a value, with white space wherever it may stand. -/
def Denotes (text : List Char) (value : Json) : Prop := Spells white text value.tokens []

/-- A text for values, one after the other. -/
def DenotesAll (text : List Char) (values : List Json) : Prop :=
  Spells white text (values.flatMap tokens) []

/-- Values are told from their tokens. -/
theorem flatMap_tokens_injective {values others : List Json}
    (same : values.flatMap tokens = others.flatMap tokens) : values = others := by
  induction values generalizing others with
  | nil =>
    cases others with
    | nil => rfl
    | cons other _ =>
      obtain ⟨t, ts, whole, _⟩ := other.tokens_head
      rw [List.flatMap_cons, whole] at same
      cases same
  | cons value values ih =>
    cases others with
    | nil =>
      obtain ⟨t, ts, whole, _⟩ := value.tokens_head
      rw [List.flatMap_cons, whole] at same
      cases same
    | cons other others =>
      obtain ⟨rfl, tails⟩ := value.tokens_cut other _ _ same
      rw [ih tails]

/-- **A text denotes one sequence of values at most.** -/
theorem DenotesAll.unique {text : List Char} {values others : List Json}
    (first : DenotesAll text values) (second : DenotesAll text others) : values = others :=
  flatMap_tokens_injective (Spells.unique first second)

/-- **A text denotes one value at most.** -/
theorem Denotes.unique {text : List Char} {value other : Json} (first : Denotes text value)
    (second : Denotes text other) : value = other := by
  have same : value.tokens ++ [] = other.tokens ++ [] := by
    rw [Spells.unique first second]
  exact (value.tokens_cut other [] [] same).1

end ControlPlane.Json
