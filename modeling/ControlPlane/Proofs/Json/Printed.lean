import ControlPlane.Proofs.Json.Grammar

/-!
# The printed form of a value

* `Showing`, `showing_iff` -- whether every line of a text shows something;
* `Prints` -- a text as tokens with blanks and line feeds between them, and what its lines show;
* `prints_block` -- brackets around parts that are each printed;
* `prints_prettyChars` -- **a value is printed as its tokens, whatever follows**;
* `spells_pretty`, `denotes_pretty_iff` -- **so that its printed form denotes it, and nothing else**;
* `lines_pretty`, `raw_pretty` -- **no line is empty, and only line feeds lie below U+0020.**
-/

namespace ControlPlane.Json

open Text

/-! ## 1. Lines -/

/-- Whether the line that a text goes on with shows something, or did so before, and every later
    line does. -/
def Showing : Bool → List Char → Prop
  | seen, [] => seen = true
  | seen, c :: rest =>
    if c = '\n' then seen = true ∧ Showing false rest else Showing (seen || c != ' ') rest

theorem showing_newline (depth : Nat) (rest : List Char) :
    Showing true (newline depth ++ rest) ↔ Showing false rest := by
  have blanks : ∀ n, Showing false (List.replicate n ' ' ++ rest) ↔ Showing false rest := by
    intro n
    induction n with
    | zero => rfl
    | succ n ih =>
      rw [List.replicate_succ, List.cons_append, Showing, if_neg (by decide)]
      exact ih
  rw [newline, List.cons_append, Showing, if_pos rfl, blanks]
  exact and_iff_right rfl

/-- A printing character ends no line. -/
theorem showing_cons {c : Char} (printing : 0x20 ≤ c.toNat) (seen : Bool) (rest : List Char) :
    Showing seen (c :: rest) ↔ Showing (seen || c != ' ') rest := by
  have feed : c ≠ '\n' := by
    rintro rfl
    exact absurd printing (by decide)
  rw [Showing, if_neg feed]

/-- A token shows. -/
theorem showing_token {t : Token} {chars : List Char} (spelled : t.Spelled chars) (seen : Bool)
    (rest : List Char) : Showing seen (chars ++ rest) ↔ Showing true rest := by
  have behind : ∀ cs : List Char, (∀ c ∈ cs, 0x20 ≤ c.toNat) →
      (Showing true (cs ++ rest) ↔ Showing true rest) := by
    intro cs printing
    induction cs with
    | nil => rfl
    | cons c cs ih =>
      obtain ⟨first, others⟩ := List.forall_mem_cons.mp printing
      rw [List.cons_append, showing_cons first]
      exact ih others
  obtain ⟨c, cs, rfl, _, space⟩ := spelled.head
  obtain ⟨first, others⟩ := List.forall_mem_cons.mp spelled.printing
  have blank : (c != ' ') = true := by
    rw [bne_iff_ne]
    rintro rfl
    exact space (by decide)
  rw [List.cons_append, showing_cons first, blank, Bool.or_true]
  exact behind cs others

/-- **What `Showing` says of the lines of a text.** -/
theorem showing_iff {text first : List Char} {others : List (List Char)} {seen : Bool}
    (lines : text.splitOn '\n' = first :: others) :
    Showing seen text ↔
      (seen = true ∨ ∃ c ∈ first, c ≠ ' ') ∧ ∀ line ∈ others, ∃ c ∈ line, c ≠ ' ' := by
  induction text generalizing first others seen with
  | nil =>
    obtain ⟨rfl, rfl⟩ := List.cons.inj lines
    simp [Showing]
  | cons c text ih =>
    obtain ⟨next, later, below⟩ := List.exists_cons_of_ne_nil (List.splitOn_ne_nil '\n' text)
    rw [List.splitOn_cons_eq_if_modifyHead, below] at lines
    by_cases feed : c = '\n'
    · rw [if_pos (beq_iff_eq.mpr feed)] at lines
      obtain ⟨rfl, rfl⟩ := List.cons.inj lines
      rw [Showing, if_pos feed, ih below]
      simp
    · rw [if_neg (mt beq_iff_eq.mp feed), List.modifyHead_cons] at lines
      obtain ⟨rfl, rfl⟩ := List.cons.inj lines
      rw [Showing, if_neg feed, ih below]
      simp [or_assoc]

/-! ## 2. Texts and numbers -/

/-- The number of a control character below U+0020 has two digits that count. -/
theorem control_digits : ∀ n < 0x20,
    hexNumber? ['0', '0', Nat.digitChar (n / 16), Nat.digitChar (n % 16)] = some n := by
  decide

/-- A character is written in one of the ways. -/
theorem writes_stringChar (c : Char) : Writes (stringChar c) c := by
  refine written_ite (.letter (by decide)) fun quote => ?_
  refine written_ite (.letter (by decide)) fun backslash => ?_
  -- the characters that have a short name
  refine written_ite (.letter (by decide)) fun _ => ?_
  refine written_ite (.letter (by decide)) fun _ => ?_
  refine written_ite (.letter (by decide)) fun _ => ?_
  refine written_ite (.letter (by decide)) fun _ => ?_
  refine written_ite (.letter (by decide)) fun _ => ?_
  by_cases control : c.toNat < 0x20
  · rw [if_pos control]
    exact .number rfl (control_digits _ control)
  · rw [if_neg control]
    exact .plain (Nat.not_lt.mp control) quote backslash

theorem spelled_stringChars (s : String) : (Token.text s).Spelled (stringChars s) :=
  .text (pieces_flatMap writes_stringChar s.toList)

theorem spelled_decimalInt (n : Int) : (Token.number n).Spelled (decimalInt n) := by
  cases n with
  | ofNat n => exact .natural n
  | negSucc n => exact .negative (n + 1)

/-! ## 3. Printed parts -/

/-- **A text as tokens with blanks and line feeds between them**, up to what it leaves; and whether
    its lines show something, as long as those of what it leaves do. The two truth values say
    whether the line has shown something before the text, and behind it. -/
structure Prints (seen : Bool) (text : List Char) (ts : List Token) (shown : Bool)
    (rest : List Char) : Prop where
  spells : Spells [' ', '\n'] text ts rest
  shows : Showing seen text ↔ Showing shown rest

section Prints

variable {seen shown : Bool} {text middle rest : List Char} {ts us : List Token}

theorem Prints.append {between : Bool} (first : Prints seen text ts between middle)
    (second : Prints between middle us shown rest) : Prints seen text (ts ++ us) shown rest :=
  ⟨first.spells.append second.spells, first.shows.trans second.shows⟩

/-- A token, and then the rest. -/
theorem prints_token {t : Token} {chars : List Char} (spelled : t.Spelled chars)
    (ends : t.kind.runs = true → Stops isInner rest) : Prints seen (chars ++ rest) [t] true rest :=
  ⟨.token spelled ends (.nil rest), showing_token spelled seen rest⟩

theorem prints_mark {c : Char} (known : c ∈ marks) : Prints seen (c :: rest) [.mark c] true rest :=
  prints_token (.mark known) fun runs => by cases runs

theorem prints_blank : Prints seen (' ' :: rest) [] seen rest := by
  refine ⟨.space (by decide) (.nil rest), ?_⟩
  rw [showing_cons (by decide), bne_self_eq_false, Bool.or_false]

theorem prints_newline (depth : Nat) : Prints true (newline depth ++ rest) [] false rest := by
  refine ⟨.space (by decide) ?_, showing_newline depth rest⟩
  induction 2 * depth with
  | zero => exact .nil rest
  | succ n ih =>
    rw [List.replicate_succ]
    exact .space (by decide) ih

theorem stops_newline (depth : Nat) (rest : List Char) : Stops isInner (newline depth ++ rest) :=
  .cons (by decide) _

end Prints

section Parts

variable {α : Type} {write : α → List Char} {part : α → List Token}

/-- Parts are printed that have a line each, and a comma before each. -/
theorem prints_following {items : List α} {rest : List Char} (depth : Nat)
    (each : ∀ a ∈ items, ∀ seen rest, Stops isInner rest →
      Prints seen (write a ++ rest) (part a) true rest) (stops : Stops isInner rest) :
    Prints true ((items.flatMap fun a => ',' :: newline depth ++ write a) ++ rest)
        (items.flatMap fun a => .mark ',' :: part a) true rest ∧
      Stops isInner ((items.flatMap fun a => ',' :: newline depth ++ write a) ++ rest) := by
  induction items with
  | nil => exact ⟨⟨.nil rest, .rfl⟩, stops⟩
  | cons a items ih =>
    obtain ⟨others, stops'⟩ := ih fun b member => each b (List.mem_cons_of_mem a member)
    simp only [List.flatMap_cons, List.cons_append, List.append_assoc]
    exact ⟨(prints_mark (by decide)).append ((prints_newline depth).append
      ((each a List.mem_cons_self false _ stops').append others)), .cons (by decide) _⟩

theorem separated_cons (depth : Nat) (first : List Char) (others : List (List Char)) :
    separated depth (first :: others) =
      newline depth ++ first ++ others.flatMap fun other => ',' :: newline depth ++ other := by
  induction others generalizing first with
  | nil => rw [separated, List.flatMap_nil, List.append_nil]
  | cons second others ih =>
    rw [separated, ih, List.flatMap_cons]
    simp only [List.cons_append, List.append_assoc]
    intro none
    cases none

/-- **Parts between brackets are printed if each of them is**, whatever follows. -/
theorem prints_block {items : List α} {openChar closeChar : Char} (depth : Nat)
    (opens : openChar ∈ marks) (closes : closeChar ∈ marks)
    (each : ∀ a ∈ items, ∀ seen rest, Stops isInner rest →
      Prints seen (write a ++ rest) (part a) true rest) (seen : Bool) (rest : List Char) :
    Prints seen (block depth openChar closeChar (items.map write) ++ rest)
      (enclosed openChar closeChar (items.map part)) true rest := by
  cases items with
  | nil => exact (prints_mark opens).append (prints_mark closes)
  | cons a items =>
    have others := prints_following (depth + 1)
      (fun b member => each b (List.mem_cons_of_mem a member))
      (stops_newline depth (closeChar :: rest))
    have last : Prints true (newline depth ++ closeChar :: rest) [.mark closeChar] true rest :=
      (prints_newline depth).append (prints_mark closes)
    simp only [List.map_cons, block, separated_cons, enclosed, listed, List.flatMap_map,
      List.cons_append, List.append_assoc, List.nil_append]
    exact (prints_mark opens).append ((prints_newline (depth + 1)).append
      ((each a List.mem_cons_self false _ others.2).append (others.1.append last)))

end Parts

/-! ## 4. Printed values -/

/-- A member of an object in its printed form. -/
def prettyEntry (depth : Nat) (member : String × Json) : List Char :=
  stringChars member.1 ++ ':' :: ' ' :: prettyChars depth member.2

theorem prettyItems_eq (depth : Nat) (items : List Json) :
    prettyItems depth items = items.map (prettyChars depth) := by
  induction items with
  | nil => rfl
  | cons item rest ih => rw [prettyItems, ih, List.map_cons]

theorem prettyMembers_eq (depth : Nat) (members : List (String × Json)) :
    prettyMembers depth members = members.map (prettyEntry depth) := by
  induction members with
  | nil => rfl
  | cons member rest ih => rw [prettyMembers, ih, List.map_cons, prettyEntry]

/-- **A value is printed as its tokens**, at every level, and whatever follows. -/
theorem prints_prettyChars (value : Json) : ∀ depth seen rest, Stops isInner rest →
    Prints seen (prettyChars depth value ++ rest) value.tokens true rest := by
  induction value using induct with
  | null => exact fun _ _ _ stops => prints_token .null fun _ => stops
  | bool b =>
    intro depth seen rest stops
    cases b with
    | true => exact prints_token .yes fun _ => stops
    | false => exact prints_token .no fun _ => stops
  | number n => exact fun _ _ _ stops => prints_token (spelled_decimalInt n) fun _ => stops
  | text s => exact fun _ _ _ stops => prints_token (spelled_stringChars s) fun _ => stops
  | list items ih =>
    intro depth seen rest _
    rw [prettyChars, prettyItems_eq, tokens, itemTokens_eq]
    exact prints_block depth (by decide) (by decide) (fun item member => ih item member _) seen rest
  | object members ih =>
    have entry : ∀ member ∈ members, ∀ depth seen rest, Stops isInner rest →
        Prints seen (prettyEntry depth member ++ rest) (entryTokens member) true rest := by
      intro member inside depth seen rest stops
      simp only [prettyEntry, List.append_assoc, List.cons_append]
      exact (prints_token (spelled_stringChars _) fun runs => by cases runs).append
        ((prints_mark (by decide)).append (prints_blank.append
          (ih member inside depth true rest stops)))
    intro depth seen rest _
    rw [prettyChars, prettyMembers_eq, tokens, memberTokens_eq]
    exact prints_block depth (by decide) (by decide) (fun member inside => entry member inside _)
      seen rest

/-! ## 5. The printed form -/

variable (value : Json)

theorem prints_pretty {rest : List Char} (stops : Stops isInner rest) :
    Prints false (value.pretty.toList ++ rest) value.tokens true rest := by
  rw [pretty, String.toList_ofList]
  exact prints_prettyChars value 0 false rest stops

theorem prints_pretty_alone : Prints false value.pretty.toList value.tokens true [] := by
  have printed := prints_pretty value (Stops.nil isInner)
  rw [List.append_nil] at printed
  exact printed

/-- **The printed form of a value is its tokens, with blanks and line feeds between them.** -/
theorem spells_pretty : Spells [' ', '\n'] value.pretty.toList value.tokens [] :=
  (prints_pretty_alone value).spells

/-- **The printed form of a value denotes it, and no other value.** -/
theorem denotes_pretty_iff (other : Json) : Denotes value.pretty.toList other ↔ other = value := by
  have denotes : Denotes value.pretty.toList value := (spells_pretty value).widen (by decide)
  constructor
  · exact fun second => Denotes.unique second denotes
  · rintro rfl
    exact denotes

/-- An object with a list in it. -/
example : (Json.object [("a\n", .list [.number (-1), .list []])]).pretty =
    "\x7b\n  \"a\\n\": [\n    -1,\n    []\n  ]\n\x7d" := by
  decide

/-- **Every line of the printed form shows something.** -/
theorem lines_pretty : ∀ line ∈ value.pretty.toList.splitOn '\n', ∃ c ∈ line, c ≠ ' ' := by
  have showing : Showing false value.pretty.toList := (prints_pretty_alone value).shows.mpr rfl
  obtain ⟨first, others, lines⟩ :=
    List.exists_cons_of_ne_nil (List.splitOn_ne_nil '\n' value.pretty.toList)
  obtain ⟨shown, behind⟩ := (showing_iff lines).mp showing
  rw [lines]
  exact List.forall_mem_cons.mpr ⟨shown.resolve_left Bool.false_ne_true, behind⟩

/-- **No character below U+0020 stands in the printed form but line feeds.** -/
theorem raw_pretty : ∀ c ∈ value.pretty.toList, c.toNat < 0x20 → c = '\n' := by
  intro c member low
  rcases (spells_pretty value).mem_cases member with between | ⟨t, chars, spelled, inside⟩ | left
  · have blanks : ∀ b ∈ [' ', '\n'], b.toNat < 0x20 → b = '\n' := by decide
    exact blanks c between low
  · exact absurd low (Nat.not_lt.mpr (spelled.printing c inside))
  · cases left

end ControlPlane.Json
