import ControlPlane.Proofs.Json.Printed
import ControlPlane.Proofs.Program.Listing

/-!
# What is printed can be read back

* `Block` -- what the text of a value is like: framed by line feeds, with no empty line in it, and
  a JSON text for the value;
* `denotesAll_printed` -- what is printed for values denotes them, one after the other;
  `denotesAll_printed_iff`, `printed_injective` -- and no others, so that they are told from it;
* `printed_read_back` -- **the text tells the values, and the block of each is JSON text for it.**
-/

namespace ControlPlane.Program

open Json Text

/-- **What the text of a value is like.** -/
structure Block (coloured : Bool) (value : Json) : Prop where
  /-- A line feed comes before the printed form, and two come behind it. -/
  framed : (Report.value value).printed coloured = "\n" ++ value.pretty ++ "\n\n"
  /-- The printed form is a JSON text for the value, and for no other. -/
  denotes : ∀ other, Denotes value.pretty.toList other ↔ other = value
  /-- Each of its lines has something on it. -/
  lines : ∀ line ∈ value.pretty.toList.splitOn '\n', ∃ c ∈ line, c ≠ ' '
  /-- Between its tokens stand blanks and line feeds only. -/
  between : Spells [' ', '\n'] value.pretty.toList value.tokens []
  /-- No character below U+0020 can stand in a token. -/
  inside : ∀ t ∈ value.tokens, ∀ chars, t.Spelled chars → ∀ c ∈ chars, 0x20 ≤ c.toNat
  /-- So none but line feeds does anywhere. -/
  raw : ∀ c ∈ value.pretty.toList, c.toNat < 0x20 → c = '\n'

theorem block_value (coloured : Bool) (value : Json) : Block coloured value where
  framed := Report.printed_value coloured value
  denotes := denotes_pretty_iff value
  lines := lines_pretty value
  between := spells_pretty value
  inside := fun _ _ _ spelled => spelled.printing
  raw := raw_pretty value

/-- **What is printed for values denotes them**, one after the other. -/
theorem denotesAll_printed (coloured : Bool) (values : List Json) :
    DenotesAll (printed coloured values).toList values := by
  induction values with
  | nil => exact .nil []
  | cons value values ih =>
    have chars : (printed coloured (value :: values)).toList =
        '\n' :: (value.pretty.toList ++ '\n' :: '\n' :: (printed coloured values).toList) := by
      rw [printed, List.map_cons, String.join_cons, ← printed, Report.printed_value]
      simp only [String.toList_append, List.append_assoc]
      rfl
    have stops : Stops isInner ('\n' :: '\n' :: (printed coloured values).toList) :=
      .cons (by decide) _
    have first := (prints_pretty value stops).spells.widen
      (show ∀ c ∈ [' ', '\n'], c ∈ white by decide)
    rw [DenotesAll, chars, List.flatMap_cons]
    exact .space (by decide) (first.append (.space (by decide) (.space (by decide) ih)))

/-- **And no other values.** -/
theorem denotesAll_printed_iff (coloured : Bool) (values others : List Json) :
    DenotesAll (printed coloured values).toList others ↔ others = values := by
  constructor
  · exact fun read => read.unique (denotesAll_printed coloured values)
  · rintro rfl
    exact denotesAll_printed coloured others

/-- **Values that are printed alike are the same.** -/
theorem printed_injective {coloured : Bool} {values others : List Json}
    (same : printed coloured others = printed coloured values) : others = values := by
  have read := denotesAll_printed coloured others
  rw [same, denotesAll_printed_iff] at read
  exact read

/-- **What is printed can be read back.** Whatever values are printed, the text is a row of JSON
    texts for these values and for no others, so that other values are printed otherwise. Each value
    has a block of its own: a JSON text for it, with no empty line, and with no character below
    U+0020 but the line feeds between the tokens. -/
theorem printed_read_back (coloured : Bool) (values : List Json) :
    (∀ others, printed coloured others = printed coloured values ↔ others = values) ∧
      (∀ others, DenotesAll (printed coloured values).toList others ↔ others = values) ∧
      ∀ value, Block coloured value :=
  ⟨fun _ => ⟨printed_injective, congrArg (printed coloured)⟩,
    denotesAll_printed_iff coloured values, block_value coloured⟩

end ControlPlane.Program
