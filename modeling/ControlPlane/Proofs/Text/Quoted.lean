import ControlPlane.Proofs.Text.Pieces

/-!
# Quoted texts

* `IsControl` -- the control characters; `not_isControl_of_shown` -- none of them shows;
* `Quotes` -- the ways to write a character between quotes; `quotes_quotedChar`;
* `quotes_separable` -- they can be told apart;
* `shown_quoted` -- **every character of a quoted text shows**;
* `quoted_cut`, `quoted_injective` -- **and the text can be read from it**, whatever follows.
-/

namespace ControlPlane.Text

/-! ## 1. Characters that show -/

/-- A control character, of the first or of the second row. -/
def IsControl (c : Char) : Prop := c.toNat < 0x20 ∨ 0x7f ≤ c.toNat ∧ c.toNat ≤ 0x9f

instance (c : Char) : Decidable (IsControl c) :=
  inferInstanceAs (Decidable (_ ∨ _))

/-- The first two ranges of hidden characters are those of the control characters. -/
theorem hiddenRanges_eq :
    hiddenRanges = (0x0, 0x1f) :: (0x7f, 0xa0) :: hiddenRanges.drop 2 :=
  (List.take_append_drop 2 hiddenRanges).symm

theorem not_isControl_of_shown {c : Char} (shown : isHidden c = false) : ¬ IsControl c := by
  rw [isHidden, hiddenRanges_eq] at shown
  intro control
  rcases control with first | ⟨low, high⟩
  · rw [inRanges, if_neg (Nat.not_lt_zero _), if_pos (Nat.le_of_lt_succ first)] at shown
    cases shown
  · rw [inRanges, if_neg (Nat.not_lt_zero _), if_neg (by omega), inRanges,
      if_neg (Nat.not_lt.mpr low), if_pos (by omega)] at shown
    cases shown

/-- The blank and the printing characters of ASCII show. -/
theorem shown_of_ascii {c : Char} (low : 0x20 ≤ c.toNat) (high : c.toNat < 0x7f) :
    isHidden c = false := by
  rw [isHidden, hiddenRanges_eq, inRanges, if_neg (Nat.not_lt_zero _), if_neg (by omega), inRanges,
    if_pos high]

theorem shown_of_isHexDigit {c : Char} (digit : isHexDigit c = true) : isHidden c = false := by
  have range := range_of_isHexDigit digit
  exact shown_of_ascii (by omega) (by omega)

/-! ## 2. Pieces -/

/-- The letters behind a backslash, each with what it stands for. -/
def quotedNames : List (Char × Char) :=
  [('"', '"'), ('\\', '\\'), ('0', '\x00'), ('t', '\t'), ('n', '\n'), ('r', '\r')]

/-- The ways to write a character between quotes: its name behind a backslash, its number in braces,
    or itself if it shows and is neither of the two that mark a piece. -/
inductive Quotes : List Char → Char → Prop
  | named {letter c : Char} (known : (letter, c) ∈ quotedNames) : Quotes ['\\', letter] c
  | numbered (c : Char) : Quotes ('\\' :: 'u' :: '\x7b' :: hexadecimal c.toNat ++ ['\x7d']) c
  | plain {c : Char} (quote : c ≠ '"') (backslash : c ≠ '\\') (shown : isHidden c = false) :
    Quotes [c] c

theorem quotes_quotedChar (c : Char) : Quotes (quotedChar c) c := by
  refine written_ite (.named (by decide)) fun quote => ?_
  refine written_ite (.named (by decide)) fun backslash => ?_
  -- the characters that have a name
  refine written_ite (.named (by decide)) fun _ => ?_
  refine written_ite (.named (by decide)) fun _ => ?_
  refine written_ite (.named (by decide)) fun _ => ?_
  refine written_ite (.named (by decide)) fun _ => ?_
  by_cases hidden : isHidden c = true
  · rw [if_pos hidden]
    exact .numbered c
  · rw [if_neg hidden]
    exact .plain quote backslash (eq_false_of_ne_true hidden)

/-- No name is taken twice. -/
theorem quotedNames_unique : ∀ a ∈ quotedNames, ∀ b ∈ quotedNames, a.1 = b.1 → a.2 = b.2 := by
  decide

/-- A number is no name. -/
theorem number_not_named : ∀ a ∈ quotedNames, a.1 ≠ 'u' := by
  decide

/-- Numbers in braces are told apart. -/
theorem numbered_cut {c d : Char} {rest rest' : List Char}
    (same : hexadecimal c.toNat ++ '\x7d' :: rest = hexadecimal d.toNat ++ '\x7d' :: rest') :
    c = d ∧ rest = rest' := by
  have brace : isHexDigit '\x7d' = false := by decide
  obtain ⟨digits, tails⟩ := run_cut (fun _ => isHexDigit_of_mem) (fun _ => isHexDigit_of_mem)
    (.cons brace rest) (.cons brace rest') same
  have behind : rest = rest' := (List.cons.inj tails).2
  have number := hexNumber?_hexadecimal c.toNat
  rw [digits, hexNumber?_hexadecimal] at number
  exact ⟨(Char.toNat_inj.mp (Option.some.inj number)).symm, behind⟩

theorem quotes_separable : Separable Quotes where
  cut := by
    intro piece other c d rest rest' first second same
    cases first with
    | named known =>
      cases second with
      | named known' =>
        obtain ⟨letter, behind⟩ := List.cons.inj (List.cons.inj same).2
        exact ⟨quotedNames_unique _ known _ known' letter, behind⟩
      | numbered d =>
        exact absurd (List.cons.inj (List.cons.inj same).2).1 (number_not_named _ known)
      | plain _ backslash _ => exact absurd (List.cons.inj same).1.symm backslash
    | numbered =>
      cases second with
      | named known' =>
        exact absurd (List.cons.inj (List.cons.inj same).2).1.symm (number_not_named _ known')
      | numbered d =>
        simp only [List.cons_append, List.cons.injEq, true_and, List.append_assoc,
          List.nil_append] at same
        exact numbered_cut same
      | plain _ backslash _ => exact absurd (List.cons.inj same).1.symm backslash
    | plain _ backslash _ =>
      cases second with
      | named _ => exact absurd (List.cons.inj same).1 backslash
      | numbered d => exact absurd (List.cons.inj same).1 backslash
      | plain _ _ _ => exact List.cons.inj same
  unquoted := by
    intro piece c rest rest' written same
    cases written with
    | named _ => cases (List.cons.inj same).1
    | numbered => cases (List.cons.inj same).1
    | plain quote _ _ => exact quote (List.cons.inj same).1

/-- Every character of a piece shows. -/
theorem Quotes.shown {piece : List Char} {c : Char} (written : Quotes piece c) :
    ∀ x ∈ piece, isHidden x = false := by
  have marks : ∀ x ∈ ['\\', 'u', '\x7b', '\x7d'], isHidden x = false := by decide
  cases written with
  | named known =>
    have letters : ∀ a ∈ quotedNames, isHidden a.1 = false := by decide
    intro x member
    rcases List.mem_cons.mp member with rfl | letter
    · exact marks _ (by decide)
    · rw [List.mem_singleton.mp letter]
      exact letters _ known
  | numbered =>
    intro x member
    simp only [List.cons_append, List.mem_cons, List.mem_append, List.not_mem_nil, or_false]
      at member
    rcases member with rfl | rfl | rfl | digit | rfl
    · exact marks _ (by decide)
    · exact marks _ (by decide)
    · exact marks _ (by decide)
    · exact shown_of_isHexDigit (isHexDigit_of_mem digit)
    · exact marks _ (by decide)
  | plain _ _ shown =>
    intro x member
    rw [List.mem_singleton.mp member]
    exact shown

/-! ## 3. Texts -/

/-- **Every character of a quoted text shows.** -/
theorem shown_quoted (text : String) : ∀ c ∈ (quoted text).toList, isHidden c = false := by
  have quote : isHidden '"' = false := by decide
  have inside := (pieces_flatMap quotes_quotedChar text.toList).forall_mem
    fun _ _ written => written.shown
  intro c member
  simp only [quoted, String.toList_ofList, quotedChars, List.cons_append, List.mem_cons,
    List.mem_append, List.not_mem_nil, or_false] at member
  rcases member with rfl | between | rfl
  · exact quote
  · exact inside c between
  · exact quote

/-- **A quoted text can be read, whatever follows it.** -/
theorem quoted_cut {s t : String} {rest rest' : List Char}
    (same : (quoted s).toList ++ rest = (quoted t).toList ++ rest') : s = t ∧ rest = rest' := by
  simp only [quoted, String.toList_ofList, quotedChars, List.cons_append, List.append_assoc,
    List.nil_append] at same
  obtain ⟨texts, behind⟩ := (pieces_flatMap quotes_quotedChar s.toList).cut quotes_separable
    (pieces_flatMap quotes_quotedChar t.toList) (List.cons.inj same).2
  exact ⟨String.toList_inj.mp texts, behind⟩

/-- **Texts that are quoted alike are the same.** -/
theorem quoted_injective {s t : String} (same : quoted s = quoted t) : s = t := by
  have chars : (quoted s).toList ++ [] = (quoted t).toList ++ [] := by
    rw [same]
  exact (quoted_cut chars).1

end ControlPlane.Text
