import ControlPlane.Text.Quoted

/-!
# Texts written piece by piece

Between quotes each character of a text is written as a piece of its own: itself, a name behind a
backslash, or a number. Whether the text can be told from its pieces is a matter of the pieces alone:

* `hexNumber?` -- the number that hexadecimal digits denote; `hexNumber?_hexadecimal` -- **the digits
  of a number denote it**;
* `Stops`, `run_cut` -- a run of characters of one kind ends in one place only;
* `Pieces` -- a text as a row of pieces, each in one of the ways to write a character;
  `pieces_flatMap`, `Pieces.forall_mem` -- how such rows come about, and what they are made of;
* `Separable` -- ways that can be told apart whatever follows, and from a closing quote;
* `Pieces.cut` -- **then a text between quotes can be read in one way only.**
-/

namespace ControlPlane.Text

/-! ## 1. Hexadecimal digits -/

/-- The value of a hexadecimal digit, in lower or in upper case. -/
def hexDigit? (c : Char) : Option Nat :=
  if 48 ≤ c.toNat ∧ c.toNat ≤ 57 then some (c.toNat - 48)
  else if 97 ≤ c.toNat ∧ c.toNat ≤ 102 then some (c.toNat - 87)
  else if 65 ≤ c.toNat ∧ c.toNat ≤ 70 then some (c.toNat - 55)
  else none

/-- The number that hexadecimal digits denote, behind those that denote `acc`. -/
def hexFrom? (acc : Nat) : List Char → Option Nat
  | [] => some acc
  | c :: rest =>
    match hexDigit? c with
    | none => none
    | some d => hexFrom? (16 * acc + d) rest

/-- The number that hexadecimal digits denote. -/
def hexNumber? (digits : List Char) : Option Nat := hexFrom? 0 digits

theorem hexDigit?_digitChar {d : Nat} (small : d < 16) : hexDigit? (Nat.digitChar d) = some d := by
  have all : ∀ d < 16, hexDigit? (Nat.digitChar d) = some d := by decide
  exact all d small

theorem hexFrom?_append {acc m : Nat} {first others : List Char}
    (read : hexFrom? acc first = some m) : hexFrom? acc (first ++ others) = hexFrom? m others := by
  induction first generalizing acc with
  | nil => rw [Option.some.inj read, List.nil_append]
  | cons c rest ih =>
    rw [hexFrom?] at read
    rw [List.cons_append, hexFrom?]
    cases value : hexDigit? c with
    | none =>
      rw [value] at read
      cases read
    | some d =>
      rw [value] at read
      exact ih read

/-- **The digits of a number denote it.** -/
theorem hexNumber?_hexadecimal (n : Nat) : hexNumber? (hexadecimal n) = some n := by
  induction n using Nat.strongRecOn with
  | ind n ih =>
    by_cases small : n < 16
    · rw [hexadecimal, Nat.toDigits_of_lt_base small, hexNumber?, hexFrom?,
        hexDigit?_digitChar small]
      exact congrArg some (Nat.zero_add n)
    · have before : hexFrom? 0 (hexadecimal (n / 16)) = some (n / 16) := ih _ (by omega)
      rw [hexadecimal, Nat.toDigits_of_base_le (by decide) (Nat.not_lt.mp small), hexNumber?,
        ← hexadecimal, hexFrom?_append before, hexFrom?,
        hexDigit?_digitChar (Nat.mod_lt n (by decide))]
      exact congrArg some (Nat.div_add_mod n 16)

/-- Whether a character is a hexadecimal digit. -/
def isHexDigit (c : Char) : Bool := (hexDigit? c).isSome

/-- What denotes a number is digits. -/
theorem isHexDigit_of_read {acc n : Nat} {digits : List Char} {c : Char}
    (read : hexFrom? acc digits = some n) (member : c ∈ digits) : isHexDigit c = true := by
  induction digits generalizing acc with
  | nil => cases member
  | cons first rest ih =>
    rw [hexFrom?] at read
    cases value : hexDigit? first with
    | none =>
      rw [value] at read
      cases read
    | some d =>
      rw [value] at read
      rcases List.mem_cons.mp member with rfl | later
      · rw [isHexDigit, value]
        rfl
      · exact ih read later

theorem isHexDigit_of_mem {n : Nat} {c : Char} (member : c ∈ hexadecimal n) :
    isHexDigit c = true :=
  isHexDigit_of_read (hexNumber?_hexadecimal n) member

theorem range_of_isHexDigit {c : Char} (digit : isHexDigit c = true) :
    48 ≤ c.toNat ∧ c.toNat ≤ 102 := by
  unfold isHexDigit hexDigit? at digit
  split at digit
  · omega
  · split at digit
    · omega
    · split at digit
      · omega
      · cases digit

/-! ## 2. Runs of one kind -/

/-- What all characters of a text have in common is decided along the text, and not by trying all
    characters there are. -/
instance decidableAlong (text : List Char) (p : Char → Prop) [DecidablePred p] :
    Decidable (∀ c ∈ text, p c) :=
  List.decidableBAll p text

/-- A text that does not go on with a character of a kind. -/
def Stops (kind : Char → Bool) (text : List Char) : Prop :=
  ∀ c rest, text = c :: rest → kind c = false

theorem Stops.nil (kind : Char → Bool) : Stops kind [] := fun _ _ none => by cases none

theorem Stops.cons {kind : Char → Bool} {c : Char} (other : kind c = false) (rest : List Char) :
    Stops kind (c :: rest) := by
  intro d behind same
  rw [← (List.cons.inj same).1]
  exact other

theorem takeWhile_run {kind : Char → Bool} {run rest : List Char}
    (all : ∀ c ∈ run, kind c = true) (stops : Stops kind rest) :
    (run ++ rest).takeWhile kind = run := by
  have none : rest.takeWhile kind = [] := by
    cases rest with
    | nil => rfl
    | cons c behind =>
      rw [List.takeWhile_cons_of_neg]
      rw [stops c behind rfl]
      exact Bool.false_ne_true
  rw [List.takeWhile_append_of_pos all, none, List.append_nil]

/-- **A run of characters of one kind ends in one place only.** -/
theorem run_cut {kind : Char → Bool} {run other rest rest' : List Char}
    (all : ∀ c ∈ run, kind c = true) (all' : ∀ c ∈ other, kind c = true)
    (stops : Stops kind rest) (stops' : Stops kind rest') (same : run ++ rest = other ++ rest') :
    run = other ∧ rest = rest' := by
  have runs : run = other := by
    rw [← takeWhile_run all stops, same, takeWhile_run all' stops']
  subst runs
  exact ⟨rfl, List.append_cancel_left same⟩

/-! ## 3. Rows of pieces -/

/-- **A text as a row of pieces**, each of which is written for a character in one of the ways. -/
inductive Pieces (way : List Char → Char → Prop) : List Char → List Char → Prop
  | nil : Pieces way [] []
  | cons {piece rest : List Char} {c : Char} {cs : List Char} (first : way piece c)
      (others : Pieces way rest cs) : Pieces way (piece ++ rest) (c :: cs)

/-- **Ways to write characters that can be told apart**: whatever follows, two pieces at the same
    place are the same piece, and no piece stands where a quote does. -/
structure Separable (way : List Char → Char → Prop) : Prop where
  cut : ∀ {piece other : List Char} {c d : Char} {rest rest' : List Char}, way piece c →
    way other d → piece ++ rest = other ++ rest' → c = d ∧ rest = rest'
  unquoted : ∀ {piece : List Char} {c : Char} {rest rest' : List Char}, way piece c →
    piece ++ rest ≠ '"' :: rest'

variable {way : List Char → Char → Prop}

/-- One character has a piece of its own, and the others have another. -/
theorem written_ite {c x : Char} {piece other : List Char} (one : way piece x)
    (others : c ≠ x → way other c) : way (if c = x then piece else other) c := by
  by_cases same : c = x
  · rw [if_pos same, same]
    exact one
  · rw [if_neg same]
    exact others same

/-- A character after the other, each in a way of its own. -/
theorem pieces_flatMap {write : Char → List Char} (written : ∀ c, way (write c) c)
    (cs : List Char) : Pieces way (cs.flatMap write) cs := by
  induction cs with
  | nil => exact .nil
  | cons c cs ih => exact .cons (written c) ih

/-- What holds of the characters of every piece holds of those of the text. -/
theorem Pieces.forall_mem {P : Char → Prop} {text cs : List Char}
    (each : ∀ piece c, way piece c → ∀ x ∈ piece, P x) (row : Pieces way text cs) :
    ∀ x ∈ text, P x := by
  induction row with
  | nil => exact fun _ member => by cases member
  | cons first _ ih => exact List.forall_mem_append.mpr ⟨each _ _ first, ih⟩

/-- **What stands before a closing quote can be read in one way only.** -/
theorem Pieces.cut {text other cs ds rest rest' : List Char} (separable : Separable way)
    (first : Pieces way text cs) (second : Pieces way other ds)
    (same : text ++ '"' :: rest = other ++ '"' :: rest') : cs = ds ∧ rest = rest' := by
  induction first generalizing other ds with
  | nil =>
    cases second with
    | nil => exact ⟨rfl, (List.cons.inj same).2⟩
    | cons way _ =>
      rw [List.append_assoc] at same
      exact absurd same.symm (separable.unquoted way)
  | cons way _ ih =>
    cases second with
    | nil =>
      rw [List.append_assoc] at same
      exact absurd same (separable.unquoted way)
    | cons way' others' =>
      rw [List.append_assoc, List.append_assoc] at same
      obtain ⟨rfl, tails⟩ := separable.cut way way' same
      obtain ⟨rfl, behind⟩ := ih others' tails
      exact ⟨rfl, behind⟩

end ControlPlane.Text
