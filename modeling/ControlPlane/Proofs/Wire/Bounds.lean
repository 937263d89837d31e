import ControlPlane.Proofs.Wire.Length
import ControlPlane.Proofs.Wire.Reading

/-!
# No reader finds more than it reads

Octets need not be written by a writer of this schema to be read. Whatever they are, what is found in
them could be written in the octets that were taken, and a count is a number of 64 bits:

* `readVarint_bound`, `readCounted_bound`, `readText_bound` -- numbers, counted contents and texts;
* `skipField_length` -- fields that are not defined;
* `Lasting` -- what a record keeps; `Lasting.readRecords`, `Lasting.readNested` -- all records keep it;
* `readLabel_bound` -- **a label that is read could be written in the octets that its count says**.
-/

namespace ControlPlane.Wire

open Text

/-! ## 1. Numbers and texts -/

/-- The groups that are read are those of a number of 64 bits, or more of them than it has. -/
theorem readGroups_bound (places : Nat) {octets rest : List UInt8} {n : Nat}
    (accepted : readGroups (places + 1) octets = some (n, rest)) :
    n < 2 * 128 ^ places ∧ groupCount (places + 1) n + rest.length ≤ octets.length := by
  induction places generalizing octets n with
  | zero =>
    cases octets with
    | nil => cases accepted
    | cons octet others =>
      rw [readGroups] at accepted
      split at accepted
      · split at accepted
        · cases accepted
        · rename_i bit
          cases accepted
          have low : octet.toNat < 2 := by
            have le : ¬ 2 ≤ octet := fun le => bit ⟨rfl, le⟩
            exact Nat.lt_of_not_le fun h => le (UInt8.le_iff_toNat_le.mpr h)
          have one : groupCount 1 octet.toNat = 1 := if_pos (by omega)
          rw [one, List.length_cons]
          omega
      · cases accepted
  | succ places ih =>
    cases octets with
    | nil => cases accepted
    | cons octet others =>
      have wide : 0 < 128 ^ places := Nat.pow_pos (by decide)
      rw [readGroups] at accepted
      split at accepted
      · rename_i less
        rw [if_neg fun h => Nat.succ_ne_zero places h.1] at accepted
        cases accepted
        have low : octet.toNat < 128 := UInt8.lt_iff_toNat_lt.mp less
        have one : groupCount (places + 2) octet.toNat = 1 := if_pos low
        rw [one, List.length_cons, Nat.pow_succ]
        omega
      · rename_i high
        cases later : readGroups (places + 1) others with
        | none => simp only [later, reduceCtorEq] at accepted
        | some read =>
          obtain ⟨m, after⟩ := read
          simp only [later, Option.some.injEq, Prod.mk.injEq] at accepted
          obtain ⟨rfl, rfl⟩ := accepted
          obtain ⟨bound, length⟩ := ih later
          have top := octet.toNat_lt
          have least : 128 ≤ octet.toNat :=
            Nat.le_of_not_lt fun h => high (UInt8.lt_iff_toNat_lt.mpr h)
          have tenth : (octet.toNat - 128 + 128 * m) / 128 = m := by omega
          refine ⟨?_, ?_⟩
          · rw [Nat.pow_succ]
            omega
          · rw [groupCount, tenth, List.length_cons]
            split
            · omega
            · omega

/-- **A number that is read has 64 bits**, and its octets would fit those that were taken. -/
theorem readVarint_bound {octets rest : List UInt8} {n : Nat}
    (accepted : readVarint octets = some (n, rest)) :
    n < 2 ^ 64 ∧ varintLength n + rest.length ≤ octets.length := by
  obtain ⟨bound, length⟩ := readGroups_bound 9 accepted
  exact ⟨by omega, length⟩

theorem readNumber_bound {octets rest : List UInt8} {n : Nat}
    (accepted : readNumber octets = .ok (n, rest)) :
    n < 2 ^ 64 ∧ varintLength n + rest.length ≤ octets.length := by
  unfold readNumber at accepted
  cases read : readVarint octets with
  | none => simp only [read, reduceCtorEq] at accepted
  | some reading =>
    simp only [read, Except.ok.injEq] at accepted
    subst accepted
    exact readVarint_bound read

theorem varintLength_pos (n : Nat) : 0 < varintLength n := by
  rw [varintLength, groupCount]
  split
  · exact Nat.one_pos
  · exact Nat.succ_pos _

theorem groupCount_le (places n : Nat) : groupCount places n ≤ places := by
  induction places generalizing n with
  | zero => exact Nat.le_refl 0
  | succ places ih =>
    rw [groupCount]
    split
    · exact Nat.succ_pos places
    · exact Nat.succ_le_succ (ih (n / 128))

theorem varintLength_le (n : Nat) : varintLength n ≤ 10 := groupCount_le 10 n

/-- A key takes an octet at least. -/
theorem readKey_length {octets rest : List UInt8} {key : Nat × WireType}
    (accepted : readKey octets = .ok (key, rest)) : rest.length + 1 ≤ octets.length := by
  unfold readKey at accepted
  cases read : readNumber octets with
  | error => simp only [read, reduceCtorEq] at accepted
  | ok reading =>
    obtain ⟨n, after⟩ := reading
    have same : after = rest := by
      simp only [read] at accepted
      split at accepted
      · cases accepted
      · split at accepted
        · cases accepted
        · split at accepted
          · cases accepted
          · cases accepted
            rfl
    have bound := (readNumber_bound read).2
    have some := varintLength_pos n
    rw [same] at bound
    omega

theorem readOctets_bound {count : Nat} {octets content rest : List UInt8}
    (accepted : readOctets count octets = .ok (content, rest)) :
    content.length = count ∧ count + rest.length = octets.length := by
  unfold readOctets at accepted
  split at accepted
  · cases accepted
  · cases accepted
    rw [List.length_take, List.length_drop]
    omega

/-- **A counted content has a length of 64 bits**, and its count would fit what was taken. -/
theorem readCounted_bound {octets content rest : List UInt8}
    (accepted : readCounted octets = .ok (content, rest)) :
    content.length < 2 ^ 64 ∧
      varintLength content.length + content.length + rest.length ≤ octets.length := by
  unfold readCounted at accepted
  cases read : readNumber octets with
  | error => simp only [read, reduceCtorEq] at accepted
  | ok reading =>
    obtain ⟨count, after⟩ := reading
    simp only [read] at accepted
    obtain ⟨rfl, length⟩ := readOctets_bound accepted
    obtain ⟨bound, taken⟩ := readNumber_bound read
    exact ⟨bound, by omega⟩

/-- Octets that spell a text are the octets of it. -/
theorem utf8_of_ofUtf8? {octets : List UInt8} {s : String} (h : ofUtf8? octets = some s) :
    utf8 s = octets := by
  rw [ofUtf8?, String.fromUTF8?] at h
  split at h
  · cases h
    rfl
  · cases h

/-- **So it is for a text.** -/
theorem readText_bound {octets rest : List UInt8} {s : String}
    (accepted : readText octets = .ok (s, rest)) :
    (utf8 s).length < 2 ^ 64 ∧
      varintLength (utf8 s).length + (utf8 s).length + rest.length ≤ octets.length := by
  unfold readText at accepted
  cases read : readCounted octets with
  | error => simp only [read, reduceCtorEq] at accepted
  | ok reading =>
    obtain ⟨content, after⟩ := reading
    simp only [read] at accepted
    cases spelt : ofUtf8? content with
    | none => simp only [spelt, reduceCtorEq] at accepted
    | some s' =>
      simp only [spelt, Except.ok.injEq, Prod.mk.injEq] at accepted
      obtain ⟨rfl, rfl⟩ := accepted
      rw [utf8_of_ofUtf8? spelt]
      exact readCounted_bound read

/-! ## 2. Fields that are not defined -/

theorem skipPlain_length {unknown : Unknown} {type : WireType} {octets rest : List UInt8}
    (accepted : skipPlain unknown type octets = .ok rest) : rest.length ≤ octets.length := by
  cases type with
  | varint =>
    obtain ⟨⟨n, after⟩, read, rfl⟩ := map_eq_ok_iff.mp accepted
    have bound := (readNumber_bound read).2
    show after.length ≤ octets.length
    omega
  | sixtyFourBit =>
    obtain ⟨⟨content, after⟩, read, rfl⟩ := map_eq_ok_iff.mp accepted
    have bound := (readOctets_bound read).2
    show after.length ≤ octets.length
    omega
  | lengthDelimited =>
    obtain ⟨⟨content, after⟩, read, rfl⟩ := map_eq_ok_iff.mp accepted
    have bound := (readCounted_bound read).2
    show after.length ≤ octets.length
    omega
  | startGroup => cases unknown <;> cases accepted
  | endGroup => cases unknown <;> cases accepted
  | thirtyTwoBit =>
    obtain ⟨⟨content, after⟩, read, rfl⟩ := map_eq_ok_iff.mp accepted
    have bound := (readOctets_bound read).2
    show after.length ≤ octets.length
    omega

theorem skipGroup_length {skip : Nat → WireType → List UInt8 → Except Fault (List UInt8)}
    (h : ∀ inner type octets rest, skip inner type octets = .ok rest →
      rest.length ≤ octets.length) (number fuel : Nat) {octets rest : List UInt8}
    (accepted : skipGroup skip number fuel octets = .ok rest) : rest.length ≤ octets.length := by
  induction fuel generalizing octets with
  | zero => cases accepted
  | succ fuel ih =>
    obtain ⟨inner, type, after, key, ⟨_, _, rfl⟩ | ⟨_, others, first, later⟩⟩ :=
      skipGroup_eq_ok_iff.mp accepted
    · have taken := readKey_length key
      omega
    · have taken := readKey_length key
      have one := h _ _ _ _ first
      have more := ih later
      omega

/-- **What is skipped leaves no more octets than there were.** -/
theorem skipField_length {unknown : Unknown} (depth number : Nat) {type : WireType}
    {octets rest : List UInt8} (accepted : skipField unknown depth number type octets = .ok rest) :
    rest.length ≤ octets.length := by
  induction depth generalizing number type octets rest with
  | zero =>
    rw [skipField] at accepted
    split at accepted
    · cases accepted
    · exact skipPlain_length accepted
  | succ depth ih =>
    rw [skipField] at accepted
    split at accepted
    · exact skipGroup_length (fun inner type octets rest => ih inner) number _ accepted
    · exact skipPlain_length accepted

/-! ## 3. Records -/

/-- **What a record keeps**, of a state and the octets that are left. -/
def Lasting {σ : Type} (read : σ → List UInt8 → Reading σ) (P : σ → List UInt8 → Prop) : Prop :=
  ∀ ⦃s s' : σ⦄ ⦃octets rest : List UInt8⦄, P s octets → read s octets = .ok (s', rest) → P s' rest

namespace Lasting

variable {σ : Type} {read : σ → List UInt8 → Reading σ} {P : σ → List UInt8 → Prop}

/-- **All records keep it.** -/
theorem readRecords (h : Lasting read P) (limit fuel : Nat) {s s' : σ} {octets rest : List UInt8}
    (before : P s octets) (accepted : Wire.readRecords read limit fuel s octets = .ok (s', rest)) :
    P s' rest := by
  induction fuel generalizing s octets with
  | zero =>
    cases accepted
    exact before
  | succ fuel ih =>
    rw [Wire.readRecords] at accepted
    split at accepted
    · cases first : read s octets with
      | error => simp only [first, reduceCtorEq] at accepted
      | ok next =>
        simp only [first] at accepted
        exact ih (h before first) accepted
    · cases accepted
      exact before

/-- So do those of a nested content. -/
theorem readNested (h : Lasting read P) {s s' : σ} {octets rest : List UInt8}
    (before : ∀ inside, P s inside)
    (accepted : Wire.readNested read s octets = .ok (s', rest)) : P s' rest := by
  obtain ⟨count, inside, _, _, _, records⟩ := readNested_eq_ok_iff.mp accepted
  exact h.readRecords _ _ (before inside) records

end Lasting

/-! ## 4. Labels -/

theorem mergeLabel_text_bound (number : Nat) {s : String} {octets rest : List UInt8}
    (one : keyLength number = 1) (accepted : readText octets = .ok (s, rest)) :
    textualUnlessEmptyLength number s + rest.length ≤ octets.length + 1 := by
  have bound := (readText_bound accepted).2
  have same : (utf8 s).length = s.utf8ByteSize := rfl
  rw [textualUnlessEmptyLength, textualLength, delimitedLength, one, ← same]
  split
  · omega
  · omega

/-- **A record adds no more to a label than it takes.** -/
theorem mergeLabel_bound (depth : Nat) {entry entry' : String × String} {octets rest : List UInt8}
    (accepted : mergeLabel depth entry octets = .ok (entry', rest)) :
    labelLength entry' + rest.length ≤ labelLength entry + octets.length := by
  unfold mergeLabel at accepted
  cases key : readKey octets with
  | error => simp only [key, reduceCtorEq] at accepted
  | ok read =>
    obtain ⟨⟨number, type⟩, after⟩ := read
    have taken := readKey_length key
    simp only [key] at accepted
    split at accepted
    · cases expected : expectType type .lengthDelimited with
      | error => simp only [expected, reduceCtorEq] at accepted
      | ok =>
        cases text : readText after with
        | error => simp only [expected, text, reduceCtorEq] at accepted
        | ok reading =>
          obtain ⟨s, others⟩ := reading
          simp only [expected, text, Except.ok.injEq, Prod.mk.injEq] at accepted
          obtain ⟨rfl, rfl⟩ := accepted
          -- either of the two texts takes the place of what was there
          have first := mergeLabel_text_bound 1 rfl text
          have second := mergeLabel_text_bound 2 rfl text
          split
          · simp only [labelLength]
            omega
          · simp only [labelLength]
            omega
    · obtain ⟨others, skipped, same⟩ := map_eq_ok_iff.mp accepted
      cases same
      have bound := skipField_length depth number skipped
      omega

/-- **A label that is read could be written in the octets that its count says.** -/
theorem readLabel_bound {depth : Nat} {entry : String × String} {octets rest : List UInt8}
    (accepted : readNested (mergeLabel depth) ("", "") octets = .ok (entry, rest)) :
    (labelContent entry).length < 2 ^ 64 := by
  obtain ⟨count, inside, counted, enough, left, records⟩ := readNested_eq_ok_iff.mp accepted
  have lasting : Lasting (mergeLabel depth) fun e octets =>
      labelLength e + octets.length ≤ inside.length :=
    fun e e' octets rest before accepted => Nat.le_trans (mergeLabel_bound depth accepted) before
  have empty : labelLength ("", "") = 0 := rfl
  have whole := lasting.readRecords _ _ (Nat.le_of_eq (by rw [empty, Nat.zero_add])) records
  have few := (readNumber_bound counted).1
  rw [length_labelContent]
  omega

end ControlPlane.Wire
