import ControlPlane.Proofs.Wire.Arrangement
import ControlPlane.Proofs.Wire.Scalar

/-!
# How many octets are written

* `length_varint`, `length_delimited` -- the octets of a number and of a counted content;
* `length_encode` -- **the octets of a message are as many as its length says**;
* `encodedLength_rearranged` -- the order of labels does not change the length.
-/

namespace ControlPlane.Wire

open List (Forall₂)
open Text

/-! ## 1. Parts of a record -/

theorem length_groups (places n : Nat) : (groups places n).length = groupCount places n := by
  induction places generalizing n with
  | zero => rfl
  | succ places ih =>
    rw [groups, groupCount]
    split
    · rfl
    · rw [List.length_cons, ih]

theorem length_varint (n : Nat) : (varint n).length = varintLength n := length_groups 10 n

/-- What a number adds to one in its lowest group does not count. -/
theorem groupCount_congr {m n : Nat} (places : Nat) (last : m < 128 ↔ n < 128)
    (others : m / 128 = n / 128) : groupCount places m = groupCount places n := by
  cases places with
  | zero => rfl
  | succ places =>
    rw [groupCount, groupCount, others]
    simp only [last]

/-- The wire type has no part in the length of a key: it does not reach the second group. -/
theorem length_fieldKey (number : Nat) (type : WireType) :
    (fieldKey number type).length = keyLength number := by
  have form := number_lt type
  rw [fieldKey, length_varint, keyLength]
  exact groupCount_congr 10 (by omega) (by omega)

theorem length_numeric (number n : Nat) : (numeric number n).length = numericLength number n := by
  rw [numeric, List.length_append, length_fieldKey, length_varint, numericLength]

/-- The octets of a counted content. -/
theorem length_delimited (number : Nat) (content : List UInt8) :
    (delimited number content).length = delimitedLength number content.length := by
  rw [delimited, List.length_append, List.length_append, length_fieldKey, length_varint,
    delimitedLength]

theorem length_textual (number : Nat) (s : String) :
    (textual number s).length = textualLength number s := length_delimited number (utf8 s)

theorem length_textualUnlessEmpty (number : Nat) (s : String) :
    (textualUnlessEmpty number s).length = textualUnlessEmptyLength number s := by
  rw [textualUnlessEmpty, textualUnlessEmptyLength]
  split
  · rfl
  · exact length_textual number s

theorem length_labelContent (entry : String × String) :
    (labelContent entry).length = labelLength entry := by
  rw [labelContent, List.length_append, length_textualUnlessEmpty, length_textualUnlessEmpty,
    labelLength]

/-! ## 2. Messages -/

mutual

/-- **The octets of a field are as many as its length says.** -/
theorem length_encodeValue (number : Nat) :
    ∀ v : Value, (encodeValue number v).length = valueLength number v
  | .text s => length_textualUnlessEmpty number s
  | .int64 n => by
    show _ = if n = 0 then 0 else numericLength number (ofInt64 n)
    rw [encodeValue]
    split
    · rfl
    · exact length_numeric number _
  | .int32 n => by
    show _ = if n = 0 then 0 else numericLength number (ofInt32 n)
    rw [encodeValue]
    split
    · rfl
    · exact length_numeric number _
  | .flag b => by
    show _ = if b then numericLength number 1 else 0
    rw [encodeValue]
    split
    · exact length_numeric number 1
    · rfl
  | .texts items => by
    rw [encodeValue, List.length_flatMap]
    simp only [length_textual]
    rfl
  | .labels entries => by
    rw [encodeValue, List.length_flatMap]
    simp only [length_delimited, length_labelContent]
    rfl
  | .absent => rfl
  | .message values => by
    rw [encodeValue, length_delimited, length_encodeFrom 1 values]
    rfl
  | .messages items => by
    rw [encodeValue, length_encodeItems number items]
    rfl

theorem length_encodeFrom (number : Nat) :
    ∀ values : List Value, (encodeFrom number values).length = lengthFrom number values
  | [] => rfl
  | v :: rest => by
    rw [encodeFrom, lengthFrom, List.length_append, length_encodeValue number v,
      length_encodeFrom (number + 1) rest]

theorem length_encodeItems (number : Nat) :
    ∀ items : List (List Value), (encodeItems number items).length = itemsLength number items
  | [] => rfl
  | values :: rest => by
    rw [encodeItems, itemsLength, List.length_append, length_delimited,
      length_encodeFrom 1 values, length_encodeItems number rest]

end

/-- **The octets of a message are as many as its length says.** -/
theorem length_encode (values : List Value) : (encode values).length = encodedLength values :=
  length_encodeFrom 1 values

/-! ## 3. The order of labels -/

mutual

theorem valueLength_rearranged (number : Nat) :
    ∀ {v w : Value}, Rearranged v w → valueLength number w = valueLength number v
  | _, _, .same _ => rfl
  | .labels _, _, .labels order => (order.map _).sum_nat
  | .message _, _, .message inner =>
    congrArg (delimitedLength number) (lengthFrom_rearranged 1 inner)
  | .messages _, _, .messages inner => itemsLength_rearranged number inner

theorem lengthFrom_rearranged (number : Nat) :
    ∀ {values written : List Value}, Forall₂ Rearranged values written →
      lengthFrom number written = lengthFrom number values
  | _, _, .nil => rfl
  | _ :: _, _, .cons first others => by
    rw [lengthFrom, lengthFrom, valueLength_rearranged number first,
      lengthFrom_rearranged (number + 1) others]

theorem itemsLength_rearranged (number : Nat) :
    ∀ {items written : List (List Value)}, Forall₂ (Forall₂ Rearranged) items written →
      itemsLength number written = itemsLength number items
  | _, _, .nil => rfl
  | _ :: _, _, .cons first others => by
    rw [itemsLength, itemsLength, lengthFrom_rearranged 1 first,
      itemsLength_rearranged number others]

end

/-- **The order of labels does not change the length.** -/
theorem encodedLength_rearranged {values written : List Value}
    (arranged : Forall₂ Rearranged values written) : encodedLength written = encodedLength values :=
  lengthFrom_rearranged 1 arranged

end ControlPlane.Wire
