import ControlPlane.Proofs.Wire.Reading

/-!
# What one reader accepts the other accepts too

The reader that skips fields that are not defined checks the depth at each of them, the one that
keeps them apart at groups only; otherwise they read alike. So the second is the more lenient, and
where both accept they agree:

* `Lenient` -- a reader that gives whatever another gives;
* `Lenient.readRecords`, `Lenient.readNested` -- what holds of one record holds of many;
* `skipField_lenient`, `mergeRecord_lenient`, `recordReader_lenient` -- skipping, one record of a
  message, and records at any depth;
* `decode_keep_of_skip` -- **octets that are read by the skipping reader are read by the other one,
  as the same values**.
-/

namespace ControlPlane.Wire

/-! ## 1. Readers -/

/-- **A reader that gives whatever another gives.** -/
def Lenient {σ : Type} (read read' : σ → List UInt8 → Reading σ) : Prop :=
  ∀ ⦃s : σ⦄ ⦃octets : List UInt8⦄ ⦃r : σ × List UInt8⦄,
    read s octets = .ok r → read' s octets = .ok r

namespace Lenient

variable {σ : Type} {read read' : σ → List UInt8 → Reading σ}

theorem readRecords (h : Lenient read read') (limit fuel : Nat) {s : σ} {octets : List UInt8}
    {r : σ × List UInt8} (accepted : Wire.readRecords read limit fuel s octets = .ok r) :
    Wire.readRecords read' limit fuel s octets = .ok r := by
  induction fuel generalizing s octets with
  | zero => exact accepted
  | succ fuel ih =>
    rw [Wire.readRecords] at accepted ⊢
    split at accepted
    · rename_i more
      rw [if_pos more]
      cases first : read s octets with
      | error => simp only [first, reduceCtorEq] at accepted
      | ok next =>
        simp only [first] at accepted
        simp only [h first]
        exact ih accepted
    · rename_i last
      rw [if_neg last]
      exact accepted

theorem readNested (h : Lenient read read') {s : σ} {octets : List UInt8} {r : σ × List UInt8}
    (accepted : Wire.readNested read s octets = .ok r) :
    Wire.readNested read' s octets = .ok r := by
  obtain ⟨count, inside, counted, enough, left, records⟩ := readNested_eq_ok_iff.mp accepted
  exact readNested_eq_ok_iff.mpr
    ⟨count, inside, counted, enough, left, h.readRecords _ _ records⟩

end Lenient

/-! ## 2. Fields that are not defined -/

theorem skipPlain_lenient {type : WireType} {octets rest : List UInt8}
    (accepted : skipPlain .skip type octets = .ok rest) :
    skipPlain .keep type octets = .ok rest := by
  cases type with
  | varint => exact accepted
  | sixtyFourBit => exact accepted
  | lengthDelimited => exact accepted
  | startGroup => cases accepted
  | endGroup => cases accepted
  | thirtyTwoBit => exact accepted

theorem skipGroup_lenient
    {skip skip' : Nat → WireType → List UInt8 → Except Fault (List UInt8)}
    (h : ∀ inner type octets rest, skip inner type octets = .ok rest →
      skip' inner type octets = .ok rest) (number fuel : Nat) {octets rest : List UInt8}
    (accepted : skipGroup skip number fuel octets = .ok rest) :
    skipGroup skip' number fuel octets = .ok rest := by
  induction fuel generalizing octets with
  | zero => cases accepted
  | succ fuel ih =>
    obtain ⟨inner, type, after, key, ended | ⟨more, others, first, later⟩⟩ :=
      skipGroup_eq_ok_iff.mp accepted
    · exact skipGroup_eq_ok_iff.mpr ⟨inner, type, after, key, .inl ended⟩
    · refine skipGroup_eq_ok_iff.mpr ⟨inner, type, after, key, .inr ⟨more, others, ?_, ih later⟩⟩
      exact h inner type after others first

/-- **What is skipped where the depth is always checked is skipped where it is not.** -/
theorem skipField_lenient (depth number : Nat) {type : WireType} {octets rest : List UInt8}
    (accepted : skipField .skip depth number type octets = .ok rest) :
    skipField .keep depth number type octets = .ok rest := by
  induction depth generalizing number type octets rest with
  | zero =>
    rw [skipField, if_pos (.inl rfl)] at accepted
    cases accepted
  | succ depth ih =>
    rw [skipField] at accepted ⊢
    split at accepted
    · rename_i group
      rw [if_pos group]
      exact skipGroup_lenient (fun inner type octets rest => ih inner) number _ accepted
    · rename_i plain
      rw [if_neg plain]
      exact skipPlain_lenient accepted

/-! ## 3. Messages -/

section Records

variable {inner inner' : Inner} {depth : Nat}

/-- The readers of nested messages, one more lenient than the other. -/
def Inner.Lenient (inner inner' : Inner) : Prop :=
  ∀ t, Wire.Lenient (readInner inner t) (readInner inner' t)

theorem mergeInner_lenient (h : inner.Lenient inner') (type : WireType) (t : MessageType)
    (values : List Value) {octets : List UInt8} (make : List Value → Value)
    {r : Value × List UInt8}
    (accepted : mergeInner inner type t values octets make = .ok r) :
    mergeInner inner' type t values octets make = .ok r := by
  obtain ⟨expected, values', read, same⟩ := mergeInner_eq_ok_iff.mp accepted
  exact mergeInner_eq_ok_iff.mpr ⟨expected, values', h t read, same⟩

/-- The content of a field is merged by both, or by the lenient one only. -/
theorem mergeValue_lenient (h : inner.Lenient inner') (f : FieldType) (v : Value)
    (type : WireType) {octets : List UInt8} {r : Value × List UInt8}
    (accepted : mergeValue inner depth f v type octets = .ok r) :
    mergeValue inner' depth f v type octets = .ok r := by
  cases f with
  | message t => exact mergeInner_lenient h type t (valuesOf t v) .message accepted
  | messages t =>
    -- whether anything was collected before decides what the message is put behind
    cases v <;> simp only [mergeValue] at accepted ⊢ <;>
      exact mergeInner_lenient h type t t.empty _ accepted
  | texts => cases v <;> exact accepted
  | labels => cases v <;> exact accepted
  | text => exact accepted
  | int64 => exact accepted
  | int32 => exact accepted
  | flag => exact accepted
  | status => exact accepted

/-- **So is a record.** -/
theorem mergeRecord_lenient (h : inner.Lenient inner') (t : MessageType) :
    Lenient (mergeRecord .skip inner depth t) (mergeRecord .keep inner' depth t) := by
  intro values octets r accepted
  obtain ⟨number, type, after, key, ⟨f, v, v', known, held, merged, same⟩ | ⟨unheld, skipped, same⟩⟩ :=
    mergeRecord_eq_ok_iff.mp accepted
  · have merged' := mergeValue_lenient h f.type v type merged
    exact mergeRecord_eq_ok_iff.mpr
      ⟨number, type, after, key, .inl ⟨f, v, v', known, held, merged', same⟩⟩
  · have skipped' := skipField_lenient depth number skipped
    exact mergeRecord_eq_ok_iff.mpr
      ⟨number, type, after, key, .inr ⟨unheld, skipped', same⟩⟩

/-- **So are records at any depth.** -/
theorem recordReader_lenient (depth : Nat) (t : MessageType) :
    Lenient (recordReader .skip depth t) (recordReader .keep depth t) := by
  induction depth generalizing t with
  | zero => exact mergeRecord_lenient (fun t values octets r accepted => by cases accepted) t
  | succ depth ih =>
    refine mergeRecord_lenient (fun t values octets r accepted => ?_) t
    have nested : readNested (recordReader .skip depth t) values octets = .ok r := accepted
    exact (ih t).readNested nested

/-- **Octets that are read by the skipping reader are read by the other one, as the same values.** -/
theorem decode_keep_of_skip {t : MessageType} {octets : List UInt8} {values : List Value}
    (accepted : decode .skip t octets = .ok values) : decode .keep t octets = .ok values := by
  obtain ⟨r, records, rfl⟩ := map_eq_ok_iff.mp accepted
  rw [decode, (recordReader_lenient maxDepth t).readRecords _ _ records]
  rfl

end Records

end ControlPlane.Wire
