import ControlPlane.Proofs.Render.Direct
import ControlPlane.Proofs.Time.Instant

/-!
# Nothing is lost in rendering

Fields that hold nothing are left out, numbers become names or digits and instants become texts, and
yet the object tells what was in each field:

* `Direct.members_of_held` -- the members that are there, with the names that may be, give all members;
* `Direct.text_injective` to `Direct.time_injective` -- each kind of field is told from its member;
* `Listing.direct_injective` -- the object of an item gives the item back;
* `rendered_alike_iff` -- **items are rendered alike only if they are the same.**
-/

namespace ControlPlane

open Text Wire

namespace Direct

/-! ## 1. Members -/

theorem mem_held {members : List (String × Option Json)} {name : String} {j : Json} :
    (name, j) ∈ held members ↔ (name, some j) ∈ members := by
  rw [held, List.mem_filterMap]
  constructor
  · rintro ⟨⟨n, json⟩, here, found⟩
    cases json with
    | none => cases found
    | some k =>
      cases found
      exact here
  · exact fun here => ⟨(name, some j), here, rfl⟩

/-- A name that stands once stands once among the members that are there. -/
theorem held_names {members : List (String × Option Json)} (once : (members.map Prod.fst).Nodup) :
    ((held members).map Prod.fst).Nodup := by
  refine once.sublist ?_
  induction members with
  | nil => exact .slnil
  | cons m rest ih =>
    obtain ⟨name, json⟩ := m
    have others := ih (List.nodup_cons.mp once).2
    cases json with
    | none => exact others.cons name
    | some j => exact others.cons_cons name

/-- **The members that are there, with the names that may be, give all members.** -/
theorem members_of_held {members others : List (String × Option Json)}
    (names : members.map Prod.fst = others.map Prod.fst) (once : (members.map Prod.fst).Nodup)
    (same : ∀ name j, (name, some j) ∈ members ↔ (name, some j) ∈ others) : members = others := by
  induction members generalizing others with
  | nil => exact (List.map_eq_nil_iff.mp names.symm).symm
  | cons m rest ih =>
    obtain _ | ⟨m', rest'⟩ := others
    · cases names
    obtain ⟨name, json⟩ := m
    obtain ⟨name', json'⟩ := m'
    have firsts : name = name' := (List.cons.inj names).1
    have others : rest.map Prod.fst = rest'.map Prod.fst := (List.cons.inj names).2
    subst firsts
    obtain ⟨fresh, once⟩ := List.nodup_cons.mp once
    -- neither of the tails holds anything under the first name
    have later : ∀ j, (name, j) ∉ rest := fun j here =>
      fresh (List.mem_map.mpr ⟨(name, j), here, rfl⟩)
    have later' : ∀ j, (name, j) ∉ rest' := fun j here =>
      fresh (others ▸ List.mem_map.mpr ⟨(name, j), here, rfl⟩)
    have first : json = json' := by
      have here : ∀ j, json = some j ↔ json' = some j := by
        intro j
        have alike := same name j
        simp only [List.mem_cons, Prod.mk.injEq, true_and, later, later', or_false] at alike
        exact ⟨fun e => (alike.mp e.symm).symm, fun e => (alike.mpr e.symm).symm⟩
      exact Option.ext here
    have tails : ∀ n j, (n, some j) ∈ rest ↔ (n, some j) ∈ rest' := by
      intro n j
      by_cases e : n = name
      · subst e
        exact iff_of_false (later _) (later' _)
      · have alike := same n j
        simpa only [List.mem_cons, Prod.mk.injEq, e, false_and, false_or] using alike
    rw [first, ih others once tails]

/-- An object with names that stand once has the members that are there, in another order. -/
theorem held_of_object {members others : List (String × Option Json)}
    (names : members.map Prod.fst = others.map Prod.fst) (once : (members.map Prod.fst).Nodup)
    (same : Json.ofMembers (held members) = Json.ofMembers (held others)) : members = others := by
  have inserted : insertAll [] (held members) = insertAll [] (held others) := Json.object.inj same
  have first : (insertAll [] (held members)).Perm (held members) :=
    insertAll_perm (held_names once)
  have second : (insertAll [] (held others)).Perm (held others) :=
    insertAll_perm (held_names (names ▸ once))
  rw [inserted] at first
  have arranged : (held members).Perm (held others) := first.symm.trans second
  refine members_of_held names once fun name j => ?_
  rw [← mem_held, ← mem_held]
  exact arranged.mem_iff

/-! ## 2. Fields -/

/-- What is shown unless it is the absence of its kind is told from what shows. -/
theorem unless_injective {α : Type} {absence x y : α} [Decidable (x = absence)]
    [Decidable (y = absence)] (form : α → Json) (told : form x = form y → x = y)
    (same : (if x = absence then none else some (form x)) =
      if y = absence then none else some (form y)) : x = y := by
  split at same <;> split at same
  · rename_i hx hy
    rw [hx, hy]
  · cases same
  · cases same
  · exact told (Option.some.inj same)

theorem text_injective {s t : String} (same : text s = text t) : s = t :=
  unless_injective Json.text Json.text.inj same

theorem texts_injective {items others : List String} (same : texts items = texts others) :
    items = others := by
  refine unless_injective (fun items => .list (items.map .text)) (fun alike => ?_) same
  exact List.map_injective_iff.mpr (fun _ _ => Json.text.inj) (Json.list.inj alike)

theorem entry_injective : entry.Injective := by
  intro a b same
  obtain ⟨key, value⟩ := Prod.mk.inj same
  exact Prod.ext key (Json.text.inj value)

theorem labels_injective {l k : Labels} (same : labels l = labels k) : l = k := by
  refine Labels.ext (unless_injective (fun entries => .object (entries.map entry)) ?_ same)
  exact fun alike => List.map_injective_iff.mpr entry_injective (Json.object.inj alike)

theorem size_injective {m n : Int64} (same : size m = size n) : m = n := by
  refine unless_injective (fun n => .text (toString n.toInt)) (fun alike => ?_) same
  have digits := Json.text.inj alike
  rw [← Render.ofList_decimalInt, ← Render.ofList_decimalInt] at digits
  exact Int64.toInt_inj.mp (decimalInt_injective (String.ofList_injective digits))

theorem flag_injective {b c : Bool} (same : flag b = flag c) : b = c := by
  cases b <;> cases c
  · rfl
  · cases same
  · cases same
  · rfl

/-- The states have names of their own. -/
theorem name_injective {s t : InstanceStatus} (same : s.name = t.name) : s = t := by
  revert same
  cases s <;> cases t <;> decide

theorem number_of_ofNumber? {n : Int32} {s : InstanceStatus}
    (h : InstanceStatus.ofNumber? n = some s) : s.number = n := by
  simpa only [beq_iff_eq] using List.find?_some h

/-- A name is no number, and each state has a number of its own. -/
theorem statusJson_injective {m n : Int32} (same : Render.statusJson m = Render.statusJson n) :
    m = n := by
  unfold Render.statusJson at same
  split at same <;> split at same
  · rename_i s hs _ t ht
    rw [← number_of_ofNumber? hs, ← number_of_ofNumber? ht, name_injective (Json.text.inj same)]
  · cases same
  · cases same
  · exact Int32.toInt_inj.mp (Json.number.inj same)

theorem status_injective {m n : Int32} (same : status m = status n) : m = n := by
  rw [Render.status_eq, Render.status_eq] at same
  exact unless_injective Render.statusJson statusJson_injective same

/-- **An instant is told from its text, and none from any.** -/
theorem time_injective {t u : Option Timestamp} (ht : ∀ s, t = some s → s.Canonical)
    (hu : ∀ s, u = some s → s.Canonical) (same : time t = time u) : t = u := by
  cases t with
  | none =>
    cases u with
    | none => rfl
    | some u => cases same
  | some t =>
    cases u with
    | none => cases same
    | some u =>
      obtain ⟨ft, lt, pt, st⟩ := ht t rfl
      obtain ⟨fu, lu, pu, su⟩ := hu u rfl
      have instants : Instant.ofParts t.seconds.toInt t.nanos.toInt =
          Instant.ofParts u.seconds.toInt u.nanos.toInt :=
        Instant.text_injective (Instant.dated_ofParts ft lt pt st) (Instant.dated_ofParts fu lu pu su)
          (Json.text.inj (Option.some.inj same))
      have count := congrArg Instant.nanos instants
      simp only [Instant.ofParts] at count
      have seconds : t.seconds = u.seconds := Int64.toInt_inj.mp (by omega)
      have nanos : t.nanos = u.nanos := Int32.toInt_inj.mp (by omega)
      show some (⟨t.seconds, t.nanos⟩ : Timestamp) = some ⟨u.seconds, u.nanos⟩
      rw [seconds, nanos]

end Direct

/-! ## 3. Items -/

namespace Listing

/-- The names that the members of an item may have. -/
def names : Listing → List String
  | .instances => ["id", "folderId", "createdAt", "name", "labels", "zoneId", "status"]
  | .disks => ["id", "folderId", "createdAt", "name", "zoneId", "size", "instanceIds"]
  | .operations => ["id", "description", "createdAt", "createdBy", "done"]

theorem map_fst_members (l : Listing) (m : l.Item) : (l.members m).map Prod.fst = l.names := by
  cases l <;> rfl

theorem nodup_names (l : Listing) : l.names.Nodup := by
  cases l <;> decide

/-- **The object of an item gives the item back.** -/
theorem direct_injective (l : Listing) {a b : l.Item} (ha : l.Canonical a) (hb : l.Canonical b)
    (same : l.direct a = l.direct b) : a = b := by
  have members : l.members a = l.members b := by
    refine Direct.held_of_object ?_ ?_ same
    · rw [map_fst_members, map_fst_members]
    · rw [map_fst_members]
      exact l.nodup_names
  cases l with
  | instances =>
    obtain ⟨_, _, _, _, _, _, _⟩ := a
    obtain ⟨_, _, _, _, _, _, _⟩ := b
    simp only [Listing.members, List.cons.injEq, Prod.mk.injEq, true_and, and_true] at members
    obtain ⟨id, folderId, createdAt, name, labels, zoneId, status⟩ := members
    cases Direct.text_injective id
    cases Direct.text_injective folderId
    cases Direct.time_injective ha hb createdAt
    cases Direct.text_injective name
    cases Direct.labels_injective labels
    cases Direct.text_injective zoneId
    cases Direct.status_injective status
    rfl
  | disks =>
    obtain ⟨_, _, _, _, _, _, _⟩ := a
    obtain ⟨_, _, _, _, _, _, _⟩ := b
    simp only [Listing.members, List.cons.injEq, Prod.mk.injEq, true_and, and_true] at members
    obtain ⟨id, folderId, createdAt, name, zoneId, size, instanceIds⟩ := members
    cases Direct.text_injective id
    cases Direct.text_injective folderId
    cases Direct.time_injective ha hb createdAt
    cases Direct.text_injective name
    cases Direct.text_injective zoneId
    cases Direct.size_injective size
    cases Direct.texts_injective instanceIds
    rfl
  | operations =>
    obtain ⟨_, _, _, _, _⟩ := a
    obtain ⟨_, _, _, _, _⟩ := b
    simp only [Listing.members, List.cons.injEq, Prod.mk.injEq, true_and, and_true] at members
    obtain ⟨id, description, createdAt, createdBy, done⟩ := members
    cases Direct.text_injective id
    cases Direct.text_injective description
    cases Direct.time_injective ha hb createdAt
    cases Direct.text_injective createdBy
    cases Direct.flag_injective done
    rfl

end Listing

/-- **Items are rendered alike only if they are the same**: two resources of one type, each of fewer
    than `2 ^ 64` octets, as all are that fit a memory, and with a canonical time or none. Labels are
    compared by what they hold under each key, whatever the order they were written in. -/
theorem rendered_alike_iff (l : Listing) (a b : l.Item)
    (short_a : Message.encodedLength a < 2 ^ 64) (short_b : Message.encodedLength b < 2 ^ 64)
    (canonical_a : l.Canonical a) (canonical_b : l.Canonical b) :
    Render.toJson a = Render.toJson b ↔ a = b := by
  refine ⟨fun same => ?_, fun same => by rw [same]⟩
  rw [Render.toJson_direct l short_a canonical_a, Render.toJson_direct l short_b canonical_b] at same
  exact l.direct_injective canonical_a canonical_b (Except.ok.inj same)

/-- The start of 1970 is told from no time at all. -/
theorem epoch_not_rendered_alike :
    Render.toJson (M := Listing.Item .operations) ({ createdAt := some ⟨0, 0⟩ } : Operation) ≠
      Render.toJson (M := Listing.Item .operations) ({} : Operation) := by
  have epoch : Timestamp.Canonical ⟨0, 0⟩ := ⟨by decide, by decide, by decide, by decide⟩
  refine (rendered_alike_iff .operations ({ createdAt := some ⟨0, 0⟩ } : Operation)
    ({} : Operation) (by decide) (by decide) ?_ ?_).not.mpr ?_
  · intro t created
    cases created
    exact epoch
  · intro t created
    cases created
  · intro same
    cases same

end ControlPlane
