import ControlPlane.Proofs.Render.Lossless
import ControlPlane.Proofs.Time.Stamp

/-!
# When a resource was created

The time at which a resource was created is rendered as a text, under one name:

* `Direct.mem_object` -- the members of an object are those that are there;
* `Listing.mem_createdAt` -- the one member for the time;
* `createdAt_read_back` -- **the text is that of a day and a time that exist, and it denotes the
  seconds and nanoseconds of the resource.**
-/

namespace ControlPlane

open Text Calendar

/-- The members of an object with names that stand once are those that are there. -/
theorem Direct.mem_object {members : List (String × Option Json)}
    (once : (members.map Prod.fst).Nodup) {name : String} {json : Json} :
    (name, json) ∈ insertAll [] (held members) ↔ (name, some json) ∈ members := by
  have arranged : (insertAll [] (held members)).Perm (held members) :=
    insertAll_perm (held_names once)
  rw [arranged.mem_iff, mem_held]

/-- **The one member for the time of an item.** -/
theorem Listing.mem_createdAt (l : Listing) (m : l.Item) (json : Option Json) :
    ("createdAt", json) ∈ l.members m ↔ json = Direct.time (l.createdAt m) := by
  cases l with
  | instances => simp [Listing.members, Listing.createdAt]
  | disks => simp [Listing.members, Listing.createdAt]
  | operations => simp [Listing.members, Listing.createdAt]

/-- **The text of a canonical time denotes it.** -/
theorem Timestamp.Canonical.read_back {t : Timestamp} (canonical : t.Canonical) :
    ∃ s, Stamp.read? (Instant.ofParts t.seconds.toInt t.nanos.toInt).text.toList = some s ∧
      s.Valid ∧ s.Shortest ∧ s.seconds = t.seconds.toInt ∧ (s.nanos : Int) = t.nanos.toInt := by
  obtain ⟨first, last, positive, subsecond⟩ := canonical
  obtain ⟨s, read, valid, shortest, seconds, nanos⟩ :=
    Instant.read_chars (Instant.dated_ofParts first last positive subsecond)
  refine ⟨s, ?_, valid, shortest, ?_, ?_⟩
  · rw [Instant.text, String.toList_ofList]
    exact read
  · simp only [seconds, Instant.seconds, Instant.ofParts]
    omega
  · simp only [nanos, Instant.subsecond, Instant.ofParts]
    omega

/-- **When a resource was created is read from what is rendered.** For a resource that was created in
    the years 1 to 9999, of fewer than `2 ^ 64` octets, as all are that fit a memory, the object has
    one member with the name `createdAt`, a text. It is read as a date of the calendar and a time of
    the day, with a fraction of no more digits than it needs; and they are as many seconds and
    nanoseconds from the start of 1970, counted in days, as the resource has. -/
theorem createdAt_read_back (l : Listing) (m : l.Item) (t : Timestamp)
    (short : Message.encodedLength m < 2 ^ 64) (created : l.createdAt m = some t)
    (canonical : t.Canonical) :
    ∃ members text s, Render.toJson m = .ok (.object members) ∧
      (∀ json, ("createdAt", json) ∈ members ↔ json = .text text) ∧
      Stamp.read? text.toList = some s ∧ s.Valid ∧ s.Shortest ∧
      s.seconds = t.seconds.toInt ∧ (s.nanos : Int) = t.nanos.toInt := by
  have rendered : Render.toJson m = .ok (l.direct m) := by
    refine Render.toJson_direct l short fun u other => ?_
    rw [created] at other
    exact Option.some.inj other ▸ canonical
  obtain ⟨s, read⟩ := canonical.read_back
  refine ⟨_, _, s, rendered, fun json => ?_, read⟩
  rw [Direct.mem_object (l.map_fst_members m ▸ l.nodup_names), l.mem_createdAt, created]
  exact Option.some_inj

/-- The last second of February 1900, a year without a leap day, less some milliseconds. -/
theorem february_read_back :
    ∃ members text s, Render.toJson (M := Listing.Item .operations)
        ({ createdAt := some ⟨-2203891201, 120000000⟩ } : Operation) = .ok (.object members) ∧
      (∀ json, ("createdAt", json) ∈ members ↔ json = .text text) ∧
      Stamp.read? text.toList = some s ∧ s.Valid ∧ s.Shortest ∧
      s.seconds = -2203891201 ∧ (s.nanos : Int) = 120000000 :=
  createdAt_read_back .operations
    ({ createdAt := some ⟨-2203891201, 120000000⟩ } : Operation) ⟨-2203891201, 120000000⟩
    (by decide) rfl ⟨by decide, by decide, by decide, by decide⟩

/-- Its text. -/
example : (Instant.ofParts (-2203891201) 120000000).text = "1900-02-28T23:59:59.120Z" ∧
    Stamp.read? "1900-02-28T23:59:59.120Z".toList =
      some ⟨⟨1900, 2, 28⟩, 23, 59, 59, 3, 120⟩ := by
  decide

end ControlPlane
