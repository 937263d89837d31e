import ControlPlane.Proofs.Client.Crash
import ControlPlane.Proofs.Program.Listing

/-!
# What makes a run crash

* `listOutcome_exit`, `getOutcome_exit` -- the exit codes, and which of them is that of a crash;
* `take_refused` -- a take of a new iterator ends with its first call if that fails;
* `runCommand_exit` -- **a command ends with code 0 or 1, or it crashes**, and it does so if a
  connection is granted and the deadline of its options cannot be written;
* `crash_iff_overlong` -- the same of options, calls, iterators and runs together;
* `overlong_crashes` -- so there are options that are neither taken nor reported.
-/

namespace ControlPlane.Program

open CommandLine

/-! ## 1. Exit codes -/

section Codes

variable {M : Type} [Message M] {coloured : Bool} {outcome : Outcome}

/-- The code of a fault. -/
theorem faultOutcome_exit {out : String} {more : List Report} {fault : CallFault}
    (h : faultOutcome coloured out more fault = some outcome) :
    outcome.exit = 1 ∧ (∀ words, fault ≠ .crash words) ∨
      outcome.exit = 101 ∧ ∃ words, fault = .crash words := by
  cases fault with
  | status s =>
    cases h
    exact .inl ⟨rfl, fun words => CallFault.noConfusion⟩
  | crash words =>
    cases h
    exact .inr ⟨rfl, words, rfl⟩
  | stalled => cases h

/-- **The code of a listing.** -/
theorem listOutcome_exit {haul : Haul M CallFault}
    (h : listOutcome coloured haul = some outcome) :
    (outcome.exit = 0 ∨ outcome.exit = 1) ∧ (∀ words, haul.failure ≠ some (.crash words)) ∨
      outcome.exit = 101 ∧ ∃ words, haul.failure = some (.crash words) := by
  obtain ⟨items, fault⟩ := haul
  rcases hp : printAll coloured items with ⟨out, bad⟩
  cases fault with
  | none =>
    cases bad with
    | none =>
      simp only [listOutcome, hp, Option.some.injEq] at h
      subst h
      exact .inl ⟨.inl rfl, fun words failed => by cases failed⟩
    | some bad =>
      simp only [listOutcome, hp, Option.some.injEq] at h
      subst h
      exact .inl ⟨.inr rfl, fun words failed => by cases failed⟩
  | some fault =>
    cases fault with
    | status s =>
      have one : outcome.exit = 1 := by
        cases bad with
        | none =>
          simp only [listOutcome, hp] at h
          cases h
          rfl
        | some bad =>
          simp only [listOutcome, hp, Option.some.injEq] at h
          subst h
          rfl
      exact .inl ⟨.inr one, fun words failed => by cases failed⟩
    | crash words =>
      have h : faultOutcome coloured "" [] (.crash words) = some outcome := h
      cases h
      exact .inr ⟨rfl, words, rfl⟩
    | stalled => cases h

/-- The code of a single call. -/
theorem getOutcome_exit {answer : Except CallFault M}
    (h : getOutcome coloured answer = some outcome) :
    (outcome.exit = 0 ∨ outcome.exit = 1) ∧ (∀ words, answer ≠ .error (.crash words)) ∨
      outcome.exit = 101 ∧ ∃ words, answer = .error (.crash words) := by
  cases answer with
  | ok m =>
    rcases @listOutcome_exit M _ _ _ ⟨[m], none⟩ h with ⟨code, _⟩ | ⟨_, words, failed⟩
    · exact .inl ⟨code, fun words failed => by cases failed⟩
    · cases failed
  | error fault =>
    rcases faultOutcome_exit h with ⟨code, sound⟩ | ⟨code, words, rfl⟩
    · exact .inl ⟨.inr code, fun words failed => sound words (Except.error.inj failed)⟩
    · exact .inr ⟨code, words, rfl⟩

end Codes

/-! ## 2. Commands -/

/-- **A take of a new iterator ends with its first call if that fails.** -/
theorem take_refused {κ α ε σ : Type} {call : ListCall κ α ε σ} {request : PageRequest κ}
    (limit : Nat) {s : σ} {e : ε}
    (refused : (call ((Pager.new request : Pager κ α ε).nextRequest
      (some (Pager.wanted limit))) s).1 = .error e) :
    ((Pager.new request).take call limit s).1.failure = some e := by
  rw [Pager.take_of_sound call limit s rfl]
  obtain ⟨want, positive⟩ := Nat.exists_eq_succ_of_ne_zero (ListReader.wanted_ne_zero limit)
  rw [positive] at refused ⊢
  rcases hc : call ((Pager.new request : Pager κ α ε).nextRequest (some (want + 1))) s
    with ⟨answer, t⟩
  rw [hc] at refused
  have first := Pager.step_of_more call (some (want + 1)) s
    (rfl : (Pager.new request : Pager κ α ε).failure = none) rfl rfl
  simp only [Pager.fetch, hc] at first
  cases refused
  simp only [Pager.pull, first, Pager.received]

/-- What makes a command crash: its first call is granted a connection, and the deadline of its
    options cannot be written. -/
def Crashes (s : Session) (options : CallOptions) : Prop :=
  (s.connection.channelWithin options.timeout).1 = .granted ∧ options.Overlong

section Commands

variable {coloured : Bool} {s : Session} {options : CallOptions} {outcome : Outcome}

/-- A listing crashes with its first call, or not at all. -/
theorem take_crash_iff (l : Listing) (request : l.method.Request) (limit : Nat) :
    (∃ words, ((Session.iterate l request).take (Session.list l options) limit s).1.failure =
      some (.crash words)) ↔ Crashes s options := by
  constructor
  · rintro ⟨words, failed⟩
    have walk := Pager.take_walk (Session.list l options) limit (Session.iterate l request) s
    obtain ⟨_, _, last⟩ := walk.failed_last rfl
      ((Pager.take_failure (Session.list l options) limit _ s).trans failed)
    have long := Session.overlong_of_crash last
    -- every call fails, so the first one is the last
    obtain ⟨e, refused⟩ := Session.list_fails l
      ((Session.iterate l request).nextRequest (some (Pager.wanted limit))) s
      (CallOptions.metadata_eq_tooLong_iff.mpr long)
    have same := (take_refused limit refused).symm.trans failed
    cases same
    exact ⟨((Session.list_crash_iff l options _ s words).mp refused).1, long⟩
  · rintro ⟨granted, long⟩
    exact ⟨_, take_refused limit
      ((Session.list_crash_iff l options _ s _).mpr ⟨granted, long, rfl⟩)⟩

/-- **The code of a command that lists.** -/
theorem runListing_exit {l : Listing} {request : l.method.Request} {limit : Nat}
    (h : (runListing coloured s options l request limit).1 = some outcome) :
    (outcome.exit = 0 ∨ outcome.exit = 1) ∧ ¬ Crashes s options ∨
      outcome.exit = 101 ∧ Crashes s options := by
  rw [← take_crash_iff l request limit]
  rcases listOutcome_exit h with ⟨code, sound⟩ | crash
  · exact .inl ⟨code, fun ⟨words, failed⟩ => sound words failed⟩
  · exact .inr crash

/-- The code of a command that gets a resource. -/
theorem call_exit {m : Method} {request : m.Request}
    (h : getOutcome coloured (s.call m request options).1 = some outcome) :
    (outcome.exit = 0 ∨ outcome.exit = 1) ∧ ¬ Crashes s options ∨
      outcome.exit = 101 ∧ Crashes s options := by
  rcases getOutcome_exit h with ⟨code, sound⟩ | ⟨code, words, failed⟩
  · refine .inl ⟨code, fun ⟨granted, long⟩ => ?_⟩
    exact sound _ ((Session.call_crash_iff s m request options _).mpr ⟨granted, long, rfl⟩)
  · obtain ⟨granted, long, _⟩ := (Session.call_crash_iff s m request options words).mp failed
    exact .inr ⟨code, granted, long⟩

/-- **The code of a command.** -/
theorem runCommand_exit {command : Command}
    (h : (runCommand coloured s options command).1 = some outcome) :
    (outcome.exit = 0 ∨ outcome.exit = 1) ∧ ¬ Crashes s options ∨
      outcome.exit = 101 ∧ Crashes s options := by
  cases command with
  | listInstances => exact runListing_exit h
  | listDisks => exact runListing_exit h
  | listOperations => exact runListing_exit h
  | getInstance id =>
    have get : getOutcome coloured
        (s.call .getInstance (⟨id⟩ : GetInstanceRequest) options).1 = some outcome := h
    exact call_exit get
  | getDisk id =>
    have get : getOutcome coloured
        (s.call .getDisk (⟨id⟩ : GetDiskRequest) options).1 = some outcome := h
    exact call_exit get

end Commands

/-! ## 3. Runs -/

/-- **The code of a run whose command line is read.** -/
theorem run_exit {v : Variables} {words : List String} {dialler : Dialler} {replies : List Reply}
    {invocation : Invocation} {outcome : Outcome}
    (parsed : parse v.environment words = .ok invocation)
    (ran : (run v words dialler replies).1 = some outcome) :
    (outcome.exit = 0 ∨ outcome.exit = 1 ∨ outcome.exit = 101) ∧
      (outcome.exit = 101 ↔ Endpoint.isValid invocation.endpoint = true ∧
        ((Connection.new dialler).channelWithin invocation.options.timeout).1 = .granted ∧
        invocation.options.Overlong) := by
  simp only [run, parsed, Connection.connectTo?] at ran
  cases valid : Endpoint.isValid invocation.endpoint with
  | false =>
    simp only [valid, Bool.false_eq_true, if_false, Option.some.injEq] at ran
    subst ran
    refine ⟨.inr (.inl rfl), fun code => ?_, fun h => ?_⟩
    · cases code
    · cases h.1
  | true =>
    simp only [valid, if_true] at ran
    rcases runCommand_exit ran with ⟨code, sound⟩ | ⟨code, crash⟩
    · refine ⟨code.imp_right .inl, fun other => ?_, fun h => absurd h.2 sound⟩
      omega
    · exact ⟨.inr (.inr code), fun _ => ⟨rfl, crash⟩, fun _ => code⟩

/-- **What makes a program crash is a deadline that cannot be written, and nothing else.** Options
    give metadata, or a fault that is a status, unless they are overlong: their headers are valid,
    and their deadline has `10 ^ 8` hours or more. Metadata have room for any number of keys.

    A call crashes if they are and it is granted a connection. Nothing that an iterator gives is a
    crash if they are not. A run whose command line is read ends with code 0 or 1, or with the code
    of a crash, if at all; and it crashes if its endpoint is valid, its first dial succeeds in time,
    and its options are overlong. -/
theorem crash_iff_overlong (o : CallOptions) :
    (o.metadata = .error .deadlineTooLong ↔ o.Overlong) ∧
    (¬ o.Overlong → (∃ metadata, o.metadata = .ok metadata) ∨
      ∃ fault, o.metadata = .error fault ∧
        fault.status? = some ⟨.invalidArgument, fault.message, none⟩) ∧
    (∀ (s : Session) (m : Method) (request : m.Request) words,
      (s.call m request o).1 = .error (.crash words) ↔
        (s.connection.channelWithin o.timeout).1 = .granted ∧ o.Overlong ∧
          words = OptionFault.deadlineTooLong.message) ∧
    (¬ o.Overlong → ∀ (l : Listing) (request : l.method.Request) (s : Session)
      (actions : List Pager.Action) (n : Nat) words,
      let h := Pager.history (Session.list l o) actions (Session.iterate l request) s
      let t := ItemStream.polls (Session.list l o) n (.live h.pager) h.server
      h.pager.failure ≠ some (.crash words) ∧
        (∀ haul, .haul haul ∈ h.answers → haul.failure ≠ some (.crash words)) ∧
        .failure (.crash words) ∉ t.entries) ∧
    ∀ (v : Variables) (words : List String) (dialler : Dialler) (replies : List Reply)
      (invocation : Invocation) (outcome : Outcome),
      parse v.environment words = .ok invocation → invocation.options = o →
      (run v words dialler replies).1 = some outcome →
        (outcome.exit = 0 ∨ outcome.exit = 1 ∨ outcome.exit = 101) ∧
        (outcome.exit = 101 ↔ Endpoint.isValid invocation.endpoint = true ∧
          ((Connection.new dialler).channelWithin o.timeout).1 = .granted ∧ o.Overlong) := by
  refine ⟨CallOptions.metadata_eq_tooLong_iff, fun short => ?_, fun s m request words => ?_,
    fun short l request s actions n words => ?_, ?_⟩
  · cases gives : o.metadata with
    | ok metadata => exact .inl ⟨metadata, rfl⟩
    | error fault =>
      have known : fault ≠ .deadlineTooLong := by
        intro long
        exact short (CallOptions.metadata_eq_tooLong_iff.mp (long ▸ gives))
      exact .inr ⟨fault, rfl, OptionFault.status?_eq known⟩
  · exact Session.call_crash_iff s m request o words
  · exact iterator_uncrashed l request short s actions n words
  · rintro v words dialler replies invocation outcome parsed rfl ran
    exact run_exit parsed ran

/-- Options with a timeout of `10 ^ 8` hours. -/
def overlongOptions : CallOptions := ⟨[], some (Duration.ofParts 360000000000 0)⟩

/-- **Such options are neither taken nor reported**: a call with them crashes, and so does a run
    whose command line states them. -/
theorem overlong_crashes :
    (¬ ∀ o : CallOptions, (∃ metadata, o.metadata = .ok metadata) ∨
      ∃ fault s, o.metadata = .error fault ∧ fault.status? = some s ∧ s.code = .invalidArgument) ∧
    ((Session.new ⟨[], Dialler.success⟩ []).call .getDisk (⟨"d"⟩ : GetDiskRequest)
      overlongOptions).1 = .error (.crash "duration is unrealistically large") ∧
    (run (.ofList []) ["--timeout", "360000000000", "disks", "get", "d"] ⟨[], Dialler.success⟩
      []).1.map Outcome.exit = some 101 := by
  have long : overlongOptions.Overlong := by
    exact ⟨fun _ h => (by cases h), _, rfl, Nat.le_refl _⟩
  have fault := CallOptions.metadata_eq_tooLong_iff.mpr long
  refine ⟨fun all => ?_, ?_, ?_⟩
  · rcases all overlongOptions with ⟨metadata, valid⟩ | ⟨fault', s, invalid, status, _⟩
    · rw [fault] at valid
      cases valid
    · rw [fault] at invalid
      cases invalid
      cases status
  · exact (Session.call_crash_iff _ _ _ _ _).mpr ⟨rfl, long, rfl⟩
  · decide +kernel

end ControlPlane.Program
