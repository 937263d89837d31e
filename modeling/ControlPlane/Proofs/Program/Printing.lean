import ControlPlane.Proofs.Client.Script
import ControlPlane.Proofs.Pager.Limit
import ControlPlane.Proofs.Program.Listing

/-!
# What a run of a listing prints

* `printAll_rendered`, `printAll_stopped`, `rendered_or_stopped` -- what is printed of items that
  can all be rendered, and of others;
* `listed`, `stopped` -- the two outcomes of a listing, of which only the first tells how the
  listing went; `listOutcome_rendered`, `listOutcome_stopped`;
* `Shows`, `shows_listed` -- the words of the first one, without colours;
* `run_of_listing`, `run_scripted` -- a run of a listing, as a take from the script of the server;
* `run_prints` -- **what it prints and returns, exactly**, and what its limit bounds.
-/

namespace ControlPlane.Program

open CommandLine

/-! ## 1. Items -/

section Items

variable {M : Type} [Message M] {items before after : List M} {bad : M} {values : List Json}
  {fault : RenderFault}

/-- Items that can all be rendered are all printed. -/
theorem printAll_rendered (coloured : Bool) (rendered : items.map Render.toJson = values.map .ok) :
    printAll coloured items = (printed coloured values, none) := by
  induction items generalizing values with
  | nil =>
    rw [List.map_eq_nil_iff.mp rendered.symm]
    rfl
  | cons m rest ih =>
    obtain ⟨value, others, rfl, first, same⟩ := List.map_eq_cons_iff.mp rendered.symm
    simp only [printAll, ← first, ih same.symm]
    rw [printed, printed, List.map_cons, String.join_cons]

/-- Of others those are printed that come before the first that cannot be. -/
theorem printAll_stopped (coloured : Bool) (rendered : before.map Render.toJson = values.map .ok)
    (wrong : Render.toJson bad = .error fault) :
    printAll coloured (before ++ bad :: after) = (printed coloured values, some fault) := by
  induction before generalizing values with
  | nil =>
    rw [List.map_eq_nil_iff.mp rendered.symm]
    simp only [List.nil_append, printAll, wrong]
    rfl
  | cons m rest ih =>
    obtain ⟨value, others, rfl, first, same⟩ := List.map_eq_cons_iff.mp rendered.symm
    simp only [List.cons_append, printAll, ← first, ih same.symm]
    rw [printed, printed, List.map_cons, String.join_cons]

/-- All items can be rendered, or there is a first that cannot be. -/
theorem rendered_or_stopped (items : List M) :
    (∃ values : List Json, items.map Render.toJson = values.map .ok) ∨
      ∃ before bad after, ∃ values : List Json, ∃ fault, items = before ++ bad :: after ∧
        before.map Render.toJson = values.map .ok ∧ Render.toJson bad = .error fault := by
  induction items with
  | nil => exact .inl ⟨[], rfl⟩
  | cons m rest ih =>
    cases here : Render.toJson m with
    | error fault => exact .inr ⟨[], m, rest, [], fault, rfl, rfl, here⟩
    | ok value =>
      rcases ih with ⟨values, all⟩ | ⟨before, bad, after, values, fault, rfl, all, wrong⟩
      · exact .inl ⟨value :: values, by rw [List.map_cons, List.map_cons, here, all]⟩
      · exact .inr ⟨m :: before, bad, after, value :: values, fault, rfl,
          by rw [List.map_cons, List.map_cons, here, all], wrong⟩

end Items

/-! ## 2. Outcomes -/

/-- **The outcome of a listing whose items can all be rendered**: they are printed, and then the
    failure is reported if there was one, with the number of items if there are any. -/
def listed (coloured : Bool) (values : List Json) : Option Status → Outcome
  | none => ⟨0, printed coloured values, ""⟩
  | some status =>
    ⟨1, printed coloured values, (Report.failed status).printed coloured ++
      if values.isEmpty then "" else (Report.incomplete values.length).printed coloured⟩

/-- **What an outcome shows of a listing**, without colours: each value between empty lines; of a
    failure its code and its message, and behind it the number of values, if there are any. -/
def Shows (outcome : Outcome) (values : List Json) : Option Status → Prop
  | none => outcome = ⟨0, String.join (values.map fun value => "\n" ++ value.pretty ++ "\n\n"), ""⟩
  | some status =>
    outcome.exit = 1 ∧
      outcome.stdout = String.join (values.map fun value => "\n" ++ value.pretty ++ "\n\n") ∧
      outcome.stderr = "\ngRPC Failed: code=" ++ status.code.name ++ " message=" ++
        Text.quoted status.message ++ "\n\n" ++
        if values = [] then ""
        else "\nIncomplete listing: only " ++ String.ofList (Text.decimal values.length) ++
          " item(s) were listed before the error\n\n"

/-- **The outcome of a listing with an item that cannot be rendered**: only those before it are
    printed, and only this is reported. -/
def stopped (coloured : Bool) (values : List Json) (fault : RenderFault) : Outcome :=
  ⟨1, printed coloured values, (Report.notRendered fault).printed coloured⟩

section Outcomes

variable {M : Type} [Message M] {haul : Haul M Status} {before after : List M} {bad : M}
  {values : List Json} {fault : RenderFault}

theorem listOutcome_rendered (coloured : Bool)
    (rendered : haul.items.map Render.toJson = values.map .ok) :
    listOutcome coloured (haul.mapFailure .status) =
      some (listed coloured values haul.failure) := by
  obtain ⟨items, failure⟩ := haul
  have out := printAll_rendered coloured rendered
  have count : items.length = values.length := by simpa using congrArg List.length rendered
  cases failure with
  | none => simp [listOutcome, Haul.mapFailure, out, listed]
  | some status =>
    have empty : items.isEmpty = values.isEmpty := by
      rw [Bool.eq_iff_iff, List.isEmpty_iff_length_eq_zero, List.isEmpty_iff_length_eq_zero, count]
    simp only [listOutcome, Haul.mapFailure, Option.map, out, empty, count, faultOutcome, failure,
      listed]
    cases values.isEmpty with
    | true => simp
    | false => simp

/-- **A listing shows its values and its failure.** -/
theorem shows_listed (values : List Json) (failure : Option Status) :
    Shows (listed false values failure) values failure := by
  have out : printed false values =
      String.join (values.map fun value => "\n" ++ value.pretty ++ "\n\n") := by
    simp only [printed, Report.printed_value]
  cases failure with
  | none => simp only [Shows, listed, out]
  | some status =>
    refine ⟨rfl, out, ?_⟩
    simp only [listed, Report.printed_failed, Report.printed_incomplete, List.isEmpty_iff]

theorem listOutcome_stopped (coloured : Bool) (split : haul.items = before ++ bad :: after)
    (rendered : before.map Render.toJson = values.map .ok)
    (wrong : Render.toJson bad = .error fault) :
    listOutcome coloured (haul.mapFailure .status) = some (stopped coloured values fault) := by
  obtain ⟨items, failure⟩ := haul
  subst split
  have out : printAll coloured (before ++ bad :: after) = (printed coloured values, some fault) :=
    printAll_stopped coloured rendered wrong
  cases failure with
  | none => simp [listOutcome, Haul.mapFailure, out, Program.failure, stopped]
  | some status => simp [listOutcome, Haul.mapFailure, out, Program.failure, stopped]

end Outcomes

/-! ## 3. Runs -/

section Runs

variable {v : Variables} {words : List String} {dialler : Dialler} {replies : List Reply}
  {invocation : Invocation} {l : Listing} {request : l.method.Request} {limit : Nat}
  {metadata : Metadata}

/-- A run of a listing with a valid endpoint is a take over a session of its own. -/
theorem run_of_listing (parsed : parse v.environment words = .ok invocation)
    (listing : listing? invocation.command = some ⟨l, request, limit⟩)
    (endpoint : Endpoint.isValid invocation.endpoint = true) (dialler : Dialler)
    (replies : List Reply) :
    let taken := (Session.iterate l request).take (Session.list l invocation.options) limit
      (Session.new dialler replies)
    run v words dialler replies =
      (listOutcome v.coloursReports taken.1, taken.2.2.received) := by
  simp only [run, parsed, Connection.connectTo?, endpoint, if_true,
    runCommand_of_listing listing, runListing]
  rfl

/-- **If it is granted a connection and its headers are valid, it is a take from the script of the
    server.** -/
theorem run_scripted (parsed : parse v.environment words = .ok invocation)
    (listing : listing? invocation.command = some ⟨l, request, limit⟩)
    (endpoint : Endpoint.isValid invocation.endpoint = true)
    (headers : invocation.options.metadata = .ok metadata)
    (dialled : ((Connection.new dialler).channelWithin invocation.options.timeout).1 = .granted)
    (replies : List Reply) :
    let taken := takeScripted l (Session.deadlineOf metadata) request limit replies
    run v words dialler replies =
      (listOutcome v.coloursReports (taken.1.mapFailure .status),
        l.heard metadata taken.2.2.exchanges) := by
  obtain ⟨haul, received⟩ := Session.take_scripted (s := Session.new dialler replies) headers
    dialled rfl request limit
  rw [run_of_listing parsed listing endpoint, haul, received]
  rfl

/-- **A listing does not see the replies behind those whose pages have what is wanted.** -/
theorem takeScripted_within (l : Listing) (deadline : Option Nat) (request : l.method.Request)
    {limit : Nat} {before : List Reply} {pages : List (Page l.Item)}
    (answered : script l deadline before = pages.map .ok)
    (enough : Pager.wanted limit ≤ (pages.flatMap Page.items).length) :
    ∃ items exchanges, ∀ others,
      let taken := takeScripted l deadline request limit (before ++ others)
      taken.1 = ⟨items, none⟩ ∧ taken.2.2.exchanges = exchanges := by
  obtain ⟨items, q, left, made, same⟩ :=
    Pager.take_within (exhaustion deadline) (l.toPageRequest request) enough
  refine ⟨items, made, fun others => ?_⟩
  have whole : script l deadline (before ++ others) =
      pages.map .ok ++ script l deadline others := by
    rw [script_append, answered]
  simp only [takeScripted, whole, same]
  exact ⟨trivial, trivial⟩

/-- **What a run of a listing prints and returns.** Its command line is read, its endpoint and its
    headers are valid, it is granted a connection, and every item of the script can be rendered.

    It prints the items that a take of its request from the script collects, in order; and then it
    ends with code zero, or it reports the failure of the take, with the number of items if there
    are any. `Shows` has the words of an outcome without colours. A limit bounds every page that is asked for; and whatever replies come behind those
    whose pages have as many items as are wanted, the run is the same, without a failure. -/
theorem run_prints (parsed : parse v.environment words = .ok invocation)
    (listing : listing? invocation.command = some ⟨l, request, limit⟩)
    (endpoint : Endpoint.isValid invocation.endpoint = true)
    (headers : invocation.options.metadata = .ok metadata)
    (dialled : ((Connection.new dialler).channelWithin invocation.options.timeout).1 = .granted)
    (renderable : ∀ page, .ok page ∈ script l (Session.deadlineOf metadata) replies →
      ∀ item ∈ page.items, ∃ value, Render.toJson item = .ok value) :
    let taken := takeScripted l (Session.deadlineOf metadata) request limit replies
    (∃ (values : List Json) (outcome : Outcome),
      taken.1.items.map Render.toJson = values.map .ok ∧
      run v words dialler replies = (some outcome, l.heard metadata taken.2.2.exchanges) ∧
      outcome = listed v.coloursReports values taken.1.failure ∧
      (v.coloursReports = false → Shows outcome values taken.1.failure)) ∧
    (0 < limit → ∀ e ∈ taken.2.2.exchanges, e.request.pageSize.toInt ≤ limit) ∧
    ∀ (before after : List Reply) (pages : List (Page l.Item)), replies = before ++ after →
      script l (Session.deadlineOf metadata) before = pages.map .ok →
      Pager.wanted limit ≤ (pages.flatMap Page.items).length →
        taken.1.failure = none ∧
        ∀ others, run v words dialler (before ++ others) = run v words dialler replies := by
  intro taken
  have ran := run_scripted parsed listing endpoint headers dialled
  refine ⟨?_, ?_, ?_⟩
  · -- what was collected are items of the script
    have each : ∀ item ∈ taken.1.items, ∃ value, Render.toJson item = .ok value := by
      intro item collected
      obtain ⟨page, given, member⟩ := Pager.take_scripted_items _ limit _ _ item collected
      exact renderable page given item member
    rcases rendered_or_stopped taken.1.items with
      ⟨values, rendered⟩ | ⟨before, bad, after, _, fault, split, _, wrong⟩
    · refine ⟨values, _, rendered, ?_, rfl, fun plain => ?_⟩
      · rw [ran replies, listOutcome_rendered v.coloursReports rendered]
      · rw [plain]
        exact shows_listed values taken.1.failure
    · have member : bad ∈ taken.1.items := split ▸ List.mem_append_right before List.mem_cons_self
      obtain ⟨value, right⟩ := each bad member
      rw [wrong] at right
      cases right
  · intro positive
    exact Pager.take_sizes _ positive _ _
  · rintro before after pages rfl answered enough
    obtain ⟨items, exchanges, same⟩ :=
      takeScripted_within l (Session.deadlineOf metadata) request answered enough
    refine ⟨congrArg Haul.failure (same after).1, fun others => ?_⟩
    rw [ran (before ++ others), ran (before ++ after), (same others).1, (same others).2,
      (same after).1, (same after).2]

end Runs

/-- A page of two operations, and the token of another one. -/
def twoOperations : ListOperationsResponse := ⟨[{ id := "1" }, { id := "2" }], "t"⟩

/-- A reply with this page. -/
def givesTwo : Reply :=
  ⟨0, fun | .listOperations => .ok twoOperations | _ => .error scriptExhausted⟩

/-- The failure of a server that went away. -/
def gone : Status := ⟨.unavailable, "gone", none⟩

/-- A server that gives the page and is gone then. -/
def outage : List Reply := [givesTwo, ⟨0, fun _ => .error gone⟩]

/-- The run of a list of operations with some more words. -/
def outageRun (more : List String) (replies : List Reply) : Option Outcome × List Received :=
  run (.ofList []) (["instances", "operations", "i"] ++ more) ⟨[], Dialler.success⟩ replies

/-- Without a limit the run prints the page and reports the failure; with a limit of two it does not
    come to the failure, nor to anything else behind the page. -/
theorem run_prints_outage :
    (∃ (values : List Json) (outcome : Outcome), values.length = 2 ∧
      (outageRun [] outage).1 = some outcome ∧ outcome = listed false values (some gone) ∧
      outcome.exit = 1 ∧
      outcome.stderr = "\ngRPC Failed: code=Unavailable message=\"gone\"\n\n" ++
        "\nIncomplete listing: only 2 item(s) were listed before the error\n\n") ∧
    ∀ others, outageRun ["--limit", "2"] (givesTwo :: others) =
      outageRun ["--limit", "2"] outage := by
  have renderable : ∀ page, .ok page ∈ script .operations none outage →
      ∀ item ∈ page.items, ∃ value, Render.toJson item = .ok value := by
    intro page given item member
    rcases List.mem_cons.mp given with first | other
    · cases first
      rcases List.mem_cons.mp member with rfl | member
      · exact ⟨_, rfl⟩
      · rw [List.mem_singleton.mp member]
        exact ⟨_, rfl⟩
    · cases List.mem_singleton.mp other
  have full := @run_prints (.ofList []) ["instances", "operations", "i"] ⟨[], Dialler.success⟩
    outage ⟨Endpoint.default, [], none, .listOperations "i" ⟨0, 0⟩⟩
    .operations (⟨"i", 0, ""⟩ : ListOperationsRequest) 0 ⟨[]⟩ rfl rfl (by decide +kernel) rfl rfl
    renderable
  have limited := @run_prints (.ofList []) ["instances", "operations", "i", "--limit", "2"]
    ⟨[], Dialler.success⟩ outage ⟨Endpoint.default, [], none, .listOperations "i" ⟨0, 2⟩⟩
    .operations (⟨"i", 0, ""⟩ : ListOperationsRequest) 2 ⟨[]⟩ rfl rfl (by decide +kernel) rfl rfl
    renderable
  obtain ⟨⟨values, outcome, rendered, ran, same, shows⟩, _⟩ := full
  have count : values.length = 2 := by
    have lengths := congrArg List.length rendered
    rw [List.length_map, List.length_map] at lengths
    exact lengths.symm
  have some : values ≠ [] := List.ne_nil_of_length_pos (by omega)
  obtain ⟨code, _, words⟩ := shows rfl
  rw [if_neg some, count] at words
  refine ⟨⟨values, outcome, count, congrArg Prod.fst ran, same, code, words.trans ?_⟩, ?_⟩
  · rfl
  · exact (limited.2.2 [givesTwo] _ [Listing.operations.toPage twoOperations] rfl rfl
      (Nat.le_refl 2)).2

/-- What the first of these runs writes. -/
example : (outageRun [] outage).1 = some ⟨1,
    "\n\x7b\n  \"id\": \"1\"\n\x7d\n\n\n\x7b\n  \"id\": \"2\"\n\x7d\n\n",
    "\ngRPC Failed: code=Unavailable message=\"gone\"\n\n" ++
      "\nIncomplete listing: only 2 item(s) were listed before the error\n\n"⟩ := by
  decide +kernel

end ControlPlane.Program
