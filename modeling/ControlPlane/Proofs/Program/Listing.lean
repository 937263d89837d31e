import ControlPlane.Program
import ControlPlane.Proofs.Client.Session

/-!
# What a run of a listing has printed

* `listing?` -- the commands that list, each with its request and how many items it wants;
* `printAll_eq_ok`, `listOutcome_eq_zero` -- a listing that ends with code zero did not fail and has
  printed all the items that it pulled;
* `run_listing` -- **such a run has printed the pages that it received**, and read on up to a
  closing page, unless it had what it wanted.
-/

namespace ControlPlane.Program

open CommandLine

/-! ## 1. Commands that list -/

/-- The listing of a command, the request it starts from, and how many items it wants; zero for
    all. -/
def listing? : Command → Option ((l : Listing) × l.method.Request × Nat)
  | .listInstances folderId filter paging =>
    some ⟨.instances, (⟨folderId, paging.pageSize, "", filter⟩ : ListInstancesRequest),
      paging.limit⟩
  | .listDisks folderId filter paging =>
    some ⟨.disks, (⟨folderId, paging.pageSize, "", filter⟩ : ListDisksRequest), paging.limit⟩
  | .listOperations id paging =>
    some ⟨.operations, (⟨id, paging.pageSize, ""⟩ : ListOperationsRequest), paging.limit⟩
  | .getInstance _ | .getDisk _ => none

theorem runCommand_of_listing {command : Command} {l : Listing} {request : l.method.Request}
    {limit : Nat} (h : listing? command = some ⟨l, request, limit⟩) (coloured : Bool) (s : Session)
    (options : CallOptions) :
    runCommand coloured s options command = runListing coloured s options l request limit := by
  cases command with
  | listInstances => cases h; rfl
  | listDisks => cases h; rfl
  | listOperations => cases h; rfl
  | getInstance => cases h
  | getDisk => cases h

/-! ## 2. Outcomes -/

/-- What is printed for some values. -/
def printed (coloured : Bool) (values : List Json) : String :=
  String.join (values.map fun value => (Report.value value).printed coloured)

/-- **Printing without a fault renders and prints every resource, in order.** -/
theorem printAll_eq_ok {M : Type} [Message M] {coloured : Bool} {items : List M} {out : String}
    (h : printAll coloured items = (out, none)) :
    ∃ values, items.map Render.toJson = values.map .ok ∧ out = printed coloured values := by
  induction items generalizing out with
  | nil =>
    cases h
    exact ⟨[], rfl, rfl⟩
  | cons m rest ih =>
    rw [printAll] at h
    cases hm : Render.toJson m with
    | error fault =>
      rw [hm] at h
      cases h
    | ok value =>
      simp only [hm, Prod.mk.injEq] at h
      obtain ⟨rfl, hf⟩ := h
      obtain ⟨values, hr, ho⟩ := ih (Prod.ext rfl hf)
      refine ⟨value :: values, by rw [List.map_cons, List.map_cons, hm, hr], ?_⟩
      rw [printed, List.map_cons, String.join_cons, ← printed, ← ho]

/-- **A listing ends with code zero only without a failure**, and with all its items printed. -/
theorem listOutcome_eq_zero {M : Type} [Message M] {coloured : Bool} {haul : Haul M CallFault}
    {outcome : Outcome} (h : listOutcome coloured haul = some outcome) (zero : outcome.exit = 0) :
    haul.failure = none ∧ printAll coloured haul.items = (outcome.stdout, none) := by
  -- no outcome of a failure has the code zero
  have failed : ∀ {out : String} {more : List Report} {fault : CallFault},
      faultOutcome coloured out more fault ≠ some outcome := by
    rintro out more (status | words | _) he <;> cases he <;> cases zero
  obtain ⟨items, fault⟩ := haul
  rcases hp : printAll coloured items with ⟨out, bad⟩
  cases fault with
  | none =>
    cases bad with
    | none =>
      simp only [listOutcome, hp, Option.some.injEq] at h
      subst h
      exact ⟨rfl, rfl⟩
    | some bad =>
      simp only [listOutcome, hp, Option.some.injEq] at h
      subst h
      cases zero
  | some fault =>
    exfalso
    cases fault with
    | status s =>
      cases bad with
      | none =>
        simp only [listOutcome, hp] at h
        exact failed h
      | some bad =>
        simp only [listOutcome, hp, Option.some.injEq] at h
        subst h
        cases zero
    | crash words =>
      have h : faultOutcome coloured "" [] (.crash words) = some outcome := h
      exact failed h
    | stalled => cases h

/-! ## 3. Runs -/

/-- **What a run of a listing has read and printed** that ends with code zero. Each call that the
    server received was answered with a page. The items of the pages are printed in order, as many
    as are wanted. Closing is the last page at most, and it is, if there are fewer items than are
    wanted. -/
structure ReadOut (coloured : Bool) (l : Listing) (wanted : Nat) (replies : List Reply)
    (received : List Received) (stdout : String) (responses : List l.method.Response) : Prop where
  calls : responses.length = received.length
  answers : (replies.take received.length).map (fun reply => reply.body l.method) =
    responses.map .ok
  output : ∃ values,
    (((responses.map l.toPage).flatMap Page.items).take wanted).map Render.toJson =
      values.map .ok ∧
    stdout = printed coloured values
  before : ∀ page ∈ (responses.map l.toPage).dropLast, ¬ page.Closing
  closed : ((responses.map l.toPage).flatMap Page.items).length < wanted →
    ∃ last, (responses.map l.toPage).getLast? = some last ∧ last.Closing

section Runs

variable {v : Variables} {words : List String} {dialler : Dialler} {replies : List Reply}
  {invocation : Invocation} {l : Listing} {request : l.method.Request} {limit : Nat}
  {outcome : Outcome} {received : List Received}

/-- **A run of a listing that ends with code zero has printed the pages that it received.** -/
theorem run_listing (parsed : parse v.environment words = .ok invocation)
    (listing : listing? invocation.command = some ⟨l, request, limit⟩)
    (ran : run v words dialler replies = (some outcome, received)) (zero : outcome.exit = 0) :
    ∃ responses, ReadOut v.coloursReports l (Pager.wanted limit) replies received outcome.stdout
      responses := by
  simp only [run, parsed] at ran
  cases hc : Connection.connectTo? dialler invocation.endpoint with
  | none =>
    rw [hc] at ran
    cases ran
    cases zero
  | some connection =>
    rw [hc] at ran
    simp only [runCommand_of_listing listing, runListing, Prod.mk.injEq] at ran
    obtain ⟨ended, rfl⟩ := ran
    obtain ⟨sound, out⟩ := listOutcome_eq_zero ended zero
    obtain ⟨pages, answered, items, before, closed⟩ := Pager.take_pages _ limit _ _ sound
    have walk := Pager.take_walk (Session.list l invocation.options) limit
      (Session.iterate l request) ⟨connection, replies, [], []⟩
    obtain ⟨responses, served, answered'⟩ := walk.served ((Pager.take_failure ..).trans sound)
    have same : pages = responses.map l.toPage :=
      (List.map_inj_right fun _ _ => Except.ok.inj).mp (answered.symm.trans answered')
    subst same
    have calls := served.received
    rw [List.length_nil, Nat.zero_add] at calls
    refine ⟨responses, calls.symm, ?_, ?_, before, fun short => closed ?_⟩
    · rw [calls]
      exact served.take
    · rw [← items]
      exact printAll_eq_ok out
    · rw [items, List.length_take]
      omega

end Runs

/-- **A pull that ends early and without a failure has come to a closing page.** A take is made
    after any other actions (a take of all is one whose limit is zero). If it gives fewer items than
    wanted, nothing is left in the buffer, and either the last page was received, or the last call
    that it made gave a page without items, whose token the pager keeps. Hence a run of a listing
    that ends with code zero has printed all pages up to a closing one, unless it had what it
    wanted. -/
theorem early_end_closed :
    (∀ {κ α ε σ : Type} (call : ListCall κ α ε σ) (request : PageRequest κ) (server : σ)
      (actions : List Pager.Action) (limit : Nat),
      let h := Pager.history (recorded call) actions (.new request) ⟨server, []⟩
      let taken := h.pager.take (recorded call) limit h.server
      taken.1.failure = none → taken.1.items.length < Pager.wanted limit →
        taken.2.1.buffer = [] ∧
        ((taken.2.1.started = true ∧ taken.2.1.nextPageToken = "") ∨
          ∃ made e, taken.2.2.exchanges = h.server.exchanges ++ made ++ [e] ∧
            e.answer = .ok ⟨[], taken.2.1.nextPageToken⟩)) ∧
    ∀ {v : Variables} {words : List String} {dialler : Dialler} {replies : List Reply}
      {invocation : Invocation} {l : Listing} {request : l.method.Request} {limit : Nat}
      {outcome : Outcome} {received : List Received},
      parse v.environment words = .ok invocation →
      listing? invocation.command = some ⟨l, request, limit⟩ →
      run v words dialler replies = (some outcome, received) → outcome.exit = 0 →
        ∃ responses, ReadOut v.coloursReports l (Pager.wanted limit) replies received
          outcome.stdout responses := by
  refine ⟨?_, run_listing⟩
  intro κ α ε σ call request server actions limit h taken sound short
  obtain ⟨empty, stopped⟩ := Pager.take_short (recorded call) sound short
  refine ⟨empty, stopped.imp (fun last => ?_) fun ⟨e, he, ha⟩ => ?_⟩
  · simpa [Pager.atEnd, Pager.nextPageToken] using last
  · obtain ⟨made, hm⟩ := List.getLast?_eq_some_iff.mp he
    refine ⟨made, e, ?_, ha⟩
    rw [List.append_assoc, ← hm]
    exact (Pager.take_walk (recorded call) limit h.pager h.server).record

/-- Pages with a gap: the one in the middle has a token but no items. -/
def gap : List (Except Status (Page String)) := [.ok ⟨["1"], "a"⟩, .ok ⟨[], "b"⟩, .ok ⟨["2"], ""⟩]

/-- The same gap in a list of operations. -/
def gapReplies : List Reply :=
  let reply := fun (page : ListOperationsResponse) =>
    (⟨0, fun | .listOperations => .ok page | _ => .error scriptExhausted⟩ : Reply)
  [reply ⟨[{ id := "1" }], "a"⟩, reply ⟨[], "b"⟩, reply ⟨[{ id := "2" }], ""⟩]

/-- A take of all over the gap. -/
def gapTake : Haul String Status × Pager Unit String Status ×
    Recorded Unit String Status (List (Except Status (Page String))) :=
  (Pager.new ⟨(), 0, ""⟩).take (recorded (scripted scriptExhausted)) 0 ⟨gap, []⟩

/-- The run of a list of operations over the gap. -/
def gapRun : Option Outcome × List Received :=
  run (.ofList []) ["instances", "operations", "i"] ⟨[], ⟨0, .connects⟩⟩ gapReplies

theorem gapRun_eq : gapRun = (some ⟨0, "\n\x7b\n  \"id\": \"1\"\n\x7d\n\n", ""⟩, gapRun.2) :=
  Prod.ext (by decide +kernel) rfl

/-- A take of all, and a run without a limit, over pages with a gap. -/
theorem early_end_closed_gap :
    (gapTake.2.1.buffer = [] ∧ ∃ made e, gapTake.2.2.exchanges = made ++ [e] ∧
      e.answer = .ok ⟨[], gapTake.2.1.nextPageToken⟩) ∧
    ∃ responses, ReadOut false .operations unlimited gapReplies gapRun.2
      "\n\x7b\n  \"id\": \"1\"\n\x7d\n\n" responses := by
  constructor
  · obtain ⟨empty, ⟨_, last⟩ | behind⟩ := early_end_closed.1 (scripted scriptExhausted) ⟨(), 0, ""⟩
      gap [] 0 (by decide +kernel) (by decide +kernel)
    · exact absurd (show gapTake.2.1.nextPageToken = "" from last) (by decide +kernel)
    · exact ⟨empty, behind⟩
  · have command : (parse (Variables.ofList []).environment
        ["instances", "operations", "i"]).toOption.map Invocation.command =
          some (.listOperations "i" ⟨0, 0⟩) := by decide +kernel
    cases parsed : parse (Variables.ofList []).environment ["instances", "operations", "i"] with
    | error =>
      rw [parsed] at command
      cases command
    | ok invocation =>
      rw [parsed] at command
      have listing : listing? invocation.command =
          some ⟨.operations, (⟨"i", 0, ""⟩ : ListOperationsRequest), 0⟩ := by
        rw [show invocation.command = _ from Option.some.inj command]
        rfl
      exact early_end_closed.2 parsed listing gapRun_eq rfl

/-- **A success does not mean that everything was read**: over the gap, a take of all gives no
    failure and leaves a token, and a run without a limit ends with code zero after two calls. -/
theorem gap_ends_early :
    (¬ ∀ (call : ListCall Unit String Status (List (Except Status (Page String))))
      (request : PageRequest Unit) (server : List (Except Status (Page String)))
      (actions : List Pager.Action),
      let h := Pager.history call actions (.new request) server
      let taken := h.pager.takeAll call h.server
      taken.1.failure = none → taken.2.1.nextPageToken = "" ∧ taken.2.1.buffer = []) ∧
    gapRun.1 = some ⟨0, "\n\x7b\n  \"id\": \"1\"\n\x7d\n\n", ""⟩ ∧ gapRun.2.length = 2 := by
  refine ⟨fun all => ?_, congrArg Prod.fst gapRun_eq, by decide +kernel⟩
  have read := (all (scripted scriptExhausted) ⟨(), 0, ""⟩ gap [] (by decide +kernel)).1
  exact absurd read (by decide +kernel)

end ControlPlane.Program
