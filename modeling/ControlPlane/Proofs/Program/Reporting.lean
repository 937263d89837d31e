import ControlPlane.Proofs.Program.Printing

/-!
# Whether a listing that failed is reported

A listing may fail in two ways: a page does not come, or an item that came cannot be rendered. The
run ends with the first of the failures that it meets, and it prints before it reports:

* `Reported` -- what a user should be told of a listing;
* `take_failure_recorded` -- the failure of a take is that of the page that did not come;
* `run_reports` -- **a listing is reported if all its items can be rendered**; otherwise the run
  ends at the first that cannot be, and only this is reported;
* `status_hidden` -- so there is a listing of which the failure is not reported.
-/

namespace ControlPlane.Program

open CommandLine

/-! ## 1. Reports -/

/-- A text stands in another. -/
def StandsIn (part text : String) : Prop := part.toList <:+: text.toList

instance (part text : String) : Decidable (StandsIn part text) :=
  inferInstanceAs (Decidable (part.toList <:+: text.toList))

theorem standsIn_append_left (part more : String) : StandsIn part (part ++ more) := by
  unfold StandsIn
  rw [String.toList_append]
  exact (List.prefix_append part.toList more.toList).isInfix

theorem StandsIn.append_right {part text : String} (h : StandsIn part text) (before : String) :
    StandsIn part (before ++ text) := by
  unfold StandsIn at h ⊢
  rw [String.toList_append]
  exact h.trans (List.suffix_append before.toList text.toList).isInfix

/-- **What a user should be told of a listing**: if a page did not come, the code is that of a
    failure and the failure is written; and every item that can be rendered is printed. -/
structure Reported {M : Type} [Message M] (coloured : Bool) (items : List M)
    (failure : Option Status) (outcome : Outcome) : Prop where
  failed : ∀ status, failure = some status →
    outcome.exit = 1 ∧ StandsIn ((Report.failed status).printed coloured) outcome.stderr
  printed : ∀ item ∈ items, ∀ value, Render.toJson item = .ok value →
    StandsIn ((Report.value value).printed coloured) outcome.stdout

/-- Every value that is printed stands in what is printed. -/
theorem standsIn_printed (coloured : Bool) {values : List Json} {value : Json}
    (member : value ∈ values) :
    StandsIn ((Report.value value).printed coloured) (printed coloured values) := by
  induction values with
  | nil => cases member
  | cons first rest ih =>
    rw [printed, List.map_cons, String.join_cons, ← printed]
    rcases List.mem_cons.mp member with rfl | later
    · exact standsIn_append_left _ _
    · exact (ih later).append_right _

/-- **Where all items can be rendered, the outcome reports the listing.** -/
theorem reported_listed {M : Type} [Message M] (coloured : Bool) {items : List M}
    {values : List Json} (failure : Option Status)
    (rendered : items.map Render.toJson = values.map .ok) :
    Reported coloured items failure (listed coloured values failure) where
  failed status known := by
    subst known
    exact ⟨rfl, standsIn_append_left _ _⟩
  printed item member value ok := by
    have given : .ok value ∈ values.map (.ok : Json → Except RenderFault Json) := by
      rw [← rendered, ← ok]
      exact List.mem_map_of_mem member
    obtain ⟨value', mine, same⟩ := List.mem_map.mp given
    cases same
    have out : (listed coloured values failure).stdout = Program.printed coloured values := by
      cases failure with
      | none => rfl
      | some status => rfl
    rw [out]
    exact standsIn_printed coloured mine

/-! ## 2. Runs -/

/-- **The failure of a take is that of the page that did not come.** -/
theorem take_failure_recorded {κ α ε σ : Type} (call : ListCall κ α ε σ) (request : PageRequest κ)
    (limit : Nat) (s : σ) :
    let taken := (Pager.new request).take (recorded call) limit ⟨s, []⟩
    failuresIn taken.2.2.exchanges = taken.1.failure.toList := by
  intro taken
  have walk := Pager.take_walk (recorded call) limit (Pager.new request) ⟨s, []⟩
  rw [← Pager.take_failure]
  exact walk.failures_recorded rfl

section Runs

variable {v : Variables} {words : List String} {dialler : Dialler} {replies : List Reply}
  {invocation : Invocation} {l : Listing} {request : l.method.Request} {limit : Nat}
  {failure : Option Status}

/-- **What is reported of a listing.** Its command line is read and its endpoint is valid; its other
    options are left open, and so is how its connection is dialled and what the server replies. Of
    the pages that it asked for, one may have failed to come, with a status.

    If every item that it collected can be rendered, they are all printed and the failure is
    reported. If one cannot be, only those before the first such item are printed and only this is
    reported. If a page failed to come, the code is that of a failure in either case. -/
theorem run_reports (parsed : parse v.environment words = .ok invocation)
    (listing : listing? invocation.command = some ⟨l, request, limit⟩)
    (endpoint : Endpoint.isValid invocation.endpoint = true) :
    let taken := (Session.iterate l request).take (recorded (Session.list l invocation.options))
      limit ⟨Session.new dialler replies, []⟩
    failuresIn taken.2.2.exchanges = (failure.map .status).toList →
      ∃ outcome, (run v words dialler replies).1 = some outcome ∧
        (failure ≠ none → outcome.exit = 1) ∧
        (∀ values : List Json, taken.1.items.map Render.toJson = values.map .ok →
          outcome = listed v.coloursReports values failure ∧
            Reported v.coloursReports taken.1.items failure outcome) ∧
        ∀ before bad after, ∀ values : List Json, ∀ fault,
          taken.1.items = before ++ bad :: after → before.map Render.toJson = values.map .ok →
          Render.toJson bad = .error fault → outcome = stopped v.coloursReports values fault := by
  intro taken failed
  have same : taken.1.failure = failure.map .status := by
    have recorded := take_failure_recorded (Session.list l invocation.options)
      (l.toPageRequest request) limit (Session.new dialler replies)
    have first := congrArg List.head? (recorded.symm.trans failed)
    rwa [Option.head?_toList, Option.head?_toList] at first
  have haul : (⟨taken.1.items, failure⟩ : Haul l.Item Status).mapFailure .status = taken.1 := by
    rw [Haul.mapFailure, ← same]
  have ran : (run v words dialler replies).1 = listOutcome v.coloursReports taken.1 := by
    have alike := Pager.take_recorded (Session.list l invocation.options) limit
      (Session.iterate l request) ⟨Session.new dialler replies, []⟩
    rw [run_of_listing parsed listing endpoint]
    exact congrArg (listOutcome v.coloursReports) alike.symm
  rw [ran, ← haul]
  obtain ⟨outcome, ended, code⟩ : ∃ outcome, listOutcome v.coloursReports
      ((⟨taken.1.items, failure⟩ : Haul l.Item Status).mapFailure .status) = some outcome ∧
        (failure ≠ none → outcome.exit = 1) := by
    rcases rendered_or_stopped taken.1.items with
      ⟨values, rendered⟩ | ⟨before, bad, after, values, fault, split, rendered, wrong⟩
    · refine ⟨_, listOutcome_rendered v.coloursReports rendered, fun failed => ?_⟩
      cases failure with
      | none => exact absurd rfl failed
      | some status => rfl
    · exact ⟨_, listOutcome_stopped v.coloursReports split rendered wrong, fun _ => rfl⟩
  refine ⟨outcome, ended, code, fun values rendered => ?_, ?_⟩
  · have this := ended.symm.trans (listOutcome_rendered v.coloursReports rendered)
    rw [Option.some.injEq] at this
    rw [this]
    exact ⟨rfl, reported_listed v.coloursReports failure rendered⟩
  · intro before bad after values fault split rendered wrong
    have this := ended.symm.trans (listOutcome_stopped v.coloursReports split rendered wrong)
    rw [Option.some.injEq] at this
    exact this

end Runs

/-- An instance that was created too late for its time to be rendered. -/
def ageless : Instance := { id := "a", createdAt := some ⟨253402300800, 0⟩ }

/-- A server that gives it and another one, and is gone then. -/
def agelessOutage : List Reply :=
  let page : ListInstancesResponse := ⟨[ageless, { id := "b" }], "t"⟩
  [⟨0, fun | .listInstances => .ok page | _ => .error scriptExhausted⟩, ⟨0, fun _ => .error gone⟩]

/-- The words of a list of instances. -/
def instancesOf : List String := ["instances", "list", "--folder-id", "f"]

/-- The run of this list. -/
def agelessRun : Option Outcome :=
  (run (.ofList []) instancesOf ⟨[], Dialler.success⟩ agelessOutage).1

/-- Its take, with a record. -/
def agelessTake : Haul Instance CallFault × Pager FolderScope Instance CallFault ×
    Recorded FolderScope Instance CallFault Session :=
  (Session.iterate .instances (⟨"f", 0, "", ""⟩ : ListInstancesRequest)).take
    (recorded (Session.list .instances ⟨[], none⟩)) 0
    ⟨Session.new ⟨[], Dialler.success⟩ agelessOutage, []⟩

theorem agelessTake_failed : failuresIn agelessTake.2.2.exchanges = [.status gone] := by
  decide +kernel

/-- A run that meets both failures. -/
theorem run_reports_ageless :
    failuresIn agelessTake.2.2.exchanges = [.status gone] ∧
      agelessRun = some (stopped false [] .timeOutOfRange) := by
  have reports := @run_reports (.ofList []) instancesOf ⟨[], Dialler.success⟩ agelessOutage
    ⟨Endpoint.default, [], none, .listInstances "f" "" ⟨0, 0⟩⟩ .instances
    (⟨"f", 0, "", ""⟩ : ListInstancesRequest) 0 (some gone) rfl rfl (by decide +kernel)
  obtain ⟨outcome, ended, _, _, hidden⟩ := reports agelessTake_failed
  refine ⟨agelessTake_failed, ?_⟩
  rw [agelessRun, ended, hidden [] ageless [{ id := "b" }] [] .timeOutOfRange rfl rfl rfl]
  rfl

/-- **A listing that failed is not always reported**: this run does not write the status of the page
    that did not come, nor does it print the instance behind the one that cannot be rendered. -/
theorem status_hidden :
    (¬ ∀ (v : Variables) (words : List String) (dialler : Dialler) (replies : List Reply)
      (invocation : Invocation) (l : Listing) (request : l.method.Request) (limit : Nat)
      (failure : Option Status),
      parse v.environment words = .ok invocation →
      listing? invocation.command = some ⟨l, request, limit⟩ →
      Endpoint.isValid invocation.endpoint = true →
      let taken := (Session.iterate l request).take (recorded (Session.list l invocation.options))
        limit ⟨Session.new dialler replies, []⟩
      failuresIn taken.2.2.exchanges = (failure.map .status).toList →
        ∃ outcome, (run v words dialler replies).1 = some outcome ∧
          Reported v.coloursReports taken.1.items failure outcome) ∧
    ∃ outcome, agelessRun = some outcome ∧
      ¬ StandsIn ((Report.failed gone).printed false) outcome.stderr ∧
      ∃ item ∈ agelessTake.1.items, ∃ value, Render.toJson item = .ok value ∧
        ¬ StandsIn ((Report.value value).printed false) outcome.stdout := by
  have ran : agelessRun = some (stopped false [] .timeOutOfRange) := by decide +kernel
  have silent : ¬ StandsIn ((Report.failed gone).printed false)
      (stopped false [] .timeOutOfRange).stderr := by decide +kernel
  refine ⟨fun all => ?_, _, ran, silent, { id := "b" }, ?_, _, rfl, ?_⟩
  · obtain ⟨outcome, ended, reported⟩ := all (.ofList []) instancesOf ⟨[], Dialler.success⟩
      agelessOutage ⟨Endpoint.default, [], none, .listInstances "f" "" ⟨0, 0⟩⟩ .instances
      (⟨"f", 0, "", ""⟩ : ListInstancesRequest) 0 (some gone) rfl rfl (by decide +kernel)
      agelessTake_failed
    have same : agelessRun = some outcome := ended
    rw [ran, Option.some.injEq] at same
    subst same
    exact silent (reported.failed gone rfl).2
  · exact List.mem_cons_of_mem ageless (List.mem_cons_self (l := []))
  · decide +kernel

end ControlPlane.Program
