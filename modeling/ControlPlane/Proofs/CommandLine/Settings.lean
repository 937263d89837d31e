import Mathlib.Data.List.Forall2
import ControlPlane.Proofs.CommandLine.Accepted

/-!
# What the options of the program say, wherever they stand

The options of the program may stand at each of the three places of a line. The values of an option
are collected at each place by itself, and only the headers of one place are kept:

* `giveAll_collects` -- the values of an option at a place are those that were read there;
* `parse_headers` -- **the headers are those of the innermost place that has any**;
* `outer_header_lost` -- so a header is lost if another stands behind the resource or the action.
-/

namespace ControlPlane.CommandLine

open List (Forall₂)

/-! ## 1. Values at a place -/

section Collecting

variable {g g' : Given} {p : Piece} {pieces : List Piece} {f : Flag} {value : String}
  {spelling : Spelling}

/-- **An option gives its value once**, if it may stand once. -/
theorem give_option_eq_some_iff :
    Piece.give g (.option f value spelling) = some g' ↔ g.has f = false ∧ Added g value f g' := by
  rw [Piece.give]
  cases g.has f with
  | true => simp
  | false =>
    rw [if_neg Bool.false_ne_true, toOption_eq_some_iff, put_eq_ok_iff]
    exact ⟨fun h => ⟨rfl, h⟩, fun h => h.2⟩

theorem give_argument_eq_some_iff {word : String} :
    Piece.give g (.argument word) = some g' ↔ g.id = none ∧ g' = { g with id := some word } := by
  rw [Piece.give]
  cases g.id with
  | some => simp
  | none =>
    rw [Option.isNone_none, if_pos rfl, Option.some.injEq]
    exact ⟨fun h => ⟨rfl, h.symm⟩, fun h => h.2.symm⟩

/-- **What an option adds to a field of its own, all pieces do**, in their order. -/
theorem giveAll_collects {α : Type} (R : String → α → Prop) (field : Given → List α)
    (argument : ∀ (g : Given) (word : String), field { g with id := some word } = field g)
    (other : ∀ {g g' : Given} {f' : Flag} {value : String}, f' ≠ f → Added g value f' g' →
      field g' = field g)
    (own : ∀ {g g' : Given} {value : String}, g.has f = false → Added g value f g' →
      ∃ a, R value a ∧ field g' = field g ++ [a])
    (given : giveAll g pieces = some g') :
    ∃ as, Forall₂ R (valuesOf f pieces) as ∧ field g' = field g ++ as := by
  induction pieces generalizing g with
  | nil =>
    cases given
    exact ⟨[], .nil, (List.append_nil _).symm⟩
  | cons p others ih =>
    rw [giveAll, List.foldlM_cons] at given
    obtain ⟨between, first, later⟩ := Option.bind_eq_some_iff.mp given
    obtain ⟨as, behind, same⟩ := ih later
    cases p with
    | argument word =>
      obtain ⟨_, rfl⟩ := give_argument_eq_some_iff.mp first
      exact ⟨as, behind, by rw [same, argument]⟩
    | option f' value spelling =>
      obtain ⟨fresh, added⟩ := give_option_eq_some_iff.mp first
      by_cases mine : f' = f
      · subst mine
        obtain ⟨a, read, same'⟩ := own fresh added
        have values : valuesOf f' (.option f' value spelling :: others) =
            value :: valuesOf f' others := List.filterMap_cons_some (if_pos rfl)
        rw [values]
        exact ⟨a :: as, .cons read behind, by rw [same, same', List.append_assoc]; rfl⟩
      · have values : valuesOf f (.option f' value spelling :: others) = valuesOf f others :=
          List.filterMap_cons_none (if_neg mine)
        rw [values]
        exact ⟨as, behind, by rw [same, other mine added]⟩

/-- **The endpoint is the one that is written**, as there is no more than one. -/
theorem giveAll_endpoint (given : giveAll {} pieces = some g) :
    g.endpoint.toList = valuesOf .endpoint pieces := by
  obtain ⟨as, written, same⟩ :=
    giveAll_collects (f := .endpoint) Eq (fun g => g.endpoint.toList) (fun _ _ => rfl)
      (fun other added => by
        cases added with
        | endpoint => exact absurd rfl other
        | _ => rfl)
      (fun fresh added => by
        have none := Option.isNone_iff_eq_none.mp (Option.isSome_eq_false_iff.mp fresh)
        cases added
        exact ⟨_, rfl, by rw [none]; rfl⟩) given
  rw [List.forall₂_eq_eq_eq] at written
  exact same.trans written.symm

/-- **So is the deadline.** -/
theorem giveAll_timeout (given : giveAll {} pieces = some g) :
    Forall₂ (fun text d => readTimeout text = .ok d) (valuesOf .timeout pieces)
      g.timeout.toList := by
  obtain ⟨ds, written, same⟩ :=
    giveAll_collects (f := .timeout) (fun text d => readTimeout text = .ok d)
      (fun g => g.timeout.toList) (fun _ _ => rfl)
      (fun other added => by
        cases added with
        | timeout => exact absurd rfl other
        | _ => rfl)
      (fun fresh added => by
        have none := Option.isNone_iff_eq_none.mp (Option.isSome_eq_false_iff.mp fresh)
        cases added with
        | timeout read => exact ⟨_, read, by rw [none]; rfl⟩) given
  change g.timeout.toList = ds at same
  rwa [same]

/-- **The headers are all that are written**, in their order. -/
theorem giveAll_headers (given : giveAll {} pieces = some g) :
    Forall₂ (fun text h => readHeader text = .ok h) (valuesOf .header pieces) g.headers := by
  obtain ⟨hs, written, same⟩ :=
    giveAll_collects (f := .header) (fun text h => readHeader text = .ok h) Given.headers
      (fun _ _ => rfl)
      (fun other added => by
        cases added with
        | header => exact absurd rfl other
        | _ => rfl)
      (fun _ added => by
        cases added with
        | header read => exact ⟨_, read, rfl⟩) given
  change g.headers = hs at same
  rwa [same]

end Collecting

/-! ## 2. Headers -/

section Places

variable {env : Environment} {line : Line} {givens : Place → Given} {i : Invocation}

/-- Behind two dashes there are no options. -/
theorem Line.valuesOf_arguments (line : Line) (f : Flag) (place : Place) :
    valuesOf f (line.arguments place) = [] := by
  cases place with
  | outer | middle => rfl
  | inner =>
    rw [valuesOf, arguments, List.filterMap_map]
    exact List.filterMap_eq_nil_iff.mpr fun _ _ => rfl

theorem Line.valuesOf_written (line : Line) (f : Flag) (place : Place) :
    valuesOf f (line.written place) = valuesOf f (line.pieces place) := by
  rw [written, valuesOf_append, line.valuesOf_arguments, List.append_nil]

/-- **The headers of the innermost of three places that has any.** -/
def innermostHeaders (headers : Place → List (String × String)) : List (String × String) :=
  if headers .inner ≠ [] then headers .inner
  else if headers .middle ≠ [] then headers .middle
  else headers .outer

theorem headersOf_eq (givens : Place → Given) :
    headersOf (inOrder givens) = innermostHeaders fun place => (givens place).headers := by
  simp only [headersOf, inOrder, innermost, innermostHeaders, List.map_cons, List.map_nil, List.foldl_cons,
    List.foldl_nil]
  cases (givens .inner).headers <;> cases (givens .middle).headers <;>
    cases (givens .outer).headers <;> rfl

/-- They are all headers, in order, exactly if one place has all of them. -/
theorem innermostHeaders_eq_iff (headers : Place → List (String × String)) :
    innermostHeaders headers = headers .outer ++ headers .middle ++ headers .inner ↔
      ∀ place place', headers place ≠ [] → headers place' ≠ [] → place = place' := by
  constructor
  · intro same place place' here here'
    -- as many as there are at one place are not those of two
    have count := congrArg List.length same
    have some : ∀ place, headers place ≠ [] → 0 < (headers place).length := fun _ =>
      List.length_pos_iff.mpr
    rw [List.length_append, List.length_append] at count
    unfold innermostHeaders at count
    have outer := some .outer
    have middle := some .middle
    have inner := some .inner
    cases place <;> cases place' <;> first | rfl | (exfalso; split at count <;> grind)
  · intro single
    have only : ∀ {place}, headers place ≠ [] → ∀ place', place' ≠ place → headers place' = [] :=
      fun here place' other => Classical.not_not.mp fun here' => other (single _ _ here' here)
    unfold innermostHeaders
    split
    · rename_i inner
      rw [only inner .outer nofun, only inner .middle nofun]
      rfl
    · rename_i inner
      rw [Classical.not_not.mp inner, List.append_nil]
      split
      · rename_i middle
        rw [only middle .outer nofun, List.nil_append]
      · rename_i middle
        rw [Classical.not_not.mp middle, List.append_nil]

/-- **The headers are those of the innermost place that has any.** Whatever command line is run, it
    can be taken for one line only. At each place of it the headers are read that stand there, in
    their order, and of these the invocation has those of one place. So it has all that stand on the
    line exactly if no two places have some. -/
theorem parse_headers {words : List String} (accepted : parse env words = .ok i) :
    ∃ line : Line, line.words = words ∧ (∀ other : Line, other.words = words → other = line) ∧
      ∃ headers : Place → List (String × String),
        (∀ place, Forall₂ (fun text h => readHeader text = .ok h)
          (valuesOf .header (line.pieces place)) (headers place)) ∧
        i.headers = innermostHeaders headers ∧
        (i.headers = headers .outer ++ headers .middle ++ headers .inner ↔
          ∀ place place', headers place ≠ [] → headers place' ≠ [] → place = place') := by
  obtain ⟨line, rfl⟩ := exists_line accepted
  obtain ⟨givens, gives⟩ := Line.parse_eq_ok_iff.mp accepted
  have found := gives.headers
  rw [headersOf_eq] at found
  refine ⟨line, rfl, fun other same => Line.words_injective same,
    fun place => (givens place).headers, fun place => ?_, found, ?_⟩
  · rw [← line.valuesOf_written]
    exact giveAll_headers (gives.given place)
  · rw [found]
    exact innermostHeaders_eq_iff _

/-- A header before the resource, and one behind the action. -/
def headersApart : Line :=
  .instancesGet
    (Place.each [.option .header "a:1" .letterApart] []
      [.option .header "b:2" .letterApart, .argument "i"])
    none (by rintro (_ | _ | _) <;> decide)

/-- **A header before the resource is lost** if another one stands behind the action. -/
theorem outer_header_lost :
    headersApart.words = ["-H", "a:1", "instances", "get", "-H", "b:2", "i"] ∧
      headersApart.values .header = ["a:1", "b:2"] ∧
      readHeader "a:1" = .ok ("a", "1") ∧ readHeader "b:2" = .ok ("b", "2") ∧
      parse .unset headersApart.words =
        .ok ⟨Endpoint.default, [("b", "2")], none, .getInstance "i"⟩ := by
  decide +kernel

/-- The headers of its places are read, but those of one place are left. -/
theorem headersApart_innermost :
    parse .unset headersApart.words =
        .ok ⟨Endpoint.default, [("b", "2")], none, .getInstance "i"⟩ ∧
      ∃ headers : Place → List (String × String),
        (∀ place, Forall₂ (fun text h => readHeader text = .ok h)
          (valuesOf .header (headersApart.pieces place)) (headers place)) ∧
        [("b", "2")] = innermostHeaders headers := by
  have accepted : parse .unset headersApart.words =
      .ok ⟨Endpoint.default, [("b", "2")], none, .getInstance "i"⟩ := by
    decide +kernel
  obtain ⟨line, _, unique, headers, read, innermost, _⟩ := parse_headers accepted
  obtain rfl := unique headersApart rfl
  exact ⟨accepted, headers, read, innermost⟩

end Places

end ControlPlane.CommandLine
