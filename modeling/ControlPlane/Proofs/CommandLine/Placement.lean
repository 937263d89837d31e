import ControlPlane.Proofs.CommandLine.Settings

/-!
# An endpoint and a deadline may stand anywhere

The endpoint and the deadline of a line are read at the place where they stand, and looked for at all
places afterwards:

* `Sets` -- what an endpoint or a deadline changes of the values of its level, and nothing else;
* `giveAll_inserted` -- **it may be read behind the other pieces of its place**;
* `Line.parse_moved` -- **it may be read at another place**, if there is no more than one on the line;
* `parse_settings` -- **an endpoint and a deadline are what the line says, wherever it says so**.
-/

namespace ControlPlane.CommandLine

open List (Forall₂)

/-! ## 1. At one place -/

/-- **What an endpoint or a deadline changes** of the values of its level. -/
inductive Sets : Flag → String → (Given → Given) → Prop where
  | endpoint {text : String} : Sets .endpoint text fun g => { g with endpoint := some text }
  | timeout {text : String} {d : Duration} (read : readTimeout text = .ok d) :
      Sets .timeout text fun g => { g with timeout := some d }

namespace Sets

variable {f f' : Flag} {text value : String} {set : Given → Given} {g g' : Given}
  {spelling : Spelling}

/-- What is set is set for good. -/
theorem has (sets : Sets f text set) (g : Given) : (set g).has f = true := by
  cases sets <;> rfl

/-- The values of other options are added as before. -/
theorem put (sets : Sets f text set) (other : f' ≠ f) :
    (set g).put f' value = (g.put f' value).map set := by
  cases f' with
  | header => cases sets <;> simp only [Given.put] <;> cases readHeader value <;> rfl
  | pageSize => cases sets <;> simp only [Given.put] <;> cases readPageSize value <;> rfl
  | limit => cases sets <;> simp only [Given.put] <;> cases readLimit value <;> rfl
  | timeout =>
    cases sets with
    | endpoint => simp only [Given.put]; cases readTimeout value <;> rfl
    | timeout => exact absurd rfl other
  | endpoint =>
    cases sets with
    | endpoint => exact absurd rfl other
    | timeout => rfl
  | folderId | filter | help | version => cases sets <;> rfl

/-- **An endpoint or a deadline is given** where none was given before. -/
theorem give_eq_some_iff (setting : f = .endpoint ∨ f = .timeout) :
    Piece.give g (.option f value spelling) = some g' ↔
      g.has f = false ∧ ∃ set, Sets f value set ∧ g' = set g := by
  rw [give_option_eq_some_iff]
  refine and_congr_right fun _ => ⟨fun added => ?_, ?_⟩
  · rcases setting with rfl | rfl
    · cases added
      exact ⟨_, .endpoint, rfl⟩
    · cases added with
      | timeout read => exact ⟨_, .timeout read, rfl⟩
  · rintro ⟨_, sets, rfl⟩
    cases sets with
    | endpoint => exact .endpoint
    | timeout read => exact .timeout read

/-- **It does not matter whether a piece comes before it or behind it.** -/
theorem give (sets : Sets f text set) (q : Piece) (other : q.value? f = none) :
    Piece.give (set g) q = (Piece.give g q).map set := by
  cases q with
  | argument word =>
    have same : (set g).id = g.id := by cases sets <;> rfl
    rw [Piece.give, Piece.give, same]
    split
    · cases sets <;> rfl
    · rfl
  | option f' value spelling =>
    have other : f' ≠ f := by
      intro same
      rw [Piece.value?, if_pos same] at other
      cases other
    have same : (set g).has f' = g.has f' := by
      cases sets <;> cases f' <;> first | rfl | exact absurd rfl other
    rw [Piece.give, Piece.give, same, sets.put other]
    split
    · rfl
    · cases g.put f' value <;> rfl

end Sets

section Pieces

variable {f : Flag} {value : String} {spelling : Spelling} {set : Given → Given} {g g' : Given}
  {pieces front back : List Piece}

/-- So it does not for pieces that give no other value to the same option. -/
theorem Sets.giveAll (sets : Sets f value set) (absent : valuesOf f pieces = []) :
    giveAll (set g) pieces = (giveAll g pieces).map set := by
  induction pieces generalizing g with
  | nil => rfl
  | cons q others ih =>
    rw [valuesOf, List.filterMap_eq_nil_iff, List.forall_mem_cons] at absent
    rw [CommandLine.giveAll, CommandLine.giveAll, List.foldlM_cons, List.foldlM_cons,
      sets.give q absent.1]
    cases Piece.give g q with
    | none => rfl
    | some between => exact ih (List.filterMap_eq_nil_iff.mpr absent.2)

theorem Given.endpoint_eq_none (fresh : g.has .endpoint = false) : g.endpoint = none :=
  Option.isNone_iff_eq_none.mp (Option.isSome_eq_false_iff.mp fresh)

theorem Given.timeout_eq_none (fresh : g.has .timeout = false) : g.timeout = none :=
  Option.isNone_iff_eq_none.mp (Option.isSome_eq_false_iff.mp fresh)

/-- An option that no piece names has no value. -/
theorem has_of_absent (setting : f = .endpoint ∨ f = .timeout) (absent : valuesOf f pieces = [])
    (given : giveAll {} pieces = some g) : g.has f = false := by
  rcases setting with rfl | rfl
  · have none := giveAll_endpoint given
    rw [absent, Option.toList_eq_nil_iff] at none
    rw [Given.has, none]
    rfl
  · have none := giveAll_timeout given
    rw [absent, List.forall₂_nil_left_iff, Option.toList_eq_nil_iff] at none
    rw [Given.has, none]
    rfl

/-- **An endpoint or a deadline may be read behind the other pieces of its place.** -/
theorem giveAll_inserted (setting : f = .endpoint ∨ f = .timeout)
    (absent : valuesOf f (front ++ back) = []) :
    giveAll {} (front ++ .option f value spelling :: back) = some g ↔
      ∃ set b, Sets f value set ∧ giveAll {} (front ++ back) = some b ∧ g = set b := by
  rw [valuesOf_append, List.append_eq_nil_iff] at absent
  rw [giveAll_append_eq_some_iff]
  constructor
  · rintro ⟨between, inFront, behind⟩
    rw [giveAll, List.foldlM_cons] at behind
    obtain ⟨after, here, behind⟩ := Option.bind_eq_some_iff.mp behind
    obtain ⟨_, set, sets, rfl⟩ := (Sets.give_eq_some_iff setting).mp here
    rw [← giveAll, sets.giveAll absent.2] at behind
    obtain ⟨b, given, rfl⟩ := Option.map_eq_some_iff.mp behind
    exact ⟨set, b, sets, giveAll_append_eq_some_iff.mpr ⟨between, inFront, given⟩, rfl⟩
  · rintro ⟨set, b, sets, given, rfl⟩
    obtain ⟨between, inFront, behind⟩ := giveAll_append_eq_some_iff.mp given
    have fresh := has_of_absent setting absent.1 inFront
    refine ⟨between, inFront, ?_⟩
    rw [giveAll, List.foldlM_cons,
      (Sets.give_eq_some_iff setting).mpr ⟨fresh, set, sets, rfl⟩]
    change giveAll (set between) back = _
    rw [sets.giveAll absent.2, behind]
    rfl

end Pieces

/-! ## 2. At any place -/

section Places

variable {f : Flag} {value : String} {spelling : Spelling} {bare extra : Place → List Piece}
  {givens : Place → Given} {place : Place} {front back : List Piece}

/-- Values of the three places with those of one changed. -/
def changedAt (set : Given → Given) (b : Place → Given) (place : Place) : Place → Given :=
  Function.update b place (set (b place))

/-- **What is read where an endpoint or a deadline stands at a place**: all but that, and it. -/
theorem giveAll_inserted_iff (setting : f = .endpoint ∨ f = .timeout)
    (absent : ∀ q, valuesOf f (bare q ++ extra q) = []) (split : bare place = front ++ back) :
    (∀ q, giveAll {} (Function.update bare place (front ++ .option f value spelling :: back) q ++
        extra q) = some (givens q)) ↔
      ∃ set b, Sets f value set ∧ (∀ q, giveAll {} (bare q ++ extra q) = some (b q)) ∧
        givens = changedAt set b place := by
  have absent' := absent place
  rw [split, List.append_assoc] at absent'
  constructor
  · intro given
    have here := given place
    rw [Function.update_self, List.append_assoc, List.cons_append,
      giveAll_inserted setting absent'] at here
    obtain ⟨set, b, sets, given', same⟩ := here
    refine ⟨set, Function.update givens place b, sets, fun q => ?_, ?_⟩
    · by_cases there : q = place
      · subst there
        rw [Function.update_self, split, List.append_assoc]
        exact given'
      · have other := given q
        rw [Function.update_of_ne there] at other ⊢
        exact other
    · rw [changedAt, Function.update_self, Function.update_idem, ← same, Function.update_eq_self]
  · rintro ⟨set, b, sets, given, rfl⟩ q
    by_cases there : q = place
    · subst there
      rw [changedAt, Function.update_self, Function.update_self, List.append_assoc, List.cons_append,
        giveAll_inserted setting absent']
      refine ⟨set, b q, sets, ?_, rfl⟩
      rw [← List.append_assoc, ← split]
      exact given q
    · rw [changedAt, Function.update_of_ne there, Function.update_of_ne there]
      exact given q

variable {set : Given → Given} {b : Place → Given} {text : String} {env : Environment} {l : Level}

theorem changedAt_cases (set : Given → Given) (b : Place → Given) (place q : Place) :
    changedAt set b place q = set (b q) ∨ changedAt set b place q = b q := by
  by_cases here : q = place
  · subst here
    exact .inl (Function.update_self _ _ _)
  · exact .inr (Function.update_of_ne here _ _)

/-- **An endpoint is found at any place**, if it stands at one only. -/
theorem Sets.endpointOf_changedAt (sets : Sets f text set) (fresh : ∀ q, (b q).has f = false)
    (env : Environment) (place place' : Place) :
    endpointOf env (inOrder (changedAt set b place)) =
      endpointOf env (inOrder (changedAt set b place')) := by
  cases sets with
  | endpoint =>
    have none : ∀ q, (b q).endpoint = none := fun q => Given.endpoint_eq_none (fresh q)
    cases place <;> cases place' <;>
      simp [endpointOf, inOrder, innermost, changedAt, Function.update, none]
  | timeout =>
    cases place <;> cases place' <;> simp [endpointOf, inOrder, innermost, changedAt, Function.update]

/-- **So is a deadline.** -/
theorem Sets.timeoutOf_changedAt (sets : Sets f text set) (fresh : ∀ q, (b q).has f = false)
    (env : Environment) (place place' : Place) :
    timeoutOf env (inOrder (changedAt set b place)) =
      timeoutOf env (inOrder (changedAt set b place')) := by
  cases sets with
  | endpoint =>
    cases place <;> cases place' <;> simp [timeoutOf, inOrder, innermost, changedAt, Function.update]
  | timeout =>
    have none : ∀ q, (b q).timeout = none := fun q => Given.timeout_eq_none (fresh q)
    cases place <;> cases place' <;>
      simp [timeoutOf, inOrder, innermost, changedAt, Function.update, none]

/-- The headers are the same wherever it stands. -/
theorem Sets.headersOf_changedAt (sets : Sets f text set) (b : Place → Given) (place : Place) :
    headersOf (inOrder (changedAt set b place)) = headersOf (inOrder b) := by
  have same : ∀ q, (changedAt set b place q).headers = (b q).headers := by
    intro q
    rcases changedAt_cases set b place q with here | here
    · rw [here]
      cases sets <;> rfl
    · rw [here]
  simp only [headersOf, inOrder, List.map_cons, List.map_nil, same]

/-- What an action needs is neither of them. -/
theorem Sets.missing_changedAt (sets : Sets f text set) (b : Place → Given) (place q : Place) :
    missing { level := l, given := changedAt set b place q } =
      missing { level := l, given := b q } := by
  rcases changedAt_cases set b place q with here | here
  · rw [here]
    cases sets <;> cases l <;> rfl
  · rw [here]

theorem Sets.commandOf_changedAt (sets : Sets f text set) (b : Place → Given) (place q : Place) :
    commandOf l (changedAt set b place q) = commandOf l (b q) := by
  rcases changedAt_cases set b place q with here | here
  · rw [here]
    cases sets <;> cases l <;> rfl
  · rw [here]

/-- **The variables that are not at fault at three places are not at fault at any**, as two of these
    have no deadline of their own. -/
theorem Sets.checkVariables_changedAt (sets : Sets f text set) (fresh : ∀ q, (b q).has f = false)
    {place : Place} (checked : ∀ q, checkVariables env (changedAt set b place q) = .ok ())
    (place' q : Place) : checkVariables env (changedAt set b place' q) = .ok () := by
  have bare : ∀ q, checkVariables env (b q) = .ok () := by
    intro q
    cases sets with
    | endpoint =>
      have here := checked q
      rcases changedAt_cases _ b place q with same | same <;> rw [same] at here <;> exact here
    | timeout =>
      obtain ⟨other, elsewhere⟩ : ∃ other : Place, other ≠ place := by
        cases place with
        | outer => exact ⟨.inner, nofun⟩
        | middle | inner => exact ⟨.outer, nofun⟩
      have there := checked other
      rw [changedAt, Function.update_of_ne elsewhere, checkVariables,
        Given.timeout_eq_none (fresh other)] at there
      rw [checkVariables, Given.timeout_eq_none (fresh q)]
      exact there
  rcases changedAt_cases set b place' q with here | here
  · rw [here]
    cases sets with
    | endpoint => exact bare q
    | timeout => rfl
  · rw [here]
    exact bare q

end Places

/-! ## 3. On a line -/

section Lines

variable {env : Environment} {line moved : Line} {i : Invocation} {f : Flag} {value : String}
  {spelling : Spelling}

/-- An option that stands once on a line stands nowhere else. -/
theorem absent_of_inserted {bare pieces : Place → List Piece}
    (inserted : Inserted (.option f value spelling) bare pieces)
    (once : (valuesOf f (pieces .outer) ++ valuesOf f (pieces .middle) ++
      valuesOf f (pieces .inner)).length ≤ 1) (q : Place) : valuesOf f (bare q) = [] := by
  obtain ⟨place, front, back, split, rfl⟩ := inserted
  have count : ∀ q, (valuesOf f (Function.update bare place
      (front ++ .option f value spelling :: back) q)).length =
        (valuesOf f (bare q)).length + if q = place then 1 else 0 := by
    intro q
    by_cases there : q = place
    · subst there
      have own : valuesOf f (.option f value spelling :: back) = value :: valuesOf f back :=
        List.filterMap_cons_some (if_pos rfl)
      rw [Function.update_self, split, if_pos rfl, valuesOf_append, valuesOf_append, own,
        List.length_append, List.length_append, List.length_cons]
      omega
    · rw [Function.update_of_ne there, if_neg there, Nat.add_zero]
  rw [List.length_append, List.length_append, count, count, count] at once
  rw [← List.length_eq_zero_iff]
  cases place <;> cases q <;> simp only [reduceCtorEq, if_true, if_false] at once <;> omega

/-- **An endpoint or a deadline that stands once on a line may stand anywhere on it.** -/
theorem Line.parse_moved (setting : f = .endpoint ∨ f = .timeout)
    (once : (line.values f).length ≤ 1) (move : Moved (.option f value spelling) line moved)
    (accepted : parse env line.words = .ok i) : parse env moved.words = .ok i := by
  obtain ⟨givens, gives⟩ := parse_eq_ok_iff.mp accepted
  obtain ⟨bare, here, there⟩ := move.piece
  have absent : ∀ q, valuesOf f (bare q ++ line.arguments q) = [] := by
    intro q
    have none := line.valuesOf_arguments f q
    rw [valuesOf_append, absent_of_inserted here once q, none, List.append_nil]
  obtain ⟨place, front, back, split, same⟩ := here
  obtain ⟨place', front', back', split', same'⟩ := there
  have given := gives.given
  simp only [written, same] at given
  obtain ⟨set, b, sets, bareGiven, rfl⟩ := (giveAll_inserted_iff setting absent split).mp given
  have fresh : ∀ q, (b q).has f = false := fun q => has_of_absent setting (absent q) (bareGiven q)
  have arguments : moved.arguments = line.arguments := by
    funext q
    cases q with
    | outer | middle => rfl
    | inner => rw [Line.arguments, Line.arguments, move.behind]
  refine parse_eq_ok_iff.mpr ⟨changedAt set b place', ?_, ?_, ?_, ?_, ?_, ?_, ?_⟩
  · simp only [written, same', arguments]
    exact (giveAll_inserted_iff setting absent split').mpr ⟨set, b, sets, bareGiven, rfl⟩
  · exact sets.checkVariables_changedAt fresh gives.checked place'
  · rw [move.action, sets.missing_changedAt, ← sets.missing_changedAt b place]
    exact gives.complete
  · rw [move.action, sets.commandOf_changedAt, ← sets.commandOf_changedAt b place]
    exact gives.command
  · rw [gives.endpoint]
    exact sets.endpointOf_changedAt fresh env place place'
  · rw [gives.headers, sets.headersOf_changedAt, sets.headersOf_changedAt]
  · rw [gives.timeout]
    exact sets.timeoutOf_changedAt fresh env place place'

/-- The one value that is there. -/
theorem innermost_eq_head? {α : Type} (a b c : Option α)
    (once : (a.toList ++ b.toList ++ c.toList).length ≤ 1) :
    innermost [a, b, c] = (a.toList ++ b.toList ++ c.toList).head? := by
  cases a <;> cases b <;> cases c <;> first | rfl | simp at once

/-- **The endpoint is the one on the line**, or its variable, or the default. -/
theorem Line.Gives.endpoint_eq {givens : Place → Given} (gives : line.Gives env givens i)
    (once : (line.values .endpoint).length ≤ 1) :
    i.endpoint = ((line.values .endpoint).head? <|> env.endpoint).getD Endpoint.default := by
  have found : ∀ place, (givens place).endpoint.toList = valuesOf .endpoint (line.pieces place) :=
    fun place => (giveAll_endpoint (gives.given place)).trans (line.valuesOf_written _ place)
  rw [values, ← found, ← found, ← found] at once ⊢
  rw [gives.endpoint, ← innermost_eq_head? _ _ _ once]
  rfl

/-- The variable of the deadline is read, where the line says nothing. -/
theorem readTimeout_variable {g : Given} (checked : checkVariables env g = .ok ())
    (absent : g.timeout = none) : env.timeout.map readTimeout =
      (env.timeout.bind fun text => (readTimeout text).toOption).map .ok := by
  rw [checkVariables, absent] at checked
  cases written : env.timeout with
  | none => rfl
  | some text =>
    simp only [written] at checked
    cases value : readTimeout text with
    | error => simp only [value, reduceCtorEq] at checked
    | ok d => simp [value, Except.toOption]

/-- **The deadline is the one on the line**, or that of its variable, or there is none. -/
theorem Line.Gives.timeout_eq {givens : Place → Given} (gives : line.Gives env givens i)
    (once : (line.values .timeout).length ≤ 1) :
    ((line.values .timeout).head? <|> env.timeout).map readTimeout = i.timeout.map .ok := by
  have read : ∀ place, Forall₂ (fun text d => readTimeout text = .ok d)
      (valuesOf .timeout (line.pieces place)) (givens place).timeout.toList := by
    intro place
    rw [← line.valuesOf_written]
    exact giveAll_timeout (gives.given place)
  have all : Forall₂ (fun text d => readTimeout text = .ok d) (line.values .timeout)
      ((givens .outer).timeout.toList ++ (givens .middle).timeout.toList ++
        (givens .inner).timeout.toList) :=
    List.rel_append (List.rel_append (read .outer) (read .middle)) (read .inner)
  have found : timeoutOf env (inOrder givens) =
      (((givens .outer).timeout.toList ++ (givens .middle).timeout.toList ++
        (givens .inner).timeout.toList).head? <|>
          env.timeout.bind fun text => (readTimeout text).toOption) := by
    rw [← innermost_eq_head? _ _ _ (all.length_eq ▸ once)]
    rfl
  rw [gives.timeout, found]
  cases texts : line.values .timeout with
  | nil =>
    rw [texts, List.forall₂_nil_left_iff] at all
    have none := Option.toList_eq_nil_iff.mp (List.append_eq_nil_iff.mp all).2
    rw [all]
    exact readTimeout_variable (gives.checked .inner) none
  | cons text others =>
    rw [texts] at all
    obtain ⟨d, ds, value, _, same⟩ := List.forall₂_cons_left_iff.mp all
    rw [same]
    simp [value]

/-- An endpoint or a deadline may stand at every level, if it may stand at one. -/
theorem Piece.fits_of_setting (setting : f = .endpoint ∨ f = .timeout) {l l' : Level}
    (fits : (Piece.option f value spelling).Fits l) : (Piece.option f value spelling).Fits l' := by
  refine ⟨?_, fits.2⟩
  rcases setting with rfl | rfl <;> cases l' <;> decide

/-- What holds of all pieces with one more holds of that one and of the others. -/
theorem forall_mem_inserted {x : Piece} {bare : Place → List Piece} {place : Place}
    {front back : List Piece} (split : bare place = front ++ back) {P : Place → Piece → Prop} :
    (∀ q, ∀ p ∈ Function.update bare place (front ++ x :: back) q, P q p) ↔
      P place x ∧ ∀ q, ∀ p ∈ bare q, P q p := by
  rw [Function.forall_update_iff bare fun q pieces => ∀ p ∈ pieces, P q p,
    List.forall_mem_append, List.forall_mem_cons]
  constructor
  · rintro ⟨⟨inFront, itself, behind⟩, elsewhere⟩
    refine ⟨itself, fun q => ?_⟩
    by_cases here : q = place
    · subst here
      rw [split]
      exact List.forall_mem_append.mpr ⟨inFront, behind⟩
    · exact elsewhere q here
  · rintro ⟨itself, all⟩
    obtain ⟨inFront, behind⟩ := List.forall_mem_append.mp (split ▸ all place)
    exact ⟨⟨inFront, itself, behind⟩, fun q _ => all q⟩

/-- **It can be moved to any place of a line.** -/
theorem Line.exists_moved (setting : f = .endpoint ∨ f = .timeout) {bare : Place → List Piece}
    (here : Inserted (.option f value spelling) bare line.pieces) {place : Place}
    {front back : List Piece} (split : bare place = front ++ back) :
    ∃ moved : Line, Moved (.option f value spelling) line moved ∧
      moved.pieces = Function.update bare place (front ++ .option f value spelling :: back) := by
  obtain ⟨itself, others⟩ : (∃ l, (Piece.option f value spelling).Fits l) ∧
      ∀ q, ∀ p ∈ bare q, p.Fits (q.level line.resource.2 line.action.2) := by
    obtain ⟨place₀, front₀, back₀, split₀, same⟩ := here
    have fits := line.fits
    rw [same] at fits
    exact ((forall_mem_inserted split₀).mp fits).imp_left fun h => ⟨_, h⟩
  obtain ⟨l, itself⟩ := itself
  have fits := (forall_mem_inserted split).mpr ⟨Piece.fits_of_setting setting itself, others⟩
  exact ⟨{ line with pieces := _, fits := fits },
    ⟨rfl, rfl, rfl, bare, here, place, front, back, split, rfl⟩, rfl⟩

/-- **An endpoint and a deadline are what the line says, wherever it says so.** Whatever command line
    is run, it can be taken for one line only. If there is one endpoint on it and one deadline at most,
    the invocation has these, and else those of the variables, or the default endpoint and no
    deadline. Either of them may be moved, with its value, to any other place of the line: the
    invocation is the same. And there is such a line for each place, with the option anywhere among
    what stands there. -/
theorem parse_settings {words : List String} (accepted : parse env words = .ok i) :
    ∃ line : Line, line.words = words ∧ (∀ other : Line, other.words = words → other = line) ∧
      ((line.values .endpoint).length ≤ 1 → (line.values .timeout).length ≤ 1 →
        i.endpoint = ((line.values .endpoint).head? <|> env.endpoint).getD Endpoint.default ∧
        ((line.values .timeout).head? <|> env.timeout).map readTimeout = i.timeout.map .ok ∧
        ∀ f value spelling moved, f = .endpoint ∨ f = .timeout →
          Moved (.option f value spelling) line moved → parse env moved.words = .ok i) ∧
      ∀ f value spelling bare place front back, f = .endpoint ∨ f = .timeout →
        Inserted (.option f value spelling) bare line.pieces → bare place = front ++ back →
          ∃ moved : Line, Moved (.option f value spelling) line moved ∧
            moved.pieces =
              Function.update bare place (front ++ .option f value spelling :: back) := by
  obtain ⟨line, rfl⟩ := exists_line accepted
  obtain ⟨givens, gives⟩ := Line.parse_eq_ok_iff.mp accepted
  refine ⟨line, rfl, fun other same => Line.words_injective same, fun endpoint timeout =>
    ⟨gives.endpoint_eq endpoint, gives.timeout_eq timeout, ?_⟩,
    fun _ _ _ _ _ _ _ setting here split => Line.exists_moved setting here split⟩
  intro f value spelling moved setting move
  refine Line.parse_moved setting ?_ move accepted
  rcases setting with rfl | rfl
  · exact endpoint
  · exact timeout

end Lines

/-- An endpoint before the resource, and a deadline behind it, with a header whose value looks like
    an endpoint. -/
def settingsApart : Line :=
  .instancesGet
    (Place.each [.option .endpoint "get" .apart] [.option .timeout "1.5" .joined]
      [.option .header "x:--endpoint=y" .letter])
    (some ["--timeout=2"]) (by rintro (_ | _ | _) <;> decide)

/-- The line with the endpoint behind the action. -/
def settingsTogether : Line :=
  .instancesGet
    (Place.each [] [.option .timeout "1.5" .joined]
      [.option .header "x:--endpoint=y" .letter, .option .endpoint "get" .apart])
    (some ["--timeout=2"]) (by rintro (_ | _ | _) <;> decide)

/-- What is read of it: the variables do not matter. -/
def settingsRead : Invocation :=
  ⟨"get", [("x", "--endpoint=y")], some ⟨1500000000⟩, .getInstance "--timeout=2"⟩

/-- The endpoint may be moved. -/
theorem settingsApart_moved :
    settingsApart.words = ["--endpoint", "get", "instances", "--timeout=1.5", "get",
        "-Hx:--endpoint=y", "--", "--timeout=2"] ∧
      parse ⟨some "e", some "3"⟩ settingsApart.words = .ok settingsRead ∧
      Moved (.option .endpoint "get" .apart) settingsApart settingsTogether ∧
      parse ⟨some "e", some "3"⟩ settingsTogether.words = .ok settingsRead := by
  have accepted : parse ⟨some "e", some "3"⟩ settingsApart.words = .ok settingsRead := by
    decide +kernel
  have move : Moved (.option .endpoint "get" .apart) settingsApart settingsTogether := by
    refine ⟨rfl, rfl, rfl, Function.update settingsApart.pieces .outer [], ?_, ?_⟩
    · refine ⟨.outer, [], [], rfl, ?_⟩
      funext q
      cases q <;> rfl
    · refine ⟨.inner, [.option .header "x:--endpoint=y" .letter], [], rfl, ?_⟩
      funext q
      cases q <;> rfl
  obtain ⟨line, _, unique, settings, _⟩ := parse_settings accepted
  obtain rfl := unique settingsApart rfl
  obtain ⟨_, _, moved⟩ := settings (by decide) (by decide)
  exact ⟨by decide +kernel, accepted, move, moved _ _ _ _ (.inl rfl) move⟩

end ControlPlane.CommandLine
