import SparqlScalar.Proofs.DeadOperands
import SparqlScalar.Proofs.ErrorSources

/-!
# Errors of the depth guard

    The guard TRIPS if an evaluation performs an expression at a level that may not be opened.  It
    SURFACES if its error is passed on by every construct on the way up.  Neither implies the other
    way round that a deep expression fails:

      an expression that is too deep but not performed does not trip the guard, and
      OR, AND, IN, NOT IN and COALESCE may put another outcome in the place of its error.

    If the guard does not trip, the limit is not seen: any greater limit gives the same run
    (`evaluateWithin_of_not_trips`).  If functions and patterns do not speak for the guard, its error
    is the outcome exactly if it surfaces (`depthLimitExceeded_iff_surfaces`).
-/

namespace SparqlScalar

namespace Environment

/-- Neither functions nor patterns give the error of the depth guard. -/
structure IsSilent (env : Environment) : Prop where
  functions : ∀ iri id arity apply, env.registry.get? iri = some (.byValue id arity apply) →
    ∀ terms limit, apply terms ≠ .error (.depthLimitExceeded limit)
  patterns : ∀ source, env.context.patterns = some source → ∀ pattern scope index limit,
    (source.solutions pattern scope index).item ≠ some (.error (.depthLimitExceeded limit))

/-- The evaluation within some levels performs an expression when no level is left. -/
def Trips (env : Environment) : Nat → Expression → State → Prop
  | 0, _, _ => True
  | levels + 1, e, s =>
    ∃ step ∈ env.performedWithin levels e s, ∃ place, step.query = .operand place ∧
      env.Trips levels (e.operand place) step.before

/-- The guard trips, and all constructs above pass its error on. -/
def Surfaces (env : Environment) : Nat → Expression → State → Prop
  | 0, _, _ => True
  | levels + 1, e, s =>
    ∃ before step after, env.performedWithin levels e s = before ++ step :: after ∧
      e.PassesOn (before.map Step.outcome) (after.map Step.outcome) ∧
        ∃ place, step.query = .operand place ∧ env.Surfaces levels (e.operand place) step.before

/-- The guard trips, and another outcome takes the place of its error. -/
def Absorbs (env : Environment) (e : Expression) (s : State) : Prop :=
  env.Trips env.config.maxDepth e s ∧ ¬ env.Surfaces env.config.maxDepth e s

variable {env : Environment}

/-- A performed operand is evaluated from the state before it. -/
theorem outcome_of_performed (h : env.registry.IsTransparent) {levels : Nat} {e : Expression}
    {s : State} {step : Step} {place : Nat} (hstep : step ∈ env.performedWithin levels e s)
    (hquery : step.query = .operand place) :
    step.outcome = ((env.evaluateWithin levels (e.operand place)).run step.before).1 := by
  unfold performedWithin at hstep
  rw [← trace_behaviour h] at hstep
  have hanswer := congrArg Step.outcome (Plan.mem_trace hstep)
  rw [hquery] at hanswer
  exact hanswer

/-- What an evaluation fails with is an error of the construct itself, or that of a performed
operand which the construct passes on. -/
theorem error_cases (h : env.registry.IsTransparent) {levels : Nat} {e : Expression} {s : State}
    {x : EvalError} (herror : ((env.evaluateWithin (levels + 1) e).run s).1 = .error x) :
    env.RaisesItself e x ∨
      ∃ before step after place, env.performedWithin levels e s = before ++ step :: after ∧
        e.PassesOn (before.map Step.outcome) (after.map Step.outcome) ∧
        step.query = .operand place ∧ place < e.operands.length ∧
        ((env.evaluateWithin levels (e.operand place)).run step.before).1 = .error x := by
  obtain ⟨own, hown, hrun⟩ := node_performed h (env.evaluateWithin levels) e s.deeper
  have hnode : ((env.node (env.evaluateWithin levels) e).run s.deeper).1 = .error x := herror
  rw [hrun] at hnode
  rcases error_source h hown hnode with hraises | ⟨outcomes, others, hsplit, hpass⟩
  · exact Or.inl hraises
  · -- outcomes are those of steps, so the steps split where the outcomes do
    obtain ⟨before, rest, heq, rfl, hrest⟩ := List.map_eq_append_iff.mp hsplit
    obtain ⟨step, after, rfl, hout, rfl⟩ := List.map_eq_cons_iff.mp hrest
    have hstep : step ∈ env.performedWithin levels e s := by
      show step ∈ env.performed _ e _
      rw [heq]
      exact List.mem_append_right before List.mem_cons_self
    obtain ⟨place, hquery, hlt⟩ := place_of_performed h hstep
    have hdeeper := (outcome_of_performed h hstep hquery).symm.trans hout
    exact Or.inr ⟨before, step, after, place, heq, hpass, hquery, hlt, hdeeper⟩

/-- An expression that is not nested deeper than the levels does not trip the guard. -/
theorem not_trips_of_depth_le (h : env.registry.IsTransparent) {levels : Nat} {e : Expression}
    {s : State} (hdepth : e.depth ≤ levels) : ¬ env.Trips levels e s := by
  induction levels generalizing e s with
  | zero => exact absurd (Nat.lt_of_lt_of_le e.depth_pos hdepth) (Nat.lt_irrefl 0)
  | succ levels ih =>
      rintro ⟨step, hstep, place, hquery, htrips⟩
      obtain ⟨other, hother, hlt⟩ := place_of_performed h hstep
      obtain rfl := Query.operand.inj (hquery.symm.trans hother)
      -- the operand has one level less, and is nested less deep
      refine ih ?_ htrips
      exact Nat.le_of_lt_succ
        (Nat.lt_of_lt_of_le (Expression.depth_lt_of_mem (Expression.operand_mem hlt)) hdepth)

/-- If the guard does not trip, an evaluation within more levels is the same. -/
theorem evaluateWithin_of_not_trips (h : env.registry.IsTransparent) (limit : Nat)
    {levels more : Nat} (hmore : levels ≤ more) {e : Expression} {s : State}
    (hquiet : ¬ env.Trips levels e s) :
    ((env.withMaxDepth limit).evaluateWithin more e).run s = (env.evaluateWithin levels e).run s := by
  induction levels generalizing more e s with
  | zero => exact absurd trivial hquiet
  | succ levels ih =>
      cases more with
      | zero => exact absurd hmore (Nat.not_succ_le_zero levels)
      | succ more =>
          obtain ⟨hbehaviour, hopening⟩ := behaviour_withMaxDepth h limit e
          refine run_eq_of_behaviour hbehaviour hopening fun step hstep => ?_
          rw [trace_behaviour h] at hstep
          obtain ⟨place, hquery, -⟩ := place_of_performed h hstep
          rw [hquery]
          exact ih (Nat.le_of_succ_le_succ hmore) fun htrips =>
            hquiet ⟨step, hstep, place, hquery, htrips⟩

/-- The guard that surfaces has tripped. -/
theorem trips_of_surfaces {levels : Nat} {e : Expression} {s : State}
    (hsurfaces : env.Surfaces levels e s) : env.Trips levels e s := by
  induction levels generalizing e s with
  | zero => exact trivial
  | succ levels ih =>
      obtain ⟨before, step, after, hsplit, -, place, hquery, hdeeper⟩ := hsurfaces
      refine ⟨step, ?_, place, hquery, ih hdeeper⟩
      rw [hsplit]
      exact List.mem_append_right before List.mem_cons_self

/-- Where no construct absorbs errors, a guard that trips surfaces. -/
theorem surfaces_of_trips (h : env.registry.IsTransparent) {levels : Nat} {e : Expression}
    {s : State} (he : e.NeverAbsorbs) (htrips : env.Trips levels e s) :
    env.Surfaces levels e s := by
  induction levels generalizing e s with
  | zero => exact trivial
  | succ levels ih =>
      obtain ⟨step, hstep, place, hquery, hdeeper⟩ := htrips
      obtain ⟨before, after, hsplit⟩ := List.append_of_mem hstep
      obtain ⟨other, hother, hlt⟩ := place_of_performed h hstep
      obtain rfl := Query.operand.inj (hquery.symm.trans hother)
      cases he with
      | construct hself hoperands =>
          refine ⟨before, step, after, hsplit, passesOn_of_not_absorbing h hself hsplit, place,
            hquery, ?_⟩
          exact ih (hoperands _ (Expression.operand_mem hlt)) hdeeper

/-- The error of a guard that surfaces is the outcome. -/
theorem depthLimitExceeded_of_surfaces (h : env.registry.IsTransparent) {levels : Nat}
    {e : Expression} {s : State} (hsurfaces : env.Surfaces levels e s) :
    ((env.evaluateWithin levels e).run s).1 =
      .error (.depthLimitExceeded env.config.maxDepth) := by
  induction levels generalizing e s with
  | zero => rfl
  | succ levels ih =>
      obtain ⟨before, step, after, hsplit, hpass, place, hquery, hdeeper⟩ := hsurfaces
      have hstep : step ∈ env.performedWithin levels e s := by
        rw [hsplit]
        exact List.mem_append_right before List.mem_cons_self
      -- the operand fails with the guard's error by induction, and the construct lets it through
      have hout := (outcome_of_performed h hstep hquery).trans (ih hdeeper)
      have houtcomes : (env.performedWithin levels e s).map Step.outcome =
          before.map Step.outcome ++ .error (.depthLimitExceeded env.config.maxDepth) ::
            after.map Step.outcome := by
        rw [hsplit, List.map_append, List.map_cons, hout]
      obtain ⟨own, hown, hrun⟩ := node_performed h (env.evaluateWithin levels) e s.deeper
      show ((env.node (env.evaluateWithin levels) e).run s.deeper).1 = _
      rw [hrun, own_of_passesOn h houtcomes hpass hown]
      rfl

/-- No construct raises the error of the guard itself. -/
theorem not_raisesItself (hsilent : env.IsSilent) (e : Expression) (limit : Nat) :
    ¬ env.RaisesItself e (.depthLimitExceeded limit) := by
  rintro (hordinary | hown)
  · exact hordinary
  · cases e with
    | var name => exact nomatch hown.2
    | builtin function arguments => exact nomatch hown.2
    | solvable negated pattern =>
        obtain ⟨source, hsource, hitem⟩ := hown
        exact hsilent.patterns source hsource _ _ _ _ hitem
    | call iri arguments =>
        obtain ⟨id, arity, apply, hget, ⟨-, harity⟩ | ⟨terms, hterms⟩⟩ := hown
        · exact nomatch harity
        · exact hsilent.functions iri id arity apply hget terms limit hterms
    | _ => exact hown

/-- The error of the guard is the outcome only of a guard that surfaces. -/
theorem surfaces_of_depthLimitExceeded (h : env.registry.IsTransparent) (hsilent : env.IsSilent)
    {levels limit : Nat} {e : Expression} {s : State}
    (herror : ((env.evaluateWithin levels e).run s).1 = .error (.depthLimitExceeded limit)) :
    limit = env.config.maxDepth ∧ env.Surfaces levels e s := by
  induction levels generalizing e s with
  | zero => exact ⟨(EvalError.depthLimitExceeded.inj (Except.error.inj herror)).symm, trivial⟩
  | succ levels ih =>
      rcases error_cases h herror with
        hraises | ⟨before, step, after, place, hsplit, hpass, hquery, -, hdeeper⟩
      · exact absurd hraises (not_raisesItself hsilent e limit)
      · -- the error was passed on from an operand, where it came from the guard
        obtain ⟨hlimit, hsurfaces⟩ := ih hdeeper
        exact ⟨hlimit, before, step, after, hsplit, hpass, place, hquery, hsurfaces⟩

/-- The guard trips at the end of a path of performed operands that is as long as the levels. -/
theorem trips_iff_performs {levels : Nat} {e : Expression} {s : State} :
    env.Trips levels e s ↔ ∃ path : List Nat, path.length = levels ∧ env.Performs levels e s path := by
  induction levels generalizing e s with
  | zero =>
      constructor
      · intro _
        exact ⟨[], rfl, trivial⟩
      · intro _
        exact trivial
  | succ levels ih =>
      constructor
      · rintro ⟨step, hstep, place, hquery, htrips⟩
        obtain ⟨path, hlen, hperforms⟩ := ih.mp htrips
        exact ⟨place :: path, congrArg (· + 1) hlen, step, hstep, hquery, hperforms⟩
      · rintro ⟨path, hlen, hperforms⟩
        cases path with
        | nil => exact nomatch hlen
        | cons place path =>
            obtain ⟨step, hstep, hquery, hrest⟩ := hperforms
            exact ⟨step, hstep, place, hquery, ih.mpr ⟨path, Nat.succ.inj hlen, hrest⟩⟩

/-- The outcome is the error of the guard exactly if the guard surfaces. -/
theorem depthLimitExceeded_iff_surfaces (h : env.registry.IsTransparent) (hsilent : env.IsSilent)
    (levels : Nat) (e : Expression) (s : State) :
    ((env.evaluateWithin levels e).run s).1 = .error (.depthLimitExceeded env.config.maxDepth) ↔
      env.Surfaces levels e s := by
  constructor
  · intro herror
    exact (surfaces_of_depthLimitExceeded h hsilent herror).2
  · intro hsurfaces
    exact depthLimitExceeded_of_surfaces h hsurfaces

/-- Where no construct absorbs errors, a depth limit changes an outcome to its error or not at
all. -/
theorem evaluate_of_neverAbsorbs (h : env.registry.IsTransparent) {e : Expression}
    (he : e.NeverAbsorbs) (s : State) {limit : Nat} (hlimit : env.config.maxDepth ≤ limit) :
    ((env.evaluate e).run s).1 = .error (.depthLimitExceeded env.config.maxDepth) ∨
      ((env.withMaxDepth limit).evaluate e).run s = (env.evaluate e).run s := by
  by_cases htrips : env.Trips env.config.maxDepth e s
  · exact Or.inl (depthLimitExceeded_of_surfaces h (surfaces_of_trips h he htrips))
  · exact Or.inr (evaluateWithin_of_not_trips h limit hlimit htrips)

/-- **WHAT A DEPTH LIMIT CHANGES**: unless another outcome takes the place of the guard's error, an
evaluation fails with it or runs as under any greater limit.  The error is absorbed exactly if the
guard trips and the outcome is not its error. -/
theorem depth_error_absorbed_iff (h : env.registry.IsTransparent) (e : Expression) (s : State)
    {limit : Nat} (hlimit : env.config.maxDepth ≤ limit) :
    (¬ env.Absorbs e s →
      ((env.evaluate e).run s).1 = .error (.depthLimitExceeded env.config.maxDepth) ∨
        ((env.withMaxDepth limit).evaluate e).run s = (env.evaluate e).run s) ∧
      (env.IsSilent →
        (env.Absorbs e s ↔ env.Trips env.config.maxDepth e s ∧
          ((env.evaluate e).run s).1 ≠ .error (.depthLimitExceeded env.config.maxDepth))) := by
  constructor
  · intro hclear
    by_cases htrips : env.Trips env.config.maxDepth e s
    · refine Or.inl (depthLimitExceeded_of_surfaces h ?_)
      by_contra hsurfaces
      exact hclear ⟨htrips, hsurfaces⟩
    · exact Or.inr (evaluateWithin_of_not_trips h limit hlimit htrips)
  · intro hsilent
    have hsurfaces := depthLimitExceeded_iff_surfaces h hsilent env.config.maxDepth e s
    constructor
    · rintro ⟨htrips, hlost⟩
      exact ⟨htrips, fun herror => hlost (hsurfaces.mp herror)⟩
    · rintro ⟨htrips, hother⟩
      exact ⟨htrips, fun hfound => hother (hsurfaces.mpr hfound)⟩

/-- The casts are silent, and there are no patterns to speak. -/
theorem isSilent_bare_casts (limit : Nat) : (bare Registry.casts limit).IsSilent where
  functions := by
    intro iri id arity apply hget
    obtain ⟨target, hcast⟩ := Registry.eq_ofCast_of_get?_casts hget
    exact nomatch hcast
  patterns := fun _ hpatterns => nomatch hpatterns

/-- COALESCE hides the guard: the second operand is the outcome under a limit of two levels, and the
first one under a limit of four. -/
theorem coalesce_hides_the_guard :
    let yes : Expression := .constant (Term.ofBool true)
    let e : Expression := .coalesce [.not (.not yes), .constant (Term.simple "x")]
    let low := ((bare Registry.casts 2).evaluate e).run State.initial
    let high := ((bare Registry.casts 4).evaluate e).run State.initial
    ¬ (low.1 = .error (.depthLimitExceeded 2) ∨ low.1 = high.1) := by
  intro yes e low high
  have hlow : low.1 = .ok (Term.simple "x") := rfl
  have hhigh : high.1 = .ok (Term.ofBool true) := rfl
  rw [hlow, hhigh]
  rintro (hguard | hsame)
  · exact nomatch hguard
  · exact absurd (Except.ok.inj hsame) (by decide)

/-- The guard trips within the first operand of COALESCE, and its error is absorbed. -/
theorem coalesce_absorbs :
    let env := bare Registry.casts 2
    let yes : Expression := .constant (Term.ofBool true)
    let e : Expression := .coalesce [.not (.not yes), .constant (Term.simple "x")]
    env.registry.IsTransparent ∧ env.config.maxDepth ≤ 4 ∧ env.IsSilent ∧
      env.Absorbs e State.initial := by
  intro env yes e
  have hlimit : env.config.maxDepth ≤ 4 := by decide
  have hsilent : env.IsSilent := isSilent_bare_casts 2
  have htrips : env.Trips env.config.maxDepth e State.initial :=
    ⟨_, List.mem_cons_self, 0, rfl, _, List.mem_cons_self, 0, rfl, trivial⟩
  refine ⟨Registry.isTransparent_casts, hlimit, hsilent, ?_⟩
  exact ((depth_error_absorbed_iff Registry.isTransparent_casts e State.initial hlimit).2
    hsilent).mpr ⟨htrips, nofun⟩

end Environment

end SparqlScalar
