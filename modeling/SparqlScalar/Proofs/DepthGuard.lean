import SparqlScalar.Proofs.DepthErrors

/-!
# The depth guard

    Levels are counted down by the evaluator and up by the counter in the state.  `enter` is the
    evaluation as a raw function meets it in the middle of another one: the levels that are left are
    those between the counter and the limit.  It has the equation of a guarded recursion
    (`enter_run`), in which the counter is compared with the limit, raised, and put back.

    All of this holds for every registry.  The invariant of a construct is that each query finds the
    counter one above where the construct found it; the queries of raw functions are no exception.
-/

namespace SparqlScalar

namespace Environment

variable {env : Environment}

/-- Evaluates an expression from a state that may be in the middle of an evaluation. -/
def enter (env : Environment) (e : Expression) : Eval Term := fun s =>
  (env.evaluateWithin (env.config.maxDepth - s.depth) e).run s

/-- Evaluation is guarded recursion: it fails where the counter would pass the limit, and otherwise
runs the construct with the counter raised by one. -/
theorem enter_run (env : Environment) (e : Expression) (s : State) :
    (env.enter e).run s =
      if env.config.maxDepth < s.depth + 1 then
        (.error (.depthLimitExceeded env.config.maxDepth), s)
      else (Eval.nested (env.node env.enter e)).run s := by
  show (env.evaluateWithin (env.config.maxDepth - s.depth) e).run s = _
  by_cases hguard : env.config.maxDepth < s.depth + 1
  · rw [if_pos hguard, show env.config.maxDepth - s.depth = 0 by omega]
    rfl
  · rw [if_neg hguard]
    obtain ⟨levels, hlevels⟩ : ∃ levels, env.config.maxDepth - s.depth = levels + 1 :=
      ⟨env.config.maxDepth - s.depth - 1, by omega⟩
    rw [hlevels]
    obtain ⟨-, hbefore⟩ := env.node_keeps (I := fun t => t.depth = s.depth + 1)
      (fun _ _ hdepth _ h => hdepth.trans h)
      (fun d t h => (env.evaluateWithin_depth levels d t).trans h) e (s := s.deeper) rfl
    -- at the depth of the operands, entering is evaluating within the levels that are left
    have hanswers : ∀ step ∈ (env.behaviour e).trace (answers (env.evaluateWithin levels) e)
        (env.opened e s.deeper), (answers env.enter e step.query).run step.before =
          (answers (env.evaluateWithin levels) e step.query).run step.before := by
      intro step hstep
      have hdepth := hbefore step hstep
      have henter : ∀ d, (env.enter d).run step.before =
          (env.evaluateWithin levels d).run step.before := by
        intro d
        show (env.evaluateWithin (env.config.maxDepth - step.before.depth) d).run step.before = _
        rw [hdepth, show env.config.maxDepth - (s.depth + 1) = levels by omega]
      cases step.query with
      | operand place => exact henter _
      | other d => exact henter d
    have hnode : (env.node env.enter e).run s.deeper =
        (env.node (env.evaluateWithin levels) e).run s.deeper := by
      rw [node_run, node_run, (Plan.run_congr hanswers).1]
    rw [Eval.run_nested, hnode]
    rfl

/-- Evaluation within some levels nests no more evaluations than these. -/
theorem evaluateWithin_peak (env : Environment) (levels : Nat) (e : Expression) (s : State) :
    ((env.evaluateWithin levels e).run s).2.peak ≤ max s.peak (s.depth + levels) := by
  induction levels generalizing e s with
  | zero => exact Nat.le_max_left _ _
  | succ levels ih =>
      -- operands start one level deeper with one level less, so the sum stays
      let Bounded : State → Prop := fun t =>
        t.depth = s.depth + 1 ∧ t.peak ≤ max s.peak (s.depth + (levels + 1))
      have hstart : Bounded s.deeper := by
        refine ⟨rfl, ?_⟩
        show max s.peak (s.depth + 1) ≤ _
        omega
      have hcounter : ∀ t u, u.depth = t.depth → u.peak = t.peak → Bounded t → Bounded u := by
        rintro t u hdepth hpeak ⟨htdepth, htpeak⟩
        exact ⟨hdepth.trans htdepth, Nat.le_trans (Nat.le_of_eq hpeak) htpeak⟩
      have heval : ∀ d t, Bounded t → Bounded ((env.evaluateWithin levels d).run t).2 := by
        rintro d t ⟨hdepth, hpeak⟩
        have hle := ih d t
        exact ⟨(env.evaluateWithin_depth levels d t).trans hdepth, by omega⟩
      obtain ⟨⟨-, hpeak⟩, -⟩ := env.node_keeps hcounter heval e hstart
      exact hpeak

/-- Under two limits that an expression keeps, its runs are the same. -/
theorem evaluate_withMaxDepth (h : env.registry.IsTransparent) {e : Expression} {limit limit' : Nat}
    (hle : e.depth ≤ limit) (hle' : e.depth ≤ limit') (s : State) :
    ((env.withMaxDepth limit).evaluate e).run s = ((env.withMaxDepth limit').evaluate e).run s := by
  have hsame : ∀ {low high : Nat}, low ≤ high → e.depth ≤ low →
      ((env.withMaxDepth high).evaluate e).run s = ((env.withMaxDepth low).evaluate e).run s := by
    intro low high hlow hdepth
    have htransparent : (env.withMaxDepth low).registry.IsTransparent := h
    exact evaluateWithin_of_not_trips htransparent high hlow
      (not_trips_of_depth_le htransparent hdepth)
  rcases Nat.le_total limit limit' with hlow | hlow
  · exact (hsame hlow hle).symm
  · exact hsame hlow hle'

/-- **THE DEPTH GUARD**: for every registry, evaluation is the recursion that compares the counter
with the limit, nests at most as many evaluations as the limit says and puts the counter back.  Over
functions and patterns that do not speak for it, the guard is unseen by expressions that keep the
limit. -/
theorem depth_guard_exact_and_transparent (env : Environment) :
    (∀ (e : Expression) (s : State),
      (s.depth = 0 → (env.evaluate e).run s = (env.enter e).run s) ∧
        ((env.enter e).run s =
          if env.config.maxDepth < s.depth + 1 then
            (.error (.depthLimitExceeded env.config.maxDepth), s)
          else (Eval.nested (env.node env.enter e)).run s) ∧
        ((env.enter e).run s).2.depth = s.depth ∧
        ((env.enter e).run s).2.peak ≤ max s.peak env.config.maxDepth) ∧
      (env.registry.IsTransparent → env.IsSilent →
        ∀ (e : Expression) (limit : Nat), e.depth ≤ limit → ∀ s : State,
          (∀ any, (((env.withMaxDepth limit).evaluate e).run s).1 ≠
            .error (.depthLimitExceeded any)) ∧
            ∀ limit', e.depth ≤ limit' →
              ((env.withMaxDepth limit').evaluate e).run s =
                ((env.withMaxDepth limit).evaluate e).run s) := by
  constructor
  · intro e s
    refine ⟨?_, env.enter_run e s, env.evaluateWithin_depth _ e s, ?_⟩
    · intro hzero
      show _ = (env.evaluateWithin (env.config.maxDepth - s.depth) e).run s
      rw [hzero]
      rfl
    · by_cases hpast : s.depth ≤ env.config.maxDepth
      · have hpeak := env.evaluateWithin_peak (env.config.maxDepth - s.depth) e s
        rw [show s.depth + (env.config.maxDepth - s.depth) = env.config.maxDepth by omega] at hpeak
        exact hpeak
      · -- past the limit nothing is evaluated
        rw [env.enter_run, if_pos (by omega)]
        exact Nat.le_max_left _ _
  · intro h hsilent e limit hle s
    have htransparent : (env.withMaxDepth limit).registry.IsTransparent := h
    have hsilent' : (env.withMaxDepth limit).IsSilent := ⟨hsilent.functions, hsilent.patterns⟩
    constructor
    · intro any herror
      obtain ⟨-, hsurfaces⟩ := surfaces_of_depthLimitExceeded htransparent hsilent' herror
      exact not_trips_of_depth_le htransparent hle (trips_of_surfaces hsurfaces)
    · intro limit' hle'
      exact evaluate_withMaxDepth h hle' hle s

/-- A negation of two levels, under limits of two and of five. -/
theorem negation_keeps_limits :
    let env := bare Registry.casts 0
    let e : Expression := .not (.constant (Term.ofBool true))
    env.registry.IsTransparent ∧ env.IsSilent ∧ e.depth ≤ 2 ∧ e.depth ≤ 5 ∧
      ((env.withMaxDepth 5).evaluate e).run State.initial =
        ((env.withMaxDepth 2).evaluate e).run State.initial := by
  intro env e
  have htransparent : env.registry.IsTransparent := Registry.isTransparent_casts
  have hsilent : env.IsSilent := isSilent_bare_casts 0
  have hlow : e.depth ≤ 2 := Nat.le_refl 2
  have hhigh : e.depth ≤ 5 := by decide
  exact ⟨htransparent, hsilent, hlow, hhigh,
    ((depth_guard_exact_and_transparent env).2 htransparent hsilent e 2 hlow State.initial).2 5
      hhigh⟩

end Environment

end SparqlScalar
