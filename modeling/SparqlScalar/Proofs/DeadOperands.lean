import SparqlScalar.Proofs.Performed

/-!
# Dead operands

    An expression within an expression has a PATH, the places that lead to it.  It is performed if
    its construct is performed and performs it in turn; otherwise it is DEAD in that evaluation.

    The effects of a construct are those of its performed operands, from left to right, and then its
    own.  So a dead expression can be anything: `evaluateWithin_replaceAt` puts another one in its
    place, and the outcome and all effects stay.
-/

namespace SparqlScalar

namespace Environment

variable {env : Environment}

/-- Performed operands are performed from left to right. -/
theorem leftToRight_performed (env : Environment) (answer : Query → Eval Term) (e : Expression)
    (s : State) : Step.LeftToRight answer 0 s (env.performed answer e s) := by
  have hfirst : Step.LeftToRight answer 0 s [] := trivial
  cases e with
  | constant _ | var _ | bound _ | solvable _ _ => exact hfirst
  | lone _ _ | not _ | negate _ | plus _ | or _ _ | and _ _ | coalesce _ | compare _ _ _
  | additive _ _ | multiplicative _ _ => exact Step.leftToRight_upTo (Nat.le_refl 0) _ s
  | isIn _ _ _ =>
      refine ⟨0, Nat.le_refl 0, rfl, ?_⟩
      split
      · exact Step.leftToRight_upTo (Nat.le_refl 1) _ _
      · exact trivial
  | conditional _ _ _ =>
      refine ⟨0, Nat.le_refl 0, rfl, ?_⟩
      split
      · exact ⟨1, Nat.le_refl 1, rfl, trivial⟩
      · exact ⟨2, by decide, rfl, trivial⟩
      · exact trivial
  | builtin _ _ =>
      simp only [performed]
      split
      · exact Step.leftToRight_upTo (Nat.le_refl 0) _ s
      · exact hfirst
  | call _ _ =>
      simp only [performed]
      split
      · exact hfirst
      · split
        · exact Step.leftToRight_upTo (Nat.le_refl 0) _ s
        · exact hfirst
      · split
        · exact Step.leftToRight_upTo (Nat.le_refl 0) _ s
        · exact hfirst

/-- The operands that an expression performs, with some levels left for each of them. -/
def performedWithin (env : Environment) (levels : Nat) (e : Expression) (s : State) : List Step :=
  env.performed (answers (env.evaluateWithin levels) e) e (env.opened e s.deeper)

/-- The evaluation of an expression within some levels performs the one at the end of a path. -/
def Performs (env : Environment) : Nat → Expression → State → List Nat → Prop
  | _, _, _, [] => True
  | 0, _, _, _ :: _ => False
  | levels + 1, e, s, place :: path =>
    ∃ step ∈ env.performedWithin levels e s,
      step.query = .operand place ∧ env.Performs levels (e.operand place) step.before path

/-- The steps of a behaviour are the performed operands. -/
theorem trace_behaviour (h : env.registry.IsTransparent) (answer : Query → Eval Term)
    (e : Expression) (s : State) :
    (env.behaviour e).trace answer s = env.performed answer e s := by
  have hconcludes : env.Concludes answer e s := behaviour_performed h e s
  obtain ⟨own, -, htrace, -⟩ := hconcludes
  exact htrace

/-- What a construct does: the effects of its performed operands, and then its own. -/
theorem node_performed (h : env.registry.IsTransparent) (eval : Expression → Eval Term)
    (e : Expression) (s : State) :
    ∃ own, env.conclude e ((env.performed (answers eval e) e (env.opened e s)).map Step.outcome) =
        some own ∧
      (env.node eval e).run s = own.run
        (Step.finalState (env.opened e s) (env.performed (answers eval e) e (env.opened e s))) := by
  have hconcludes : env.Concludes (answers eval e) e (env.opened e s) := behaviour_performed h e _
  obtain ⟨own, hown, htrace, hvalue⟩ := hconcludes
  -- the trace decides the state in which the construct acts
  refine ⟨own, hown, ?_⟩
  rw [node_run, Plan.run_state, htrace, hvalue]

/-- A performed operand is in one of the places of its construct. -/
theorem place_of_performed (h : env.registry.IsTransparent) {answer : Query → Eval Term}
    {e : Expression} {s : State} {step : Step} (hstep : step ∈ env.performed answer e s) :
    ∃ place, step.query = .operand place ∧ place < e.operands.length := by
  rw [← trace_behaviour h] at hstep
  obtain ⟨place, hquery, -, hlt⟩ := Plan.asks_trace (behaviour_asks h e) hstep
  exact ⟨place, hquery, by omega⟩

/-- A dead expression can be replaced by any other: the outcome and the effects stay. -/
theorem evaluateWithin_replaceAt (h : env.registry.IsTransparent) (new : Expression)
    {levels : Nat} {e : Expression} {s : State} {path : List Nat}
    (hdead : ¬ env.Performs levels e s path) :
    (env.evaluateWithin levels (Expression.replaceAt new path e)).run s =
      (env.evaluateWithin levels e).run s := by
  induction levels generalizing e s path with
  | zero => rfl
  | succ levels ih =>
      cases path with
      | nil => exact absurd trivial hdead
      | cons place path =>
          have hlen : (e.operands.set place (Expression.replaceAt new path
              (e.operand place))).length = e.operands.length := List.length_set
          obtain ⟨hbehaviour, hopening⟩ := behaviour_withOperands h hlen
          refine run_eq_of_behaviour hbehaviour hopening fun step hstep => ?_
          rw [trace_behaviour h] at hstep
          obtain ⟨other, hquery, hlt⟩ := place_of_performed h hstep
          rw [hquery]
          show (env.evaluateWithin levels ((e.withOperands (e.operands.set place
            (Expression.replaceAt new path (e.operand place)))).operand other)).run step.before = _
          by_cases heq : place = other
          · -- the replaced operand is performed, so what is dead lies deeper within it
            subst heq
            rw [Expression.operand_set_self hlt]
            exact ih fun hperforms => hdead ⟨step, hstep, hquery, hperforms⟩
          · rw [Expression.operand_set_ne hlt heq]
            rfl

/-- **ORDER AND EXTENT**: a construct performs the operands of its rule from left to right and no
others, each from the state which the one before it left; it sees their outcomes alone, and its own
effects come last.  So what is not performed can be replaced. -/
theorem performs_exactly_left_to_right (h : env.registry.IsTransparent) :
    (∀ (levels : Nat) (e : Expression) (s : State),
      let start := env.opened e s.deeper
      let steps := env.performedWithin levels e s
      Step.LeftToRight (answers (env.evaluateWithin levels) e) 0 start steps ∧
        ∃ own, env.conclude e (steps.map Step.outcome) = some own ∧
          (env.evaluateWithin (levels + 1) e).run s =
            ((own.run (Step.finalState start steps)).1,
              (own.run (Step.finalState start steps)).2.shallower)) ∧
      ∀ (levels : Nat) (e : Expression) (s : State) (path : List Nat) (new : Expression),
        ¬ env.Performs levels e s path →
          (env.evaluateWithin levels (Expression.replaceAt new path e)).run s =
            (env.evaluateWithin levels e).run s := by
  constructor
  · intro levels e s start steps
    refine ⟨leftToRight_performed env _ e _, ?_⟩
    obtain ⟨own, hown, hrun⟩ := node_performed h (env.evaluateWithin levels) e s.deeper
    refine ⟨own, hown, ?_⟩
    show (Eval.nested (env.node (env.evaluateWithin levels) e)).run s = _
    rw [Eval.run_nested, hrun]
    rfl
  · intro levels e s path new hdead
    exact evaluateWithin_replaceAt h new hdead

/-- After a true operand, a call with an effect is dead: a variable can stand in its place. -/
theorem call_after_true_is_dead :
    let first : CustomFunction :=
      .byValue (.custom "first" 0) .variadic fun terms => EvalResult.ofOption .outOfRange terms.head?
    let env := Environment.bare (Registry.casts.insert ⟨"urn:first"⟩ first) 4
    let yes : Expression := .constant (Term.ofBool true)
    let e : Expression := .or yes [.call ⟨"urn:first"⟩ [yes]]
    env.registry.IsTransparent ∧ ¬ env.Performs 4 e State.initial [1] ∧
      (env.evaluateWithin 4 (.or yes [.var "x"])).run State.initial =
        (env.evaluateWithin 4 e).run State.initial := by
  intro first env yes e
  have htransparent : env.registry.IsTransparent :=
    Registry.isTransparent_casts.insert rfl ⟨"urn:first"⟩
  have hdead : ¬ env.Performs 4 e State.initial [1] := by
    rintro ⟨step, hmem, hquery, -⟩
    rcases List.mem_cons.mp hmem with heq | hnone
    · rw [heq] at hquery
      exact absurd (Query.operand.inj hquery) Nat.zero_ne_one
    · exact nomatch hnone
  exact ⟨htransparent, hdead,
    (performs_exactly_left_to_right htransparent).2 4 e State.initial [1] (.var "x") hdead⟩

end Environment

end SparqlScalar
