import SparqlScalar.Proofs.Connectives
import SparqlScalar.Proofs.DeMorgan

/-!
# Membership is a disjunction of equalities

    IN and OR go through their operands by one loop (`anyFrom`) and differ in the test: IN asks of
    a candidate whether the needle equals it, and OR reads an operand as a truth value.  What the
    loop gives depends on the answers of the test alone (`decidedBy`), so IN is the disjunction of
    the equalities as soon as the two tests answer alike:

      operands     -- an equality that was written as a term is read back as the answer that it was,
                      and a candidate that failed stays its failure (`truthOf_equality`)
      outcomes     -- so IN and the disjunction of the equalities have one outcome
                      (`membership_eq_disjunction`)
      expressions  -- IN evaluates its needle and then looks at the outcomes of its candidates
                      (`isIn_outcome`); NOT IN does the same and negates (`run_notIn`)
-/

namespace SparqlScalar

/-! ## Outcomes -/

/-- Candidates, each replaced by the answer whether the needle equals it. -/
def equalities (needle : Term) (candidates : List (EvalResult Term)) : List (EvalResult Term) :=
  candidates.map (· >>= comparison .equal needle)

/-- What a disjunction reads of an equality is whether the terms are equal. -/
theorem truthOf_equality (needle : Term) (r : EvalResult Term) :
    truthOf (r >>= comparison .equal needle) = r >>= equalTerms needle := by
  cases r with
  | error e => rfl
  | ok candidate => exact truthOf_map_ofBool (equalTerms needle candidate)

/-- **ONE LOOP, TWO TESTS**: over candidates with the test of IN, and over the equalities with the
test of OR, the loop has one truth value or one error. -/
theorem membership_eq_disjunction (needle : Term) (candidates : List (EvalResult Term)) :
    membership (m := Id) needle candidates =
      disjunction (m := Id) (equalities needle candidates) := by
  calc membership (m := Id) needle candidates
      = decidedBy true (candidates.map (· >>= equalTerms needle)) :=
        anyOf_eq_decidedBy (equalTerms needle) candidates
    _ = decidedBy true ((equalities needle candidates).map truthOf) := by
        rw [equalities, List.map_map]
        refine congrArg (decidedBy true) (List.map_congr_left fun r _ => ?_)
        exact (truthOf_equality needle r).symm
    _ = disjunction (m := Id) (equalities needle candidates) :=
        (disjunction_eq_decidedBy _).symm

namespace Environment

variable (env : Environment)

/-! ## Expressions -/

/-- How IN and NOT IN run: the needle first, and then the candidates unless the needle failed. -/
theorem run_isIn (levels : Nat) (negated : Bool) (needle : Expression)
    (candidates : List Expression) (s : State) :
    (env.evaluateWithin (levels + 1) (.isIn negated needle candidates)).run s =
      match ((env.evaluateWithin levels needle).run s.deeper).1 with
      | .ok a =>
        let found := membership a (candidates.map fun e => (env.evaluateWithin levels e).run)
          ((env.evaluateWithin levels needle).run s.deeper).2
        (found.1.map fun b => Term.ofBool (b != negated), found.2.shallower)
      | .error e => (.error e, ((env.evaluateWithin levels needle).run s.deeper).2.shallower) := by
  show (Eval.nested (env.node (env.evaluateWithin levels) (.isIn negated needle candidates))).run s
    = _
  rw [Eval.run_nested, node, Eval.run_bind]
  cases ((env.evaluateWithin levels needle).run s.deeper).1 with
  | ok a =>
      dsimp only
      rw [Eval.run_mk_pure]
  | error e => rfl

/-- The outcome of IN and NOT IN is told by the outcomes of needle and candidates. -/
theorem isIn_outcome (levels : Nat) (negated : Bool) (needle : Expression)
    (candidates : List Expression) (s : State) :
    ((env.evaluateWithin (levels + 1) (.isIn negated needle candidates)).run s).1 =
      ((env.evaluateWithin levels needle).run s.deeper).1 >>= fun a =>
        (membership (m := Id) a (env.operandOutcomes levels candidates
          ((env.evaluateWithin levels needle).run s.deeper).2)).map fun b =>
            Term.ofBool (b != negated) := by
  rw [run_isIn]
  cases ((env.evaluateWithin levels needle).run s.deeper).1 with
  | ok a => exact congrArg (Except.map _) (anyFrom_fst none _ _)
  | error e => rfl

/-- NOT IN runs as IN does, and negates the outcome. -/
theorem run_notIn (levels : Nat) (needle : Expression) (candidates : List Expression) (s : State) :
    (env.evaluateWithin levels (.isIn true needle candidates)).run s =
      (((env.evaluateWithin levels (.isIn false needle candidates)).run s).1 >>= negation,
        ((env.evaluateWithin levels (.isIn false needle candidates)).run s).2) := by
  cases levels with
  | zero => rfl
  | succ levels =>
      rw [run_isIn, run_isIn]
      cases ((env.evaluateWithin levels needle).run s.deeper).1 with
      | error e => rfl
      | ok a =>
          dsimp only
          refine Prod.ext ?_ rfl
          cases (membership a (candidates.map fun e => (env.evaluateWithin levels e).run)
              ((env.evaluateWithin levels needle).run s.deeper).2).1 with
          | error e => rfl
          | ok b => cases b <;> rfl

end Environment

/-- **MEMBERSHIP IS A DISJUNCTION OF EQUALITIES**: over all candidates, failed ones included, IN has
the truth value or the error of the disjunction of the answers whether the needle equals them.  IN
and NOT IN as expressions, from every state and with all functions, give what the disjunction over
their candidates gives, as it is and negated; and they leave one state behind. -/
theorem membership_by_equalities :
    (∀ (needle : Term) (candidates : List (EvalResult Term)),
      membership (m := Id) needle candidates =
        disjunction (m := Id) (equalities needle candidates)) ∧
      (∀ (env : Environment) (levels : Nat) (negated : Bool) (e : Expression)
          (es : List Expression) (s : State),
        ((env.evaluateWithin (levels + 1) (.isIn negated e es)).run s).1 =
          ((env.evaluateWithin levels e).run s.deeper).1 >>= fun needle =>
            (disjunction (m := Id) (equalities needle (env.operandOutcomes levels es
              ((env.evaluateWithin levels e).run s.deeper).2))).map fun b =>
                Term.ofBool (b != negated)) ∧
      ∀ (env : Environment) (e : Expression) (es : List Expression) (s : State),
        (env.evaluate (.isIn true e es)).run s =
          (((env.evaluate (.isIn false e es)).run s).1 >>= negation,
            ((env.evaluate (.isIn false e es)).run s).2) := by
  refine ⟨membership_eq_disjunction, ?_, ?_⟩
  · intro env levels negated e es s
    simp only [env.isIn_outcome, membership_eq_disjunction]
  · intro env e es s
    exact env.run_notIn env.config.maxDepth e es s

end SparqlScalar
