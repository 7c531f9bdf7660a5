import Mathlib.Data.List.Forall2
import SparqlScalar.Proofs.Outcomes
import SparqlScalar.Proofs.Related
import SparqlScalar.Proofs.Simplification

/-!
# De Morgan's laws

    A disjunction stops at the first true operand and a conjunction evaluates all of them, so the
    two sides of De Morgan's laws leave different states behind.  They have the same OUTCOME all the
    same, whatever their operands do to the state and wherever the depth limit trips:

      connectives  -- the outcome of a connective is a function of the outcomes that its operands
                      have if all of them are run, one after the other (`anyFrom_fst`,
                      `allFrom_fst`); an operand that a disjunction skips is not looked at
      operands     -- an expression and its negation, run from states that differ in the depth only,
                      have opposite truth values and leave such states again, so the outcomes on
                      the two sides are opposite one by one (`operandOutcomes_not`)
      outcomes     -- over opposite outcomes the connectives are dual (`conjunction_opposite`)

    A limit that cuts off the operands of one side cuts off those of the other: with one level left
    a negation and a connective fail alike.
-/

namespace SparqlScalar

/-! ## Outcomes of connectives -/

/-- The outcomes of operands, if all of them are run. -/
def outcomes : List (StateM State (EvalResult Term)) → State → List (EvalResult Term)
  | [], _ => []
  | operand :: rest, s => (operand s).1 :: outcomes rest (operand s).2

section Connectives

variable {test : Term → EvalResult Bool}

/-- One round of a disjunction, with the state handed on. -/
theorem anyFrom_run (firstError : Option EvalError) (operand : StateM State (EvalResult Term))
    (rest : List (StateM State (EvalResult Term))) (s : State) :
    anyFrom test firstError (operand :: rest) s =
      match (operand s).1 >>= test with
      | .ok true => (.ok true, (operand s).2)
      | .ok false => anyFrom test firstError rest (operand s).2
      | .error e => anyFrom test (firstError <|> some e) rest (operand s).2 := by
  cases hrun : operand s with
  | mk r t =>
      rw [anyFrom]
      simp only [bind, StateT.bind, hrun]
      rcases Except.bind r test with e | _ | _ <;> rfl

/-- One round of a conjunction, with the state handed on. -/
theorem allFrom_run (holds : Bool) (firstError : Option EvalError)
    (operand : StateM State (EvalResult Term)) (rest : List (StateM State (EvalResult Term)))
    (s : State) :
    allFrom test holds firstError (operand :: rest) s =
      match (operand s).1 >>= test with
      | .ok true => allFrom test holds firstError rest (operand s).2
      | .ok false => allFrom test false firstError rest (operand s).2
      | .error e => allFrom test holds (firstError <|> some e) rest (operand s).2 := by
  cases hrun : operand s with
  | mk r t =>
      rw [allFrom]
      simp only [bind, StateT.bind, hrun]
      rcases Except.bind r test with e | _ | _ <;> rfl

/-- Stopping early is not seen in the outcome of a disjunction. -/
theorem anyFrom_fst (firstError : Option EvalError)
    (operands : List (StateM State (EvalResult Term))) (s : State) :
    (anyFrom test firstError operands s).1 =
      anyFrom (m := Id) test firstError (outcomes operands s) := by
  induction operands generalizing firstError s with
  | nil => rfl
  | cons operand rest ih =>
      rw [anyFrom_run, outcomes]
      cases htest : (operand s).1 >>= test with
      | error e =>
          rw [anyFrom_error htest]
          exact ih _ _
      | ok holds =>
          cases holds with
          | false =>
              rw [anyFrom_false htest]
              exact ih _ _
          | true => rw [anyFrom_true htest]

/-- The outcome of a conjunction is that over the outcomes of its operands, run in a row. -/
theorem allFrom_fst (holds : Bool) (firstError : Option EvalError)
    (operands : List (StateM State (EvalResult Term))) (s : State) :
    (allFrom test holds firstError operands s).1 =
      allFrom (m := Id) test holds firstError (outcomes operands s) := by
  induction operands generalizing holds firstError s with
  | nil => rfl
  | cons operand rest ih =>
      rw [allFrom_run, outcomes]
      cases htest : (operand s).1 >>= test with
      | error e =>
          rw [allFrom_error htest]
          exact ih _ _ _
      | ok passed =>
          cases passed with
          | false =>
              rw [allFrom_false htest]
              exact ih _ _ _
          | true =>
              rw [allFrom_true htest]
              exact ih _ _ _

end Connectives

/-! ## Opposite outcomes -/

/-- Two outcomes with opposite truth values, or the same error. -/
def Opposite (r r' : EvalResult Term) : Prop :=
  r' >>= effectiveBooleanValue = (r >>= effectiveBooleanValue).map not

theorem Opposite.symm {r r' : EvalResult Term} (h : Opposite r r') : Opposite r' r := by
  unfold Opposite at h ⊢
  rw [h, map_not_not]

/-- Negation makes the opposite. -/
theorem opposite_negation (r : EvalResult Term) : Opposite r (r >>= negation) := by
  unfold Opposite
  cases r with
  | error e => rfl
  | ok t =>
      show negation t >>= effectiveBooleanValue = (effectiveBooleanValue t).map not
      unfold negation
      cases effectiveBooleanValue t with
      | error e => rfl
      | ok holds => exact effectiveBooleanValue_ofBool (!holds)

/-- Opposite operands have negated truth values. -/
theorem map_truthOf_opposite {rs rs' : List (EvalResult Term)} (h : List.Forall₂ Opposite rs rs') :
    rs'.map truthOf = (rs.map truthOf).map (·.map not) := by
  induction h with
  | nil => rfl
  | cons hhead _ ih => exact congrArg₂ List.cons hhead ih

/-- Over opposite outcomes a conjunction is the negated disjunction. -/
theorem conjunction_opposite {rs rs' : List (EvalResult Term)}
    (h : List.Forall₂ Opposite rs rs') :
    conjunction (m := Id) rs' = (disjunction (m := Id) rs).map not := by
  rw [conjunction_eq_decidedBy, disjunction_eq_decidedBy, map_truthOf_opposite h]
  exact (map_not_decidedBy true (rs.map truthOf)).symm

/-- Over opposite outcomes a disjunction is the negated conjunction. -/
theorem disjunction_opposite {rs rs' : List (EvalResult Term)}
    (h : List.Forall₂ Opposite rs rs') :
    disjunction (m := Id) rs' = (conjunction (m := Id) rs).map not := by
  have hflipped : List.Forall₂ Opposite rs' rs := (h.imp fun _ _ => Opposite.symm).flip
  rw [conjunction_opposite hflipped, map_not_not]

/-- Outcomes that all are one error give this error. -/
theorem disjunction_failing {x : EvalError} {r : EvalResult Term} {rest : List (EvalResult Term)}
    (h : ∀ q ∈ r :: rest, q = .error x) : disjunction (m := Id) (r :: rest) = .error x := by
  refine (anyOf_error_iff (r :: rest)).mpr ⟨[], r, rest, rfl, ?_, List.forall_mem_nil _, ?_⟩
  · rw [h r List.mem_cons_self]
    rfl
  · intro q hq htrue
    rw [h q (List.mem_cons_of_mem r hq)] at htrue
    cases htrue

namespace Environment

open State (SameButDepth)
open Eval (Related)

variable (env : Environment)

/-! ## Operands and their negations -/

/-- Evaluation does not see how deep it is, whatever the functions do. -/
theorem evaluateWithin_sameButDepth (levels : Nat) (e : Expression) :
    Related SameButDepth (env.evaluateWithin levels e) (env.evaluateWithin levels e) := by
  have hsimulates : Simulates SameButDepth env env :=
    { registry := rfl
      config := rfl
      now := rfl
      base := rfl
      scripts := fun _ _ _ _ _ => rfl
      requestOwn := (Eval.quiet_request _).alike
      requestFor := fun _ => (Eval.quiet_request _).alike
      draw := (Eval.quiet_draw _).alike
      called := fun _ _ => (Eval.quiet_record _).alike
      rawCalled := fun _ _ _ => (Eval.quiet_record _).alike
      deeper := fun _ _ hst => hst.deeper_left.deeper_right
      shallower := fun _ _ hst => hst.shallower_left.shallower_right }
  refine evaluateWithin_related_of_reads hsimulates (fun d => ?_) levels e
  exact readsAlike_of_lookup (fun _ => rfl) fun _ pattern _ => (env.quiet_hasSolution pattern).alike

/-- How a negation runs. -/
theorem run_not (levels : Nat) (e : Expression) (s : State) :
    (env.evaluateWithin (levels + 1) (.not e)).run s =
      (((env.evaluateWithin levels e).run s.deeper).1 >>= negation,
        ((env.evaluateWithin levels e).run s.deeper).2.shallower) := by
  show (Eval.nested (env.node (env.evaluateWithin levels) (.not e))).run s = _
  rw [Eval.run_nested]
  show (((env.evaluateWithin levels e >>= fun a => Eval.ofResult (negation a)).run s.deeper).1,
    ((env.evaluateWithin levels e >>= fun a => Eval.ofResult (negation a)).run
      s.deeper).2.shallower) = _
  rw [Eval.run_bind]
  cases ((env.evaluateWithin levels e).run s.deeper).1 with
  | ok a => rfl
  | error x => rfl

/-- The outcomes of operands within some levels. -/
def operandOutcomes (levels : Nat) (es : List Expression) (s : State) : List (EvalResult Term) :=
  outcomes (es.map fun e => (env.evaluateWithin levels e).run) s

/-- A term for a truth value that may have failed. -/
theorem run_truth (x : StateM State (EvalResult Bool)) (s : State) :
    ((truth x).run s).1 = (x s).1.map Term.ofBool := by
  show ((ExceptT.mk x >>= fun b => (pure (Term.ofBool b) : Eval Term)).run s).1 = _
  rw [Eval.run_mk_pure]

/-- The outcome of a disjunction is told by those of its operands. -/
theorem or_outcome (levels : Nat) (e : Expression) (es : List Expression) (s : State) :
    ((env.evaluateWithin (levels + 1) (.or e es)).run s).1 =
      (disjunction (m := Id) (env.operandOutcomes levels (e :: es) s.deeper)).map Term.ofBool := by
  show ((truth (disjunction ((e :: es).map fun d => (env.evaluateWithin levels d).run))).run
    s.deeper).1 = _
  rw [run_truth]
  exact congrArg (Except.map Term.ofBool) (anyFrom_fst none _ s.deeper)

/-- The outcome of a conjunction is told by those of its operands. -/
theorem and_outcome (levels : Nat) (e : Expression) (es : List Expression) (s : State) :
    ((env.evaluateWithin (levels + 1) (.and e es)).run s).1 =
      (conjunction (m := Id) (env.operandOutcomes levels (e :: es) s.deeper)).map Term.ofBool := by
  show ((truth (conjunction ((e :: es).map fun d => (env.evaluateWithin levels d).run))).run
    s.deeper).1 = _
  rw [run_truth]
  exact congrArg (Except.map Term.ofBool) (allFrom_fst true none _ s.deeper)

/-- **OPPOSITE OPERANDS**: operands and their negations, one level lower, have opposite outcomes one
by one. -/
theorem operandOutcomes_not (levels : Nat) (es : List Expression) {s t : State}
    (hst : SameButDepth s t) :
    List.Forall₂ Opposite (env.operandOutcomes levels es s)
      (env.operandOutcomes (levels + 1) (es.map .not) t) := by
  induction es generalizing s t with
  | nil => exact .nil
  | cons e rest ih =>
      obtain ⟨hvalue, hstate⟩ :=
        env.evaluateWithin_sameButDepth levels e s t.deeper hst.deeper_right
      show List.Forall₂ Opposite (((env.evaluateWithin levels e).run s).1 :: _)
        (((env.evaluateWithin (levels + 1) (.not e)).run t).1 ::
          env.operandOutcomes (levels + 1) (rest.map .not)
            ((env.evaluateWithin (levels + 1) (.not e)).run t).2)
      rw [run_not, ← hvalue]
      exact .cons (opposite_negation _) (ih hstate.shallower_right)

/-- Without levels every operand fails at the limit. -/
theorem operandOutcomes_zero (es : List Expression) (s : State) :
    ∀ r ∈ env.operandOutcomes 0 es s, r = .error (.depthLimitExceeded env.config.maxDepth) := by
  induction es generalizing s with
  | nil => exact List.forall_mem_nil _
  | cons e rest ih =>
      intro r hr
      rcases List.mem_cons.mp hr with rfl | hrest
      · rfl
      · exact ih s r hrest

/-! ## The laws -/

theorem map_ofBool_negation (r : EvalResult Bool) :
    r.map Term.ofBool >>= negation = (r.map not).map Term.ofBool := by
  cases r with
  | error e => rfl
  | ok holds =>
      show negation (Term.ofBool holds) = _
      unfold negation
      rw [effectiveBooleanValue_ofBool]
      rfl

/-- A connective of operands that the limit cuts off fails at the limit. -/
theorem connectives_cut_off (e : Expression) (es : List Expression) (s : State) :
    ((env.evaluateWithin 1 (.or e es)).run s).1 =
        .error (.depthLimitExceeded env.config.maxDepth) ∧
      ((env.evaluateWithin 1 (.and e es)).run s).1 =
        .error (.depthLimitExceeded env.config.maxDepth) := by
  have hfailing := env.operandOutcomes_zero (e :: es) s.deeper
  constructor
  · rw [or_outcome, show disjunction (m := Id) (env.operandOutcomes 0 (e :: es) s.deeper) = _ from
      disjunction_failing hfailing]
    rfl
  · -- an error is its own opposite, so the conjunction fails as the disjunction does
    have hopposite : List.Forall₂ Opposite (env.operandOutcomes 0 (e :: es) s.deeper)
        (env.operandOutcomes 0 (e :: es) s.deeper) := by
      refine List.forall₂_same.mpr fun r hr => ?_
      rw [hfailing r hr]
      rfl
    rw [and_outcome, conjunction_opposite hopposite,
      show disjunction (m := Id) (env.operandOutcomes 0 (e :: es) s.deeper) = _ from
        disjunction_failing hfailing]
    rfl

/-- A negated disjunction is the conjunction of the negations, with any number of levels. -/
theorem evaluateWithin_not_or (levels : Nat) (e : Expression) (es : List Expression) (s : State) :
    ((env.evaluateWithin levels (.not (.or e es))).run s).1 =
      ((env.evaluateWithin levels (.and (.not e) (es.map .not))).run s).1 := by
  match levels with
  | 0 => rfl
  | 1 =>
      rw [run_not, (env.connectives_cut_off (.not e) (es.map .not) s).2]
      rfl
  | levels + 2 =>
      have hopposite := env.operandOutcomes_not levels (e :: es)
        (SameButDepth.refl s.deeper).deeper_left
      rw [run_not, and_outcome, or_outcome, map_ofBool_negation, ← conjunction_opposite hopposite]
      rfl

/-- A negated conjunction is the disjunction of the negations, with any number of levels. -/
theorem evaluateWithin_not_and (levels : Nat) (e : Expression) (es : List Expression) (s : State) :
    ((env.evaluateWithin levels (.not (.and e es))).run s).1 =
      ((env.evaluateWithin levels (.or (.not e) (es.map .not))).run s).1 := by
  match levels with
  | 0 => rfl
  | 1 =>
      rw [run_not, (env.connectives_cut_off (.not e) (es.map .not) s).1]
      rfl
  | levels + 2 =>
      have hopposite := env.operandOutcomes_not levels (e :: es)
        (SameButDepth.refl s.deeper).deeper_left
      rw [run_not, or_outcome, and_outcome, map_ofBool_negation, ← disjunction_opposite hopposite]
      rfl

/-- **DE MORGAN'S LAWS**: a negated disjunction has the outcome of the conjunction of the negated
operands, and a negated conjunction that of the disjunction of the negated operands; from every
state, with every depth limit and for all functions. -/
theorem evaluate_deMorgan (e : Expression) (es : List Expression) (s : State) :
    ((env.evaluate (.not (.or e es))).run s).1 =
        ((env.evaluate (.and (.not e) (es.map .not))).run s).1 ∧
      ((env.evaluate (.not (.and e es))).run s).1 =
        ((env.evaluate (.or (.not e) (es.map .not))).run s).1 :=
  ⟨env.evaluateWithin_not_or env.config.maxDepth e es s,
    env.evaluateWithin_not_and env.config.maxDepth e es s⟩

end Environment

end SparqlScalar
