import SparqlScalar.Proofs.Operands
import SparqlScalar.Proofs.Plan

/-!
# The plan of a construct

    `Environment.node` says what a construct does, given how expressions are evaluated.  This file
    takes it apart: `Environment.plan` asks for operands by their places, and `node_eq` puts the
    construct together again from its plan and the answers.

    A plan that may fail is an `ExceptT` over plans; to PERFORM it is a morphism of monads
    (`perform_bind`), and the connectives that run lists of operands go through it
    (`anyFrom_execute`, `allFrom_execute`, `firstValueFrom_execute`).
-/

namespace SparqlScalar

namespace Plan

variable {α β : Type}

/-- Asks for the value of the operand in a place. -/
def value (place : Nat) : ExceptT EvalError Plan Term := ExceptT.mk (.ask (.operand place) .done)

/-- Asks for the values of a number of operands, up to the first that has none. -/
def values (start : Nat) : Nat → ExceptT EvalError Plan (List Term)
  | 0 => return []
  | count + 1 => do
    let term ← value start
    let rest ← values (start + 1) count
    return term :: rest

/-- A question for each of a number of operands. -/
def questions (start : Nat) : Nat → List (Plan (EvalResult Term))
  | 0 => []
  | count + 1 => .ask (.operand start) .done :: questions (start + 1) count

/-- What a raw function asks. -/
def ofScript : Script → Plan (EvalResult Term)
  | .finish outcome => .done outcome
  | .evaluate e next => .ask (.other e) fun outcome => ofScript (next outcome)

/-- A plan as a computation, given how queries are answered. -/
def execute (answer : Query → Eval Term) (p : Plan α) : StateM State α := fun s =>
  p.run answer s

/-- A plan that may fail as an evaluation. -/
def perform (answer : Query → Eval Term) (p : ExceptT EvalError Plan α) : Eval α :=
  ExceptT.mk (execute answer p.run)

variable (answer : Query → Eval Term)

/-- A plan is executed part by part. -/
theorem execute_bind (p : Plan α) (f : α → Plan β) :
    execute answer (p >>= f) = execute answer p >>= fun a => execute answer (f a) := by
  funext s
  exact run_bind p f s

/-- A plan that may fail is performed part by part, and stops at a failure. -/
theorem perform_bind (p : ExceptT EvalError Plan α) (f : α → ExceptT EvalError Plan β) :
    perform answer (p >>= f) = perform answer p >>= fun a => perform answer (f a) := by
  show execute answer (p.run >>= ExceptT.bindCont f) =
    execute answer p.run >>= ExceptT.bindCont fun a => perform answer (f a)
  rw [execute_bind]
  -- what follows is a plan for each outcome of the first
  refine congrArg (execute answer p.run >>= ·) (funext fun r => ?_)
  cases r with
  | ok a => rfl
  | error e => rfl

theorem perform_pure (a : α) : perform answer (pure a) = pure a := rfl

/-- To ask for the value of an operand is to evaluate it. -/
theorem perform_value (place : Nat) : perform answer (value place) = answer (.operand place) := rfl

/-! ### Connectives

    A connective looks at one outcome and goes on with the rest of the list, so performing goes
    through it by induction over the list. -/

variable (test : Term → EvalResult Bool)

/-- The loop of a disjunction may be executed operand by operand. -/
theorem anyFrom_execute (firstError : Option EvalError) (ps : List (Plan (EvalResult Term))) :
    execute answer (anyFrom test firstError ps) =
      anyFrom test firstError (ps.map (execute answer)) := by
  induction ps generalizing firstError with
  | nil => rfl
  | cons p rest ih =>
      show execute answer (p >>= _) = execute answer p >>= _
      rw [execute_bind]
      refine congrArg (execute answer p >>= ·) (funext fun r => ?_)
      cases r >>= test with
      | error e => exact ih (firstError <|> some e)
      | ok b =>
          cases b with
          | false => exact ih firstError
          | true => rfl

/-- The loop of a conjunction may be executed operand by operand. -/
theorem allFrom_execute (holds : Bool) (firstError : Option EvalError)
    (ps : List (Plan (EvalResult Term))) :
    execute answer (allFrom test holds firstError ps) =
      allFrom test holds firstError (ps.map (execute answer)) := by
  induction ps generalizing holds firstError with
  | nil => rfl
  | cons p rest ih =>
      show execute answer (p >>= _) = execute answer p >>= _
      rw [execute_bind]
      refine congrArg (execute answer p >>= ·) (funext fun r => ?_)
      cases r >>= test with
      | error e => exact ih holds (firstError <|> some e)
      | ok b =>
          cases b with
          | false => exact ih false firstError
          | true => exact ih holds firstError

/-- The loop of COALESCE may be executed operand by operand. -/
theorem firstValueFrom_execute (found : Option Term) (ps : List (Plan (EvalResult Term))) :
    execute answer (firstValueFrom found ps) =
      firstValueFrom found (ps.map (execute answer)) := by
  induction ps generalizing found with
  | nil => rfl
  | cons p rest ih =>
      show execute answer (p >>= _) = execute answer p >>= _
      rw [execute_bind]
      refine congrArg (execute answer p >>= ·) (funext fun r => ?_)
      cases r with
      | error e => exact ih found
      | ok term => exact ih (found <|> some term)

/-! ### Operands in their places -/

/-- Consecutive places whose questions are answered by evaluating some expressions. -/
def Places (eval : Expression → Eval Term) (start : Nat) (es : List Expression) : Prop :=
  ∀ (i : Nat) (h : i < es.length), answer (.operand (start + i)) = eval es[i]

variable {answer} {eval : Expression → Eval Term} {start : Nat}

/-- The first of some operands is at the first place. -/
theorem Places.head {e : Expression} {rest : List Expression}
    (h : Places answer eval start (e :: rest)) : answer (.operand start) = eval e :=
  h 0 (Nat.zero_lt_succ _)

/-- All operands but the first are at the places after it. -/
theorem Places.tail {e : Expression} {rest : List Expression}
    (h : Places answer eval start (e :: rest)) : Places answer eval (start + 1) rest := by
  intro i hi
  have hplace := h (i + 1) (Nat.succ_lt_succ hi)
  rw [show start + 1 + i = start + (i + 1) by omega]
  exact hplace

/-- The questions for operands, executed, are the operands evaluated. -/
theorem questions_execute {es : List Expression} (h : Places answer eval start es) :
    (questions start es.length).map (execute answer) = es.map fun e => (eval e).run := by
  induction es generalizing start with
  | nil => rfl
  | cons e rest ih =>
      show execute answer (.ask (.operand start) .done) :: _ = (eval e).run :: _
      rw [← h.head, ih h.tail]
      rfl

/-- The values of operands, asked for in a row, are those of the operands from left to right. -/
theorem perform_values {es : List Expression} (h : Places answer eval start es) :
    perform answer (values start es.length) = es.mapM eval := by
  induction es generalizing start with
  | nil => rfl
  | cons e rest ih =>
      show perform answer (value start >>= fun term =>
        values (start + 1) rest.length >>= fun terms => pure (term :: terms)) = _
      simp only [perform_bind, perform_value, perform_pure, h.head, ih h.tail, List.mapM_cons]

/-- Operands beside their operators are evaluated like operands alone. -/
theorem perform_values_zip {Op : Type} {pairs : List (Op × Expression)}
    (h : Places answer eval start (pairs.map Prod.snd)) :
    (perform answer (values start pairs.length) >>= fun terms =>
        pure ((pairs.map Prod.fst).zip terms)) =
      pairs.mapM fun (operator, e) => return (operator, ← eval e) := by
  induction pairs generalizing start with
  | nil => rfl
  | cons pair rest ih =>
      show (perform answer (value start >>= fun term =>
        values (start + 1) rest.length >>= fun terms => pure (term :: terms)) >>= _) = _
      simp only [perform_bind, perform_value, perform_pure, h.head, List.mapM_cons, ← ih h.tail,
        bind_assoc, pure_bind, List.map_cons, List.zip_cons_cons]

/-- A script runs as its plan is performed. -/
theorem perform_ofScript (hother : ∀ e, answer (.other e) = eval e) (script : Script) :
    perform answer (ExceptT.mk (ofScript script)) = Environment.runScript eval script := by
  induction script with
  | finish outcome => rfl
  | evaluate e next ih =>
      show perform answer (ExceptT.mk (.ask (.other e) fun outcome => ofScript (next outcome))) =
        Eval.outcome (eval e) >>= fun outcome => Environment.runScript eval (next outcome)
      rw [← hother e]
      -- a script may go on after a failure, so the outcome is handed over as it is
      refine funext fun s => ?_
      exact congrFun (ih ((answer (.other e)).run s).1) ((answer (.other e)).run s).2

end Plan

/-! ## The plans of constructs -/

open Classical in
/-- The cast that a function is, if it is one. -/
noncomputable def CustomFunction.castTarget? (f : CustomFunction) : Option CastTarget :=
  if h : ∃ target, f = .ofCast target then some h.choose else none

/-- The function of a cast is known by its target. -/
theorem CustomFunction.castTarget?_ofCast (target : CastTarget) :
    (CustomFunction.ofCast target).castTarget? = some target := by
  have h : ∃ other, CustomFunction.ofCast target = .ofCast other := ⟨target, rfl⟩
  -- the chosen cast is the same function, and so has the same identifier
  have hid := congrArg CustomFunction.id h.choose_spec
  unfold castTarget?
  rw [dif_pos h]
  exact congrArg some (FunctionId.cast.inj hid).symm

/-- A function that is known by the target of a cast is the function of this cast. -/
theorem CustomFunction.eq_ofCast {f : CustomFunction} {target : CastTarget}
    (h : f.castTarget? = some target) : f = .ofCast target := by
  unfold castTarget? at h
  split at h
  case isTrue hex => rw [← Option.some.inj h, ← hex.choose_spec]
  case isFalse => exact nomatch h

namespace Environment

open Plan (value values questions perform perform_bind perform_value perform_pure)

/-- What a construct does before it asks for anything: a raw call is logged. -/
def opening (env : Environment) : Expression → Eval Unit
  | .call iri arguments =>
    match env.registry.get? iri with
    | some (.raw id _) => Eval.record (.rawCalled id iri arguments.length)
    | _ => pure ()
  | _ => pure ()

/-- The plan of a cast, which takes one argument. -/
def castPlan (target : CastTarget) : Nat → ExceptT EvalError Plan (Eval Term)
  | 0 => return Eval.ofResult (evaluationError .castWithoutArgument)
  | 1 => return Eval.ofResult (target.apply (← value 0))
  | _ => return Eval.ofResult (evaluationError .castWithManyArguments)

/-- The plan of the call of a function that is no cast. -/
def callPlan (env : Environment) (iri : Iri) (arguments : List Expression) :
    CustomFunction → ExceptT EvalError Plan (Eval Term)
  | .byValue id arity apply =>
    if arity.accepts arguments.length then do
      let terms ← values 0 arguments.length
      return do
        Eval.record (.called id terms)
        Eval.ofResult (apply terms)
    else return Eval.ofResult (.error (.arity iri.display arity.text arguments.length))
  | .raw _ script =>
    return pure (← ExceptT.mk (Plan.ofScript (script ⟨iri, arguments⟩ env.context env.config)))

/-- What a construct asks for, and what it does by itself when it has asked for everything. -/
noncomputable def plan (env : Environment) : Expression → ExceptT EvalError Plan (Eval Term)
  | .constant term => return pure term
  | .var name =>
    return match env.context.lookup name with
      | some term => pure term
      | none => Eval.ofResult (.error (.unbound name))
  | .lone _ _ => return pure (← value 0)
  | .or _ rest => do
    let b ← ExceptT.mk (disjunction (questions 0 (rest.length + 1)))
    return pure (Term.ofBool b)
  | .and _ rest => do
    let b ← ExceptT.mk (conjunction (questions 0 (rest.length + 1)))
    return pure (Term.ofBool b)
  | .compare operator _ _ => do
    let a ← value 0
    let b ← value 1
    return Eval.ofResult (comparison operator a b)
  | .isIn negated _ candidates => do
    let a ← value 0
    let found ← ExceptT.mk (membership a (questions 1 candidates.length))
    return pure (Term.ofBool (found != negated))
  | .additive _ rest => do
    let a ← value 0
    let others ← values 1 rest.length
    return Eval.ofResult (additiveChain a ((rest.map Prod.fst).zip others))
  | .multiplicative _ rest => do
    let a ← value 0
    let others ← values 1 rest.length
    return Eval.ofResult (multiplicativeChain a ((rest.map Prod.fst).zip others))
  | .not _ => return Eval.ofResult (negation (← value 0))
  | .negate _ => return Eval.ofResult (minus (← value 0))
  | .plus _ => return Eval.ofResult (SparqlScalar.plus (← value 0))
  | .conditional _ _ _ => do
    match effectiveBooleanValue (← value 0) with
    | .ok true => return pure (← value 1)
    | .ok false => return pure (← value 2)
    | .error e => return Eval.ofResult (.error e)
  | .coalesce candidates => return pure (← ExceptT.mk (firstValue (questions 0 candidates.length)))
  | .bound name => return pure (Term.ofBool (env.context.lookup name).isSome)
  | .builtin function arguments =>
    if function.arity.accepts arguments.length then
      return function.apply env (← values 0 arguments.length)
    else return Eval.ofResult (function.refuse arguments.length)
  | .solvable negated pattern =>
    return do
      return Term.ofBool ((← env.hasSolution pattern) != negated)
  | .call iri arguments =>
    match env.registry.get? iri with
    | none => return Eval.ofResult (evaluationError (.unknownFunction iri))
    | some function =>
      match function.castTarget? with
      | some target => castPlan target arguments.length
      | none => env.callPlan iri arguments function

/-- How the questions of a construct are answered, given how expressions are evaluated. -/
def answers (eval : Expression → Eval Term) (e : Expression) : Query → Eval Term
  | .operand place => eval (e.operand place)
  | .other d => eval d

/-- The answers to questions are the operands of the construct at their places. -/
theorem places_answers (eval : Expression → Eval Term) (e : Expression) :
    Plan.Places (answers eval e) eval 0 e.operands := by
  intro i h
  rw [← Expression.operand_eq h, Nat.zero_add]
  rfl

/-! ## Constructs and their plans -/

section Performing

variable {answer : Query → Eval Term} {eval : Expression → Eval Term} {start : Nat}
  {es : List Expression}

theorem perform_anyOf (h : Plan.Places answer eval start es) (test : Term → EvalResult Bool) :
    perform answer (ExceptT.mk (anyOf test (questions start es.length))) =
      ExceptT.mk (anyOf test (es.map fun e => (eval e).run)) := by
  rw [← Plan.questions_execute h]
  exact Plan.anyFrom_execute answer test none _

theorem perform_allOf (h : Plan.Places answer eval start es) (test : Term → EvalResult Bool) :
    perform answer (ExceptT.mk (allOf test (questions start es.length))) =
      ExceptT.mk (allOf test (es.map fun e => (eval e).run)) := by
  rw [← Plan.questions_execute h]
  exact Plan.allFrom_execute answer test true none _

theorem perform_firstValue (h : Plan.Places answer eval start es) :
    perform answer (ExceptT.mk (firstValue (questions start es.length))) =
      ExceptT.mk (firstValue (es.map fun e => (eval e).run)) := by
  rw [← Plan.questions_execute h]
  exact Plan.firstValueFrom_execute answer none _

end Performing

/-- The call of a cast is its opening and its plan. -/
theorem call_ofCast_eq (env : Environment) (eval : Expression → Eval Term) {iri : Iri}
    {arguments : List Expression} {target : CastTarget}
    (h : env.registry.get? iri = some (.ofCast target)) :
    env.call eval iri arguments = (do
      env.opening (.call iri arguments)
      let own ← perform (answers eval (.call iri arguments)) (castPlan target arguments.length)
      own) := by
  have hopening : env.opening (.call iri arguments) =
      Eval.record (.rawCalled (.cast target) iri arguments.length) := by
    simp only [opening, h, CustomFunction.ofCast]
  have hcall : env.call eval iri arguments =
      Eval.record (.rawCalled (.cast target) iri arguments.length) >>= fun _ =>
        runScript eval (CustomFunction.castScript target ⟨iri, arguments⟩) := by
    simp only [call, h, CustomFunction.ofCast]
  rw [hopening, hcall]
  refine congrArg (Eval.record _ >>= ·) (funext fun _ => ?_)
  match arguments with
  | [] => rfl
  | [argument] =>
      -- the script of a cast gives the failure of its argument back
      simp only [castPlan, List.length_singleton, Plan.perform_bind, Plan.perform_value,
        Plan.perform_pure, pure_bind, bind_assoc]
      exact Eval.outcome_bind (eval argument) target.apply
  | _ :: _ :: _ => rfl

/-- A construct is its opening, its plan and what the plan ends in. -/
theorem node_eq (env : Environment) (eval : Expression → Eval Term) (e : Expression) :
    env.node eval e = (do
      env.opening e
      let own ← perform (answers eval e) (env.plan e)
      own) := by
  have hplaces := places_answers eval e
  cases e with
  | constant _ | var _ | bound _ | solvable _ _ => rfl
  | lone _ operand =>
      simp only [node, opening, plan, perform_bind, perform_value, perform_pure, pure_bind,
        bind_assoc, bind_pure]
      rfl
  | not _ | negate _ | plus _ | compare _ _ _ =>
      simp only [node, opening, plan, perform_bind, perform_value, perform_pure, pure_bind,
        bind_assoc]
      rfl
  | or first rest =>
      have hrun := perform_anyOf hplaces effectiveBooleanValue
      simp only [node, opening, plan, perform_bind, perform_pure, pure_bind, bind_assoc, truth,
        disjunction]
      exact congrArg (· >>= fun b => pure (Term.ofBool b)) hrun.symm
  | and first rest =>
      have hrun := perform_allOf hplaces effectiveBooleanValue
      simp only [node, opening, plan, perform_bind, perform_pure, pure_bind, bind_assoc, truth,
        conjunction]
      exact congrArg (· >>= fun b => pure (Term.ofBool b)) hrun.symm
  | coalesce candidates =>
      have hrun := perform_firstValue hplaces
      simp only [node, opening, plan, perform_bind, perform_pure, pure_bind, bind_assoc, bind_pure]
      exact hrun.symm
  | isIn negated needle candidates =>
      simp only [node, opening, plan, perform_bind, perform_value, perform_pure, pure_bind,
        bind_assoc, membership, hplaces.head]
      -- the candidates are tested against the value of the needle
      refine congrArg (eval needle >>= ·) (funext fun a => ?_)
      rw [perform_anyOf hplaces.tail]
  | additive first rest | multiplicative first rest =>
      have hrun := Plan.perform_values_zip hplaces.tail
      simp only [node, opening, plan, perform_bind, perform_value, perform_pure, pure_bind,
        bind_assoc, hplaces.head, ← hrun]
  | conditional condition ifTrue ifFalse =>
      simp only [node, opening, plan, perform_bind, perform_value, pure_bind, bind_assoc,
        hplaces.head]
      refine congrArg (eval condition >>= ·) (funext fun a => ?_)
      cases effectiveBooleanValue a with
      | error e => rfl
      | ok b =>
          -- the branches have their own places, so one equation for any place serves both
          have hbranch : ∀ place, answers eval (.conditional condition ifTrue ifFalse) (.operand place) =
              perform (answers eval (.conditional condition ifTrue ifFalse))
                (value place >>= fun term => pure (pure term)) >>= fun own => own := by
            intro place
            simp only [perform_bind, perform_value, perform_pure, bind_assoc, pure_bind, bind_pure]
          cases b with
          | false => exact hbranch 2
          | true => exact hbranch 1
  | builtin function arguments =>
      have hrun : perform _ (values 0 arguments.length) = arguments.mapM eval :=
        Plan.perform_values hplaces
      simp only [node, opening, plan, pure_bind]
      split
      case isTrue => simp only [perform_bind, perform_pure, bind_assoc, pure_bind, hrun]
      case isFalse => rfl
  | call iri arguments =>
      cases hf : env.registry.get? iri with
      | none => simp only [node, call, opening, plan, hf, perform_pure, pure_bind]
      | some function =>
          cases hcast : function.castTarget? with
          | some target =>
              obtain rfl := CustomFunction.eq_ofCast hcast
              simp only [plan, hf, hcast]
              exact env.call_ofCast_eq eval hf
          | none =>
              cases function with
              | byValue id arity apply =>
                  have hrun : perform _ (values 0 arguments.length) = arguments.mapM eval :=
                    Plan.perform_values hplaces
                  simp only [node, call, opening, plan, hf, hcast, callPlan, pure_bind]
                  split
                  case isTrue => simp only [perform_bind, perform_pure, bind_assoc, pure_bind, hrun]
                  case isFalse => rfl
              | raw id script =>
                  have hother : ∀ d, answers eval (.call iri arguments) (.other d) = eval d :=
                    fun _ => rfl
                  have hrun := Plan.perform_ofScript hother
                    (script ⟨iri, arguments⟩ env.context env.config)
                  simp only [node, call, opening, plan, hf, hcast, callPlan, perform_bind,
                    perform_pure, bind_assoc, pure_bind, bind_pure, hrun]

end Environment

end SparqlScalar
