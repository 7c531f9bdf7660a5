import SparqlScalar.Evaluation.Builtins
import SparqlScalar.Operator.Comparison
import SparqlScalar.Operator.Logic
import SparqlScalar.Operator.Temporal

/-!
# Evaluation

The value of an expression. Operands are evaluated from left to right, each only if its construct
asks for it. The levels that may still be opened are counted down, so that every evaluation ends,
also where a function evaluates its own call.
-/

namespace SparqlScalar

namespace Environment

/-- The truth value of an evaluation as a term. -/
def truth (run : StateM State (EvalResult Bool)) : Eval Term := do
  let b ← ExceptT.mk run
  return Term.ofBool b

/-- Runs a script, given how expressions are evaluated. -/
def runScript (eval : Expression → Eval Term) : Script → Eval Term
  | .finish outcome => Eval.ofResult outcome
  | .evaluate e next => do
    let outcome ← Eval.outcome (eval e)
    runScript eval (next outcome)

/-- Calls a function by its IRI. -/
def call (env : Environment) (eval : Expression → Eval Term) (iri : Iri)
    (arguments : List Expression) : Eval Term :=
  match env.registry.get? iri with
  | none => Eval.ofResult (evaluationError (.unknownFunction iri))
  | some (.byValue id arity apply) =>
    if arity.accepts arguments.length then do
      let values ← arguments.mapM eval
      Eval.record (.called id values)
      Eval.ofResult (apply values)
    else Eval.ofResult (.error (.arity iri.display arity.text arguments.length))
  | some (.raw id script) => do
    Eval.record (.rawCalled id iri arguments.length)
    runScript eval (script ⟨iri, arguments⟩ env.context env.config)

/-- Whether a pattern has a solution: the first answer tells. -/
def hasSolution (env : Environment) (pattern : String) : Eval Bool :=
  match env.context.patterns with
  | none => Eval.ofResult (evaluationError .noPatternEvaluator)
  | some source => do
    let pull := source.solutions pattern env.context.thaw.toScope 0
    Eval.record (.pulled source.counter pattern pull.passed)
    match pull.item with
    | none => return false
    | some item => Eval.ofResult (item.map fun _ => true)

/-- The value of an expression, given how its operands are evaluated. -/
def node (env : Environment) (eval : Expression → Eval Term) : Expression → Eval Term
  | .constant term => return term
  | .var name =>
    match env.context.lookup name with
    | some term => return term
    | none => Eval.ofResult (.error (.unbound name))
  | .lone _ operand => eval operand
  | .or first rest => truth (disjunction ((first :: rest).map fun e => (eval e).run))
  | .and first rest => truth (conjunction ((first :: rest).map fun e => (eval e).run))
  | .compare operator left right => do
    let a ← eval left
    let b ← eval right
    Eval.ofResult (comparison operator a b)
  | .isIn negated needle candidates => do
    let a ← eval needle
    let found ← ExceptT.mk (membership a (candidates.map fun e => (eval e).run))
    return Term.ofBool (found != negated)
  | .additive first rest => do
    let a ← eval first
    let others ← rest.mapM fun (operator, e) => return (operator, ← eval e)
    Eval.ofResult (additiveChain a others)
  | .multiplicative first rest => do
    let a ← eval first
    let others ← rest.mapM fun (operator, e) => return (operator, ← eval e)
    Eval.ofResult (multiplicativeChain a others)
  | .not operand => do Eval.ofResult (negation (← eval operand))
  | .negate operand => do Eval.ofResult (minus (← eval operand))
  | .plus operand => do Eval.ofResult (SparqlScalar.plus (← eval operand))
  | .conditional condition ifTrue ifFalse => do
    let holds ← Eval.ofResult (effectiveBooleanValue (← eval condition))
    if holds then eval ifTrue else eval ifFalse
  | .coalesce candidates => ExceptT.mk (firstValue (candidates.map fun e => (eval e).run))
  | .bound name => return Term.ofBool (env.context.lookup name).isSome
  | .builtin function arguments =>
    if function.arity.accepts arguments.length then do
      function.apply env (← arguments.mapM eval)
    else Eval.ofResult (function.refuse arguments.length)
  | .solvable negated pattern => return Term.ofBool ((← env.hasSolution pattern) != negated)
  | .call iri arguments => env.call eval iri arguments

/-- The value of an expression, if it is nested no deeper than some number of levels. -/
def evaluateWithin (env : Environment) : Nat → Expression → Eval Term
  | 0, _ => Eval.ofResult (.error (.depthLimitExceeded env.config.maxDepth))
  | levels + 1, e => Eval.nested (env.node (env.evaluateWithin levels) e)

/-- The value of an expression. -/
def evaluate (env : Environment) (e : Expression) : Eval Term :=
  env.evaluateWithin env.config.maxDepth e

/-- The truth value of an expression. -/
def evaluateCondition (env : Environment) (e : Expression) : Eval Bool := do
  Eval.ofResult (effectiveBooleanValue (← env.evaluate e))

end Environment

end SparqlScalar
