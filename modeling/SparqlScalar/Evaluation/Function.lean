import SparqlScalar.Evaluation.Context
import SparqlScalar.Operator.Cast

/-!
# Custom functions

A function that is called by its IRI. One called by value gets the terms of its arguments. A raw one
gets its call and decides which expressions are evaluated and in which order; what it does is a
script, in which each step may depend on the outcomes before.
-/

namespace SparqlScalar

/-- What tells functions apart: each cast is one, and others are told apart by a number beside their
names. -/
inductive FunctionId where
  | cast (target : CastTarget)
  | custom (name : String) (serial : Nat)
deriving DecidableEq

/-- The steps of a raw function. -/
inductive Script where
  | finish (outcome : EvalResult Term)
  /-- Evaluates an expression and goes on with its outcome. -/
  | evaluate (e : Expression) (next : EvalResult Term → Script)

/-- A custom function with its calling convention. -/
inductive CustomFunction where
  | byValue (id : FunctionId) (arity : Arity) (apply : List Term → EvalResult Term)
  | raw (id : FunctionId) (script : FunctionCall → Context → Config → Script)

namespace CustomFunction

def id : CustomFunction → FunctionId
  | .byValue id _ _ => id
  | .raw id _ => id

def isRaw : CustomFunction → Bool
  | .byValue _ _ _ => false
  | .raw _ _ => true

/-- Whether two functions are the same one, called in the same way. -/
def isSame (f g : CustomFunction) : Bool := f.isRaw == g.isRaw && f.id == g.id

/-- The script of a cast, which takes one argument. -/
def castScript (target : CastTarget) (call : FunctionCall) : Script :=
  match call.arguments with
  | [] => .finish (evaluationError .castWithoutArgument)
  | [argument] => .evaluate argument fun outcome => .finish (outcome >>= target.apply)
  | _ => .finish (evaluationError .castWithManyArguments)

/-- The function of a cast. -/
def ofCast (target : CastTarget) : CustomFunction :=
  .raw (.cast target) fun call _ _ => castScript target call

end CustomFunction

end SparqlScalar
