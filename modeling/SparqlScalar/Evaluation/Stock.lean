import SparqlScalar.Evaluation.Function

/-!
# Stock functions

Small custom functions of both calling conventions, from which sessions make functions of their own.
-/

namespace SparqlScalar.Stock

/-- The texts of literals with a text between them. -/
def join (separator : String) (arguments : List Term) : EvalResult Term := do
  let texts ← arguments.mapM fun
    | .literal l => .ok l.lexical
    | _ => typeError (.custom "join expects literals")
  return Term.simple (String.intercalate separator texts)

/-- The number of arguments. -/
def count (arguments : List Term) : EvalResult Term :=
  .ok (.literal (Literal.ofInt arguments.length))

/-- The failure of a function that needs an argument. -/
def argumentRequired : EvalResult Term :=
  evaluationError (.custom "test: an argument is required")

/-- Evaluates the first argument only. -/
def first (call : FunctionCall) : Script :=
  match call.arguments with
  | [] => .finish argumentRequired
  | e :: _ => .evaluate e .finish

/-- Evaluates expressions one after the other; the outcome is that of the last. -/
def inTurn (last : EvalResult Term) : List Expression → Script
  | [] => .finish last
  | e :: rest => .evaluate e fun outcome => inTurn outcome rest

/-- Evaluates all arguments from the last to the first. -/
def reverse (call : FunctionCall) : Script := inTurn argumentRequired call.arguments.reverse

/-- Evaluates the first argument, and gives the kind of its error where it fails. -/
def attempt (call : FunctionCall) : Script :=
  match call.arguments with
  | [] => .finish argumentRequired
  | e :: _ => .evaluate e fun
    | .ok t => .finish (.ok t)
    | .error cause => .finish (.ok (Term.simple cause.kind.name))

/-- Looks up a variable. -/
def lookup (name : String) (context : Context) : Script :=
  match context.lookup name with
  | some t => .finish (.ok t)
  | none => .finish (.error (.unbound name))

/-- Tells the limits of evaluations. -/
def limits (config : Config) : Script :=
  .finish (.ok (Term.simple (toString config.maxDepth ++ " " ++ toString config.patternSizeLimit)))

end SparqlScalar.Stock
