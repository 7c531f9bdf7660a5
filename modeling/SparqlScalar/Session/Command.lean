import SparqlScalar.Evaluation.Registry
import SparqlScalar.Evaluation.State

/-!
# Commands

What can be asked of a session, and the answers. Functions, caches and contexts have names of their
own there.
-/

namespace SparqlScalar.Session

/-- How an expression is evaluated. -/
inductive Mode where
  /-- To its value. -/
  | value
  /-- To its truth value. -/
  | condition
  /-- To the value of what it simplifies to. -/
  | simplified
deriving DecidableEq

/-- A function that has no number yet. -/
inductive FunctionBody where
  | byValue (arity : Arity) (apply : List Term → EvalResult Term)
  | raw (script : FunctionCall → Context → Config → Script)

/-- A context that has no cache and no counter yet. -/
structure ContextBody where
  bindings : Bindings
  now : DateTime
  base : Option String
  patterns : Option (String → Scope → Solutions)

/-- Something asked of a session. -/
inductive Command where
  | newFunction (name : String) (body : FunctionBody)
  /-- Gives a name to the function of an IRI. -/
  | take (iri : Iri) (name : String)
  | register (iri : Iri) (name : String) (replace : Bool)
  | unregister (iri : Iri) (name : String)
  | contains (iri : Iri)
  | get (iri : Iri)
  | newCache (name : String)
  | cacheNode (name : String) (literal : Literal)
  | cacheSize (name : String)
  /-- Makes a context, with a cache of its own if none is named. -/
  | newContext (name : String) (cache : Option String) (body : ContextBody)
  /-- Makes another context that shares the cache and the counter of the first. -/
  | cloneContext (source name : String)
  | bind (context variableName : String) (term : Term)
  | lookup (context variableName : String)
  /-- Looks a variable up in the context that a pattern within a pattern would have. -/
  | thawLookup (context variableName : String)
  | contextNode (context : String) (literal : Literal)
  | thawNode (context : String) (literal : Literal)
  | contextCacheSize (context : String)
  | evaluate (context : String) (e : Expression) (mode : Mode)

/-- The outcome of an evaluation in one of the modes. -/
inductive Outcome where
  | term (result : EvalResult Term)
  | truth (result : EvalResult Bool)

/-- An answer of a session. -/
inductive Reply where
  | done
  | truth (value : Bool)
  | changed (refusal : Option RegistryError)
  /-- A function, whether it is raw, and the names of those that are the same. -/
  | function (found : Option (Bool × List String))
  | node (node : BlankNode)
  | size (count : Nat)
  | bindings (bindings : Bindings)
  | found (term : Option Term)
  | thawed (found : Option Term) (scope : Scope) (hasPatterns : Bool)
  /-- An outcome, what was done for it, and how many rows of the context were ever passed. -/
  | evaluated (outcome : Outcome) (events : List Event) (passed : Option Nat)
  /-- The command names something that is not there. -/
  | unknownName (name : String)

end SparqlScalar.Session
