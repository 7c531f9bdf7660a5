import SparqlScalar.Calendar.DateTime
import SparqlScalar.Evaluation.Lookup
import SparqlScalar.Expression.Basic
import SparqlScalar.Pattern.OfText

/-!
# Contexts

What surrounds an expression: the terms that its variables are bound to, the current time, the base
IRI, the blank nodes made for literals, and the source of solutions of patterns. The solutions of a
pattern are pulled one by one, so a list of them may have no end.
-/

namespace SparqlScalar

/-- The limits under which expressions are evaluated. -/
structure Config where
  /-- How deep expressions may be nested. -/
  maxDepth : Nat := 256
  /-- How many bytes a pattern may take. -/
  patternSizeLimit : Nat := Pattern.defaultSizeLimit
deriving DecidableEq

/-- Variables with the terms they are bound to. -/
abbrev Bindings := List (String × Term)

namespace Bindings

/-- The term that a variable is bound to. -/
def get? (bindings : Bindings) (name : String) : Option Term := bindings.lookup name

/-- The same bindings but for one variable. -/
def bind (bindings : Bindings) (name : String) (term : Term) : Bindings :=
  (name, term) :: withoutKey name bindings

theorem get?_bind (bindings : Bindings) (name other : String) (term : Term) :
    (bindings.bind name term).get? other =
      if other == name then some term else bindings.get? other :=
  lookup_cons_withoutKey name other term bindings

end Bindings

/-- What the solutions of a pattern depend on. -/
structure Scope where
  bindings : Bindings
  now : DateTime
  base : Option String
  /-- Which cache has the blank nodes made for literals. -/
  cache : Nat

/-- What one request for a solution gives: a solution, an error, or nothing at the end; and how many
rows were passed for it. -/
structure Pull where
  item : Option (EvalResult Bindings)
  passed : Nat

/-- The answers to the first request for a solution, the second, and so on. -/
abbrev Solutions := Nat → Pull

/-- A source of solutions of patterns, with the number of the counter of its rows. -/
structure PatternSource where
  counter : Nat
  solutions : String → Scope → Solutions

/-- What surrounds an expression. -/
structure Context extends Scope where
  patterns : Option PatternSource

namespace Context

/-- The term that a variable is bound to. -/
def lookup (context : Context) (name : String) : Option Term := context.bindings.get? name

/-- The same context with a variable bound to a term. -/
def bind (context : Context) (name : String) (term : Term) : Context :=
  { context with bindings := context.bindings.bind name term }

/-- The context in which a pattern is evaluated: it has all that the one around it has. -/
def thaw (context : Context) : Context := context

end Context

end SparqlScalar
