import SparqlScalar.Evaluation.Registry
import SparqlScalar.Evaluation.State

/-!
# Environments

All that an evaluation is given and does not change.
-/

namespace SparqlScalar

/-- The functions, the limits and the surroundings of an expression, and the random numbers in the
order in which they are drawn. -/
structure Environment where
  registry : Registry
  config : Config
  context : Context
  entropy : Nat → Nat

end SparqlScalar
