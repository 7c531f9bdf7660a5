/-!
# Arities

How many arguments a function takes, and how that is told.
-/

namespace SparqlScalar

/-- The numbers of arguments that a function takes. -/
inductive Arity where
  | nullary
  | fixed (count : Nat)
  | oneOf (choices : List Arity)
  | variadic

namespace Arity

mutual

/-- Whether a number of arguments is taken. -/
def accepts : Arity → Nat → Bool
  | .nullary, count => count == 0
  | .fixed n, count => count == n
  | .oneOf choices, count => acceptsAny choices count
  | .variadic, _ => true

/-- Whether a number of arguments is taken by one of some arities. -/
def acceptsAny : List Arity → Nat → Bool
  | [], _ => false
  | arity :: rest, count => arity.accepts count || acceptsAny rest count

end

mutual

/-- An arity in words. -/
def text : Arity → String
  | .nullary => "0"
  | .fixed n => toString n
  | .oneOf choices => String.intercalate " or " (texts choices)
  | .variadic => "any number of"

/-- Some arities in words. -/
def texts : List Arity → List String
  | [] => []
  | arity :: rest => arity.text :: texts rest

end

theorem acceptsAny_iff (choices : List Arity) (count : Nat) :
    acceptsAny choices count = true ↔ ∃ arity ∈ choices, arity.accepts count = true := by
  induction choices with
  | nil => simp [acceptsAny]
  | cons arity rest ih => simp [acceptsAny, ih]

end Arity

end SparqlScalar
