import SparqlScalar.Expression.Basic

/-!
# Simplification

Chains without a continuation are replaced by their operands, everywhere in an expression. What is
left has none of them, and is nested no deeper.
-/

namespace SparqlScalar.Expression

mutual

/-- An expression without chains that have no continuation. -/
def simplify : Expression → Expression
  | .constant term => .constant term
  | .var name => .var name
  | .lone _ operand => operand.simplify
  | .or first rest => .or first.simplify (simplifyAll rest)
  | .and first rest => .and first.simplify (simplifyAll rest)
  | .compare operator left right => .compare operator left.simplify right.simplify
  | .isIn negated needle candidates => .isIn negated needle.simplify (simplifyAll candidates)
  | .additive first rest => .additive first.simplify (simplifySums rest)
  | .multiplicative first rest => .multiplicative first.simplify (simplifyProducts rest)
  | .not operand => .not operand.simplify
  | .negate operand => .negate operand.simplify
  | .plus operand => .plus operand.simplify
  | .conditional condition ifTrue ifFalse =>
    .conditional condition.simplify ifTrue.simplify ifFalse.simplify
  | .coalesce candidates => .coalesce (simplifyAll candidates)
  | .bound name => .bound name
  | .builtin function arguments => .builtin function (simplifyAll arguments)
  | .solvable negated pattern => .solvable negated pattern
  | .call iri arguments => .call iri (simplifyAll arguments)
termination_by structural e => e

/-- The same for each of some expressions. -/
def simplifyAll : List Expression → List Expression
  | [] => []
  | e :: rest => e.simplify :: simplifyAll rest
termination_by structural es => es

/-- The same for the operands of a sum. -/
def simplifySums : List (AdditiveOperator × Expression) → List (AdditiveOperator × Expression)
  | [] => []
  | (operator, e) :: rest => (operator, e.simplify) :: simplifySums rest
termination_by structural es => es

/-- The same for the operands of a product. -/
def simplifyProducts :
    List (MultiplicativeOperator × Expression) → List (MultiplicativeOperator × Expression)
  | [] => []
  | (operator, e) :: rest => (operator, e.simplify) :: simplifyProducts rest
termination_by structural es => es

end

theorem simplifyAll_eq_map (es : List Expression) : simplifyAll es = es.map simplify := by
  induction es with
  | nil => rfl
  | cons e rest ih => rw [simplifyAll, ih, List.map_cons]

end SparqlScalar.Expression
