import SparqlScalar.Expression.Basic

/-!
# Nesting depth

How many expressions are nested within each other along the deepest branch of an expression.
-/

namespace SparqlScalar.Expression

mutual

/-- The nesting depth of an expression. -/
def depth : Expression → Nat
  | .constant _ => 1
  | .var _ => 1
  | .lone _ operand => operand.depth + 1
  | .or first rest => max first.depth (depthOfAll rest) + 1
  | .and first rest => max first.depth (depthOfAll rest) + 1
  | .compare _ left right => max left.depth right.depth + 1
  | .isIn _ needle candidates => max needle.depth (depthOfAll candidates) + 1
  | .additive first rest => max first.depth (depthOfSums rest) + 1
  | .multiplicative first rest => max first.depth (depthOfProducts rest) + 1
  | .not operand => operand.depth + 1
  | .negate operand => operand.depth + 1
  | .plus operand => operand.depth + 1
  | .conditional condition ifTrue ifFalse =>
    max condition.depth (max ifTrue.depth ifFalse.depth) + 1
  | .coalesce candidates => depthOfAll candidates + 1
  | .bound _ => 1
  | .builtin _ arguments => depthOfAll arguments + 1
  | .solvable _ _ => 1
  | .call _ arguments => depthOfAll arguments + 1
termination_by structural e => e

/-- The depth of the deepest of some expressions. -/
def depthOfAll : List Expression → Nat
  | [] => 0
  | e :: rest => max e.depth (depthOfAll rest)
termination_by structural es => es

/-- The depth of the deepest operand of a sum. -/
def depthOfSums : List (AdditiveOperator × Expression) → Nat
  | [] => 0
  | (_, e) :: rest => max e.depth (depthOfSums rest)
termination_by structural es => es

/-- The depth of the deepest operand of a product. -/
def depthOfProducts : List (MultiplicativeOperator × Expression) → Nat
  | [] => 0
  | (_, e) :: rest => max e.depth (depthOfProducts rest)
termination_by structural es => es

end

theorem depth_pos (e : Expression) : 0 < e.depth := by
  cases e <;> simp [depth]

end SparqlScalar.Expression
