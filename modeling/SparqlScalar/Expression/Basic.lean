import SparqlScalar.Expression.Builtin
import SparqlScalar.Operator.Symbol
import SparqlScalar.Term.Operand

/-!
# Expressions

A scalar expression as a tree. A chain of operands may have one operand only and no continuation; it
is then a node of its own, which means no more than its operand does.
-/

namespace SparqlScalar

/-- The levels of a grammar on which operands are chained. -/
inductive Chain where
  | or
  | and
  | relational
  | additive
  | multiplicative
deriving DecidableEq, Repr

/-- A scalar expression. -/
inductive Expression where
  | constant (term : Term)
  | var (name : String)
  /-- A chain that has no continuation. -/
  | lone (chain : Chain) (operand : Expression)
  | or (first : Expression) (rest : List Expression)
  | and (first : Expression) (rest : List Expression)
  | compare (operator : ComparisonOperator) (left right : Expression)
  | isIn (negated : Bool) (needle : Expression) (candidates : List Expression)
  | additive (first : Expression) (rest : List (AdditiveOperator × Expression))
  | multiplicative (first : Expression) (rest : List (MultiplicativeOperator × Expression))
  | not (operand : Expression)
  | negate (operand : Expression)
  | plus (operand : Expression)
  | conditional (condition ifTrue ifFalse : Expression)
  | coalesce (candidates : List Expression)
  | bound (name : String)
  | builtin (function : Builtin) (arguments : List Expression)
  /-- Whether a pattern has a solution, or that it has none. -/
  | solvable (negated : Bool) (pattern : String)
  | call (iri : Iri) (arguments : List Expression)

/-- The call of a function that is not built in. -/
structure FunctionCall where
  iri : Iri
  arguments : List Expression

namespace Expression

/-- The expression that is true. -/
def alwaysTrue : Expression := .constant (Term.ofBool true)

/-- The conjunction of operands: of none it is true, of one it is the operand itself. -/
def andAll : List Expression → Expression
  | [] => alwaysTrue
  | [operand] => operand
  | first :: rest => .and first rest

mutual

/-- Whether two expressions are the same. -/
def same : Expression → Expression → Bool
  | .constant s, .constant t => s == t
  | .var x, .var y => x == y
  | .lone c d, .lone c' d' => c == c' && d.same d'
  | .or d ds, .or e es => d.same e && sameAll ds es
  | .and d ds, .and e es => d.same e && sameAll ds es
  | .compare o d d', .compare o' e e' => o == o' && d.same e && d'.same e'
  | .isIn n d ds, .isIn n' e es => n == n' && d.same e && sameAll ds es
  | .additive d ds, .additive e es => d.same e && sameSums ds es
  | .multiplicative d ds, .multiplicative e es => d.same e && sameProducts ds es
  | .not d, .not e => d.same e
  | .negate d, .negate e => d.same e
  | .plus d, .plus e => d.same e
  | .conditional a b c, .conditional a' b' c' => a.same a' && b.same b' && c.same c'
  | .coalesce ds, .coalesce es => sameAll ds es
  | .bound x, .bound y => x == y
  | .builtin f ds, .builtin g es => f == g && sameAll ds es
  | .solvable n p, .solvable n' p' => n == n' && p == p'
  | .call i ds, .call j es => i == j && sameAll ds es
  | _, _ => false
termination_by structural d => d

/-- Whether two lists hold the same expressions. -/
def sameAll : List Expression → List Expression → Bool
  | [], [] => true
  | d :: ds, e :: es => d.same e && sameAll ds es
  | _, _ => false
termination_by structural ds => ds

/-- Whether two continuations of a sum are the same. -/
def sameSums : List (AdditiveOperator × Expression) → List (AdditiveOperator × Expression) → Bool
  | [], [] => true
  | (o, d) :: ds, (o', e) :: es => o == o' && d.same e && sameSums ds es
  | _, _ => false
termination_by structural ds => ds

/-- Whether two continuations of a product are the same. -/
def sameProducts :
    List (MultiplicativeOperator × Expression) → List (MultiplicativeOperator × Expression) → Bool
  | [], [] => true
  | (o, d) :: ds, (o', e) :: es => o == o' && d.same e && sameProducts ds es
  | _, _ => false
termination_by structural ds => ds

end

instance : BEq Expression := ⟨same⟩

end Expression

end SparqlScalar
