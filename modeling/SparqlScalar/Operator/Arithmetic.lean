import SparqlScalar.Operator.Temporal

/-!
# Arithmetic

Sums and products of numbers after promotion, and chains of them from left to right. A result that
does not fit its kind is an overflow. Functions of one number keep the datatype of their operand.
-/

namespace SparqlScalar

/-- The value, or an overflow where there is none. -/
def orOverflow {α : Type} (result : Option α) : EvalResult α :=
  EvalResult.ofOption .numericOverflow result

/-- Applies a function to the numbers that two terms stand for. -/
def withNumbers (f : Numeric → Numeric → EvalResult Numeric) (left right : Term) :
    EvalResult Term := do
  let a ← left.numeric
  let b ← right.numeric
  let result ← f a b
  return (Value.numeric result).toTerm

def sum (left right : Term) : EvalResult Term :=
  withNumbers (fun a b => orOverflow (a.add? b)) left right

def difference (left right : Term) : EvalResult Term :=
  withNumbers (fun a b => orOverflow (a.sub? b)) left right

def product (left right : Term) : EvalResult Term :=
  withNumbers (fun a b => orOverflow (a.mul? b)) left right

/-- The quotient. No kind of number is divided by zero. -/
def quotient (left right : Term) : EvalResult Term :=
  withNumbers
    (fun a b => if b.isZero then evaluationError .divideByZero else orOverflow (a.div? b))
    left right

def AdditiveOperator.apply : AdditiveOperator → Term → Term → EvalResult Term
  | .add => sum
  | .subtract => difference

def MultiplicativeOperator.apply : MultiplicativeOperator → Term → Term → EvalResult Term
  | .multiply => product
  | .divide => quotient

/-- Applies operators from left to right. -/
def chain {Op : Type} (apply : Op → Term → Term → EvalResult Term) (current : Term) :
    List (Op × Term) → EvalResult Term
  | [] => .ok current
  | (op, term) :: rest => do
    let next ← apply op current term
    chain apply next rest

/-- A chain of numbers; a lone operand still has to be a number. -/
def numericChain {Op : Type} (apply : Op → Term → Term → EvalResult Term) (first : Term)
    (rest : List (Op × Term)) : EvalResult Term := do
  if rest.isEmpty then
    let _ ← first.numeric
    return first
  chain apply first rest

/-- A sum. It is one of points in time if the datatype of its first operand says so. -/
def additiveChain (first : Term) (rest : List (AdditiveOperator × Term)) : EvalResult Term :=
  if first.isTemporal then temporalChain first rest
  else numericChain AdditiveOperator.apply first rest

/-- A product. -/
def multiplicativeChain (first : Term) (rest : List (MultiplicativeOperator × Term)) :
    EvalResult Term :=
  numericChain MultiplicativeOperator.apply first rest

/-- The negated number, in the datatype of its kind. -/
def minus (t : Term) : EvalResult Term := do
  let a ← t.numeric
  let result ← orOverflow a.neg?
  return (Value.numeric result).toTerm

/-- The number itself, in the datatype of its kind. -/
def plus (t : Term) : EvalResult Term := do
  let a ← t.numeric
  return (Value.numeric a).toTerm

/-- Applies a function to a number and keeps the datatype it was written in. -/
def keepingDatatype (f : Numeric → Option Numeric) (t : Term) : EvalResult Term := do
  let operand ← t.numericOperand
  let result ← orOverflow (f operand.value)
  return .literal (result.toLiteralOf operand.datatype)

def magnitude (t : Term) : EvalResult Term := keepingDatatype Numeric.abs? t

def floorOf (t : Term) : EvalResult Term := keepingDatatype Numeric.floor? t

def ceilingOf (t : Term) : EvalResult Term := keepingDatatype Numeric.ceil? t

def roundedOf (t : Term) : EvalResult Term := keepingDatatype Numeric.round? t

end SparqlScalar
