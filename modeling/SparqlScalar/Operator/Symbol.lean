/-!
# Operator symbols

The binary operators of expressions, in three groups of precedence, and how they are written.
-/

namespace SparqlScalar

/-- The operators that compare two terms. -/
inductive ComparisonOperator where
  | equal
  | notEqual
  | less
  | greater
  | lessOrEqual
  | greaterOrEqual
deriving DecidableEq

namespace ComparisonOperator

/-- All comparison operators. -/
def all : List ComparisonOperator :=
  [.equal, .notEqual, .less, .greater, .lessOrEqual, .greaterOrEqual]

def symbol : ComparisonOperator → String
  | .equal => "="
  | .notEqual => "!="
  | .less => "<"
  | .greater => ">"
  | .lessOrEqual => "<="
  | .greaterOrEqual => ">="

/-- Whether an order of the operands makes the comparison true. -/
def accepts (op : ComparisonOperator) (order : Ordering) : Bool :=
  match op with
  | .equal => order.isEq
  | .notEqual => !order.isEq
  | .less => order.isLT
  | .greater => order.isGT
  | .lessOrEqual => order.isLE
  | .greaterOrEqual => order.isGE

end ComparisonOperator

/-- The operators of sums. -/
inductive AdditiveOperator where
  | add
  | subtract
deriving DecidableEq

def AdditiveOperator.symbol : AdditiveOperator → String
  | .add => "+"
  | .subtract => "-"

/-- The operators of products. -/
inductive MultiplicativeOperator where
  | multiply
  | divide
deriving DecidableEq

def MultiplicativeOperator.symbol : MultiplicativeOperator → String
  | .multiply => "*"
  | .divide => "/"

end SparqlScalar
