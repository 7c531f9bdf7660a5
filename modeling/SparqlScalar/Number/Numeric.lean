import SparqlScalar.Number.Conversion

/-!
# Numbers of the four kinds

A `Numeric` carries its kind in the order of promotion: integer, decimal, float, double. Two
numbers meet in the wider of their kinds (`Numeric.promote`), and there they are added, multiplied
and compared.
-/

namespace SparqlScalar

/-- The kinds of number, each wider than the one before. -/
inductive NumericKind where
  | integer
  | decimal
  | float
  | double
deriving DecidableEq

/-- A number of one of the four kinds. -/
inductive Numeric where
  | integer (value : Integer)
  | decimal (value : Decimal)
  | float (value : Single)
  | double (value : Double)
deriving DecidableEq

namespace Numeric

/-- Two numbers of one kind. -/
inductive Pair where
  | integer (left right : Integer)
  | decimal (left right : Decimal)
  | float (left right : Single)
  | double (left right : Double)
deriving DecidableEq

def kind : Numeric → NumericKind
  | .integer _ => .integer
  | .decimal _ => .decimal
  | .float _ => .float
  | .double _ => .double

/-- The canonical text of the number. -/
def text : Numeric → List Char
  | .integer value => value.text
  | .decimal value => value.text
  | .float value => value.text
  | .double value => value.text

def isNaN : Numeric → Bool
  | .float value => value.isNaN
  | .double value => value.isNaN
  | _ => false

def isZero : Numeric → Bool
  | .integer value => value.toInt == 0
  | .decimal value => value.units == 0
  | .float value => value.isZero
  | .double value => value.isZero

/-- The number in double precision. -/
def toDouble : Numeric → Double
  | .integer value => value.toBinary
  | .decimal value => value.toDouble
  | .float value => value.convert
  | .double value => value

/-- The number in single precision. -/
def toSingle : Numeric → Single
  | .integer value => value.toBinary
  | .decimal value => value.toSingle
  | .float value => value
  | .double value => value.convert

/-- Brings two numbers to the wider of their kinds. -/
def promote : Numeric → Numeric → Pair
  | .integer a, .integer b => .integer a b
  | .integer a, .decimal b => .decimal a.toDecimal b
  | .decimal a, .integer b => .decimal a b.toDecimal
  | .decimal a, .decimal b => .decimal a b
  | .double a, b => .double a b.toDouble
  | a, .double b => .double a.toDouble b
  | .float a, b => .float a b.toSingle
  | a, .float b => .float a.toSingle b

/-- The order of the values in the wider kind; what is not a number has no place in it. -/
def compare? (a b : Numeric) : Option Ordering :=
  match promote a b with
  | .integer a b => some (compare a b)
  | .decimal a b => some (compare a b)
  | .float a b => a.compare? b
  | .double a b => a.compare? b

def add? (a b : Numeric) : Option Numeric :=
  match promote a b with
  | .integer a b => (a.add? b).map .integer
  | .decimal a b => (a.add? b).map .decimal
  | .float a b => some (.float (a.add b))
  | .double a b => some (.double (a.add b))

def sub? (a b : Numeric) : Option Numeric :=
  match promote a b with
  | .integer a b => (a.sub? b).map .integer
  | .decimal a b => (a.sub? b).map .decimal
  | .float a b => some (.float (a.sub b))
  | .double a b => some (.double (a.sub b))

def mul? (a b : Numeric) : Option Numeric :=
  match promote a b with
  | .integer a b => (a.mul? b).map .integer
  | .decimal a b => (a.mul? b).map .decimal
  | .float a b => some (.float (a.mul b))
  | .double a b => some (.double (a.mul b))

/-- The quotient; two integers have a decimal one. -/
def div? (a b : Numeric) : Option Numeric :=
  match promote a b with
  | .integer a b => (a.toDecimal.div? b.toDecimal).map .decimal
  | .decimal a b => (a.div? b).map .decimal
  | .float a b => some (.float (a.div b))
  | .double a b => some (.double (a.div b))

def neg? : Numeric → Option Numeric
  | .integer a => a.neg?.map .integer
  | .decimal a => a.neg?.map .decimal
  | .float a => some (.float a.neg)
  | .double a => some (.double a.neg)

def abs? : Numeric → Option Numeric
  | .integer a => a.abs?.map .integer
  | .decimal a => a.abs?.map .decimal
  | .float a => some (.float a.abs)
  | .double a => some (.double a.abs)

/-- The greatest whole number that is not above, in the same kind. -/
def floor? : Numeric → Option Numeric
  | .integer a => some (.integer a)
  | .decimal a => a.floor?.map .decimal
  | .float a => some (.float a.floor)
  | .double a => some (.double a.floor)

/-- The least whole number that is not below, in the same kind. -/
def ceil? : Numeric → Option Numeric
  | .integer a => some (.integer a)
  | .decimal a => a.ceil?.map .decimal
  | .float a => some (.float a.ceil)
  | .double a => some (.double a.ceil)

/-- The nearest whole number in the same kind, where halves go away from zero. -/
def round? : Numeric → Option Numeric
  | .integer a => some (.integer a)
  | .decimal a => a.round?.map .decimal
  | .float a => some (.float a.round)
  | .double a => some (.double a.round)

end Numeric

end SparqlScalar
