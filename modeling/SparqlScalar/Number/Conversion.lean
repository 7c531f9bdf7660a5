import SparqlScalar.Number.BinaryText
import SparqlScalar.Number.Decimal
import SparqlScalar.Number.Integer

/-!
# Conversions between kinds of number

Widening toward binary floating point rounds; narrowing toward decimals and integers cuts off
toward zero and fails outside the range of the target. A single-precision number always passes
through double precision on its way to a decimal, and a decimal on its way to single precision.
-/

namespace SparqlScalar

namespace Integer

def toDecimal (a : Integer) : Decimal :=
  ⟨a.toInt * Decimal.scale,
    by have := a.lower; rw [Decimal.intCast_scale]; omega,
    by have := a.upper; rw [Decimal.intCast_scale]; omega⟩

/-- The nearest datum of a format, in one rounding. -/
def toBinary {f : BinaryFormat} (a : Integer) : Binary f := Binary.ofInt a.toInt

end Integer

namespace Decimal

/-- The whole part as an integer. -/
def toInteger? (a : Decimal) : Option Integer := Integer.ofInt? a.truncate

/-- Removes common factors of ten from a count of units and the units in one. -/
def reduce : Nat → Int → Nat → Int × Nat
  | 0, n, d => (n, d)
  | fuel + 1, n, d => if n ≠ 0 ∧ n % 10 = 0 then reduce fuel (n / 10) (d / 10) else (n, d)

/-- The quotient, in double precision, of the count of units and the units in one, after common
factors of ten are removed. -/
def toDouble (a : Decimal) : Double :=
  let (n, d) := reduce 18 a.units scale
  (Binary.ofInt n).div (Binary.ofInt d)

def toSingle (a : Decimal) : Single := a.toDouble.convert

/-- A signed magnitude cut off to a whole number. -/
def truncateDyadic (negative : Bool) (significand : Nat) (exponent : Int) : Int :=
  Digits.signed negative <|
    if 0 ≤ exponent then significand * Nat.pow 2 exponent.toNat
    else significand / Nat.pow 2 (-exponent).toNat

/-- The decimal of a number of units computed in double precision. The upper bound itself is let
in and stands for the greatest decimal. -/
def ofScaledDouble? : Double → Option Decimal
  | .nan => none
  | .infinite _ => none
  | .finite negative significand exponent _ =>
    let units := truncateDyadic negative significand exponent
    if units = 0x80000000000000000000000000000000 then ofUnits? (units - 1) else ofUnits? units

/-- Scales in double precision and cuts off. -/
def ofDouble? (x : Double) : Option Decimal := ofScaledDouble? (x.mul (Binary.ofInt scale))

def ofSingle? (x : Single) : Option Decimal := ofDouble? x.convert

end Decimal

namespace Integer

def ofDouble? (x : Double) : Option Integer := (Decimal.ofDouble? x).bind Decimal.toInteger?

def ofSingle? (x : Single) : Option Integer := (Decimal.ofSingle? x).bind Decimal.toInteger?

end Integer

end SparqlScalar
