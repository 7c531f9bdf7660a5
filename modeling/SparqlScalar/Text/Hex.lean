/-!
# Hexadecimal digits

The digits of base sixteen in both cases, and the number that a list of them denotes.
-/

namespace SparqlScalar.Hex

/-- The number a hexadecimal digit stands for. -/
def digitValue? (c : Char) : Option Nat :=
  if '0' ≤ c ∧ c ≤ '9' then some (c.toNat - 48)
  else if 'a' ≤ c ∧ c ≤ 'f' then some (c.toNat - 87)
  else if 'A' ≤ c ∧ c ≤ 'F' then some (c.toNat - 55)
  else none

def isDigit (c : Char) : Bool := (digitValue? c).isSome

/-- The number denoted by hexadecimal digits, most significant digit first. -/
def value (digits : List Char) : Nat :=
  digits.foldl (fun n c => 16 * n + (digitValue? c).getD 0) 0

end SparqlScalar.Hex
