import SparqlScalar.Text.Digits

/-!
# Decimal numbers of 128 bits

A `Decimal` counts units of `10 ^ -18` in a signed word of 128 bits. Sums, differences and
negations are exact or fail. A product is taken by first removing eighteen factors 2 and eighteen
factors 5 from the two counts, and a quotient by stretching the dividend as far as it goes; both
fail where an intermediate number does not fit.
-/

namespace SparqlScalar

/-- A number written with at most eighteen places, as a count of `10 ^ -18`. -/
@[ext]
structure Decimal where
  units : Int
  lower : -0x80000000000000000000000000000000 ≤ units
  upper : units < 0x80000000000000000000000000000000
deriving DecidableEq

namespace Decimal

/-- How many units make one. -/
def scale : Nat := 1000000000000000000

/-- The decimal of a count of units in the range. -/
def ofUnits? (n : Int) : Option Decimal :=
  if h : -0x80000000000000000000000000000000 ≤ n ∧ n < 0x80000000000000000000000000000000 then
    some ⟨n, h.1, h.2⟩
  else none

/-- The decimal of a whole number. -/
def ofInt? (n : Int) : Option Decimal := ofUnits? (n * scale)

/-- The decimal zero. -/
def zero : Decimal := ⟨0, by decide, by decide⟩

/-- The decimal one. -/
def one : Decimal := ⟨scale, by decide, by decide⟩

/-- Zero for false and one for true. -/
def ofBool (b : Bool) : Decimal := if b then one else zero

def add? (a b : Decimal) : Option Decimal := ofUnits? (a.units + b.units)

def sub? (a b : Decimal) : Option Decimal := ofUnits? (a.units - b.units)

def neg? (a : Decimal) : Option Decimal := ofUnits? (-a.units)

/-- The magnitude, which the least decimal does not have. -/
def abs? (a : Decimal) : Option Decimal := ofUnits? a.units.natAbs

/-- Removes the factor `p` as often as it divides, at most `budget` times, and says how much of
the budget is left. -/
def removeFactor (p : Int) : Nat → Int → Int × Nat
  | 0, n => (n, 0)
  | budget + 1, n =>
    if n % p = 0 then removeFactor p budget (n / p) else (n, budget + 1)

/-- The product, with the places of both factors shortened before they are multiplied. Twos and
fives are taken out apart, as a two of one factor and a five of the other make up one place. -/
def mul? (a b : Decimal) : Option Decimal :=
  let (x, twos) := removeFactor 2 18 a.units
  let (y, twos) := removeFactor 2 twos b.units
  let (x, fives) := removeFactor 5 18 x
  let (y, fives) := removeFactor 5 fives y
  if twos = 0 ∧ fives = 0 then ofUnits? (x * y) else none

/-- Multiplies by ten while the result fits, and counts how often. Zero is left alone. -/
def stretch : Nat → Int → Int × Nat
  | 0, n => (n, 0)
  | fuel + 1, n =>
    if n = 0 then (n, 0)
    else
      match ofUnits? (n * 10) with
      | some more =>
        let (m, k) := stretch fuel more.units
        (m, k + 1)
      | none => (n, 0)

/-- Divides by ten while nothing is lost, and counts how often. Zero is left alone. -/
def shrink : Nat → Int → Int × Nat
  | 0, n => (n, 0)
  | fuel + 1, n =>
    if n = 0 then (n, 0)
    else if n % 10 = 0 then
      let (m, k) := shrink fuel (n / 10)
      (m, k + 1)
    else (n, 0)

/-- The quotient, cut off after eighteen places. -/
def div? (a b : Decimal) : Option Decimal :=
  let (dividend, stretched) := stretch 38 a.units
  let (divisor, shrunk) := shrink 38 b.units
  if divisor = 0 ∨ stretched + shrunk < 18 ∨ 38 < stretched + shrunk - 18 then none
  else
    (ofUnits? (dividend.tdiv divisor)).bind fun quotient =>
      ofUnits? (quotient.units.tdiv (Nat.pow 10 (stretched + shrunk - 18)))

/-- The greatest whole number that is not above. -/
def floor? (a : Decimal) : Option Decimal := ofInt? (a.units.fdiv scale)

/-- The least whole number that is not below. -/
def ceil? (a : Decimal) : Option Decimal := ofInt? (-((-a.units).fdiv scale))

/-- The nearest whole number, where halves go up. -/
def roundHalfUp? (a : Decimal) : Option Decimal := ofInt? ((a.units + scale / 2).fdiv scale)

/-- The nearest whole number, where halves go away from zero. -/
def round? (a : Decimal) : Option Decimal :=
  if a.units < 0 then a.neg?.bind fun b => b.roundHalfUp?.bind neg? else a.roundHalfUp?

/-- The whole part, cut off toward zero. -/
def truncate (a : Decimal) : Int := a.units.tdiv scale

/-- The text of a number of units with the given sign: no zeros at the end of the places, and no
point where there are none. -/
def textOf (negative : Bool) (units : Nat) : List Char :=
  let places := Digits.dropTrailingZeros (Digits.padded 18 (units % scale))
  (if negative then ['-'] else [])
    ++ Digits.ofNat (units / scale)
    ++ (if places.isEmpty then [] else '.' :: places)

/-- The canonical text. -/
def text (a : Decimal) : List Char := textOf (a.units < 0) a.units.natAbs

/-- Reads an optional sign, digits, and an optional point with digits after it. One side of the
point may be empty. Zeros at the end do not count as places, of which there may be eighteen. -/
def parse? (text : List Char) : Option Decimal :=
  let (negative, body) := Digits.splitSign text
  let whole := Digits.leading body
  match Digits.afterLeading body with
  | [] =>
    if whole.isEmpty then none
    else ofInt? (Digits.signed negative (Digits.value whole))
  | '.' :: fraction =>
    if whole.isEmpty && fraction.isEmpty || !fraction.all Char.isDigit then none
    else
      let places := Digits.dropTrailingZeros fraction
      if places.length ≤ 18 then
        ofUnits? (Digits.signed negative
          (Digits.value (whole ++ places) * Nat.pow 10 (18 - places.length)))
      else none
  | _ => none

instance : Ord Decimal := ⟨fun a b => compare a.units b.units⟩

theorem intCast_scale : (scale : Int) = 1000000000000000000 := rfl

theorem ofUnits?_units (a : Decimal) : ofUnits? a.units = some a :=
  dif_pos ⟨a.lower, a.upper⟩

theorem ofUnits?_eq_some_iff {n : Int} {a : Decimal} : ofUnits? n = some a ↔ a.units = n := by
  constructor
  · intro h
    unfold ofUnits? at h
    split at h
    · cases h
      rfl
    · cases h
  · rintro rfl
    exact ofUnits?_units a

theorem ofUnits?_eq_none_iff {n : Int} :
    ofUnits? n = none ↔
      n < -0x80000000000000000000000000000000 ∨ 0x80000000000000000000000000000000 ≤ n := by
  unfold ofUnits?
  split
  · simp only [reduceCtorEq, false_iff]
    omega
  · simp only [true_iff]
    omega

end Decimal

end SparqlScalar
