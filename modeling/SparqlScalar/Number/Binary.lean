/-!
# Binary floating-point numbers

A `BinaryFormat` fixes how many bits a significand has and how far its exponent reaches; the two
formats in use are `single` and `double`. A `Binary` of a format is not a number, an infinity, or
a sign with a significand and an exponent in canonical form, so that every value is written in one
way. All arithmetic computes an exact fraction and rounds it once, to the nearest value of the
format and in a tie to the one with an even significand (`Binary.ofFraction`).
-/

namespace SparqlScalar

/-- The significand has `precision` bits; the exponent that scales it lies between the bounds. -/
structure BinaryFormat where
  precision : Nat
  minExponent : Int
  maxExponent : Int
deriving DecidableEq

namespace BinaryFormat

/-- The format of 32 bits. -/
def single : BinaryFormat := ⟨24, -149, 104⟩

/-- The format of 64 bits. -/
def double : BinaryFormat := ⟨53, -1074, 971⟩

/-- The one way to write a finite magnitude: a full significand, or the least exponent. -/
def Canonical (f : BinaryFormat) (significand : Nat) (exponent : Int) : Prop :=
  significand < Nat.pow 2 f.precision ∧ f.minExponent ≤ exponent ∧ exponent ≤ f.maxExponent ∧
    (exponent = f.minExponent ∨ Nat.pow 2 (f.precision - 1) ≤ significand)

instance (f : BinaryFormat) (significand : Nat) (exponent : Int) :
    Decidable (f.Canonical significand exponent) :=
  inferInstanceAs (Decidable (_ ∧ _ ∧ _ ∧ (_ ∨ _)))

end BinaryFormat

/-- A floating-point datum. The value of a finite one is `significand * 2 ^ exponent`, with its
sign; zero has two signs. -/
inductive Binary (f : BinaryFormat) where
  | nan
  | infinite (negative : Bool)
  | finite (negative : Bool) (significand : Nat) (exponent : Int)
      (canonical : f.Canonical significand exponent)
deriving DecidableEq

/-- A number in the format of 32 bits. -/
abbrev Single := Binary BinaryFormat.single

/-- A number in the format of 64 bits. -/
abbrev Double := Binary BinaryFormat.double

namespace Binary

variable {f : BinaryFormat}

/-- The datum with this significand and exponent; an exponent beyond the format means an
infinity. -/
def ofParts (negative : Bool) (significand : Nat) (exponent : Int) : Binary f :=
  if h : f.Canonical significand exponent then .finite negative significand exponent h
  else .infinite negative

/-- Zero of either sign. -/
def zero (negative : Bool) : Binary f := ofParts negative 0 f.minExponent

/-- The quotient of two numbers, rounded to the nearest whole number and in a tie to the even
one. -/
def divideToEven (num den : Nat) : Nat :=
  let quotient := num / den
  let rest := num % den
  if den < 2 * rest ∨ (2 * rest = den ∧ quotient % 2 = 1) then quotient + 1 else quotient

/-- The fraction `num / den` scaled by `2 ^ -exponent`, as a fraction again. -/
def scaleDown (num den : Nat) (exponent : Int) : Nat × Nat :=
  match exponent with
  | .ofNat k => (num, den * Nat.pow 2 k)
  | .negSucc k => (num * Nat.pow 2 (k + 1), den)

/-- The exponent for which the fraction `num / den` fills the significand of the format, or the
least exponent if it does not reach that far. -/
def exponentFor (f : BinaryFormat) (num den : Nat) : Int :=
  let guess : Int := (num.log2 : Int) - (den.log2 : Int) - (f.precision : Int)
  let (n, d) := scaleDown num den guess
  max f.minExponent (if n / d < Nat.pow 2 f.precision then guess else guess + 1)

/-- The datum nearest to the fraction `num / den`. -/
def ofFraction (negative : Bool) (num den : Nat) : Binary f :=
  if num = 0 then zero negative
  else
    let exponent := exponentFor f num den
    let (n, d) := scaleDown num den exponent
    let significand := divideToEven n d
    if significand = Nat.pow 2 f.precision then
      ofParts negative (Nat.pow 2 (f.precision - 1)) (exponent + 1)
    else ofParts negative significand exponent

/-- The datum nearest to `significand * 2 ^ exponent`. -/
def ofDyadic (negative : Bool) (significand : Nat) (exponent : Int) : Binary f :=
  match exponent with
  | .ofNat k => ofFraction negative (significand * Nat.pow 2 k) 1
  | .negSucc k => ofFraction negative significand (Nat.pow 2 (k + 1))

/-- The datum nearest to a whole number. -/
def ofInt (n : Int) : Binary f := ofFraction (n < 0) n.natAbs 1

def isNaN : Binary f → Bool
  | .nan => true
  | _ => false

/-- Zeros of both signs are zero. -/
def isZero : Binary f → Bool
  | .finite _ significand _ _ => significand == 0
  | _ => false

/-- The nearest datum of another format. -/
def convert {g : BinaryFormat} : Binary f → Binary g
  | .nan => .nan
  | .infinite negative => .infinite negative
  | .finite negative significand exponent _ => ofDyadic negative significand exponent

def neg : Binary f → Binary f
  | .nan => .nan
  | .infinite negative => .infinite !negative
  | .finite negative significand exponent h => .finite (!negative) significand exponent h

def abs : Binary f → Binary f
  | .nan => .nan
  | .infinite _ => .infinite false
  | .finite _ significand exponent h => .finite false significand exponent h

/-- Two dyadic magnitudes with their signs, as whole multiples of the smaller power of two. -/
def align (negA : Bool) (a : Nat) (ea : Int) (negB : Bool) (b : Nat) (eb : Int) :
    Int × Int × Int :=
  let e := min ea eb
  let x : Int := a * Nat.pow 2 (ea - e).toNat
  let y : Int := b * Nat.pow 2 (eb - e).toNat
  (if negA then -x else x, if negB then -y else y, e)

/-- The nearest datum to the exact sum. A sum of zero is negative only if both summands are. -/
def add : Binary f → Binary f → Binary f
  | .nan, _ => .nan
  | _, .nan => .nan
  | .infinite s, .infinite t => if s = t then .infinite s else .nan
  | .infinite s, .finite .. => .infinite s
  | .finite .., .infinite t => .infinite t
  | .finite s a ea _, .finite t b eb _ =>
    let (x, y, e) := align s a ea t b eb
    if x + y = 0 then zero (s && t)
    else ofDyadic (x + y < 0) (x + y).natAbs e

def sub (a b : Binary f) : Binary f := add a b.neg

/-- The nearest datum to the exact product; infinity times zero is not a number. -/
def mul : Binary f → Binary f → Binary f
  | .nan, _ => .nan
  | _, .nan => .nan
  | .infinite s, .infinite t => .infinite (s != t)
  | .infinite s, .finite t b _ _ => if b = 0 then .nan else .infinite (s != t)
  | .finite s a _ _, .infinite t => if a = 0 then .nan else .infinite (s != t)
  | .finite s a ea _, .finite t b eb _ => ofDyadic (s != t) (a * b) (ea + eb)

/-- The nearest datum to the exact quotient. -/
def div : Binary f → Binary f → Binary f
  | .nan, _ => .nan
  | _, .nan => .nan
  | .infinite _, .infinite _ => .nan
  | .infinite s, .finite t _ _ _ => .infinite (s != t)
  | .finite s _ _ _, .infinite t => zero (s != t)
  | .finite s a ea _, .finite t b eb _ =>
    if b = 0 then (if a = 0 then .nan else .infinite (s != t))
    else
      let (n, d) := scaleDown a b (eb - ea)
      ofFraction (s != t) n d

/-- Replaces a magnitude with places by a whole number, chosen from the quotient and the remainder
of its division by the weight of its last whole bit. -/
def toWhole (choose : Bool → Nat → Nat → Nat → Nat) : Binary f → Binary f
  | .nan => .nan
  | .infinite negative => .infinite negative
  | .finite negative significand exponent h =>
    if 0 ≤ exponent then .finite negative significand exponent h
    else
      let weight := Nat.pow 2 (-exponent).toNat
      ofFraction negative (choose negative (significand / weight) (significand % weight) weight) 1

/-- The greatest whole number that is not above. -/
def floor (a : Binary f) : Binary f :=
  a.toWhole fun negative quotient rest _ => if negative ∧ rest ≠ 0 then quotient + 1 else quotient

/-- The least whole number that is not below. -/
def ceil (a : Binary f) : Binary f :=
  a.toWhole fun negative quotient rest _ => if ¬ negative ∧ rest ≠ 0 then quotient + 1 else quotient

/-- The nearest whole number, where halves go away from zero. -/
def round (a : Binary f) : Binary f :=
  a.toWhole fun _ quotient rest weight => if weight ≤ 2 * rest then quotient + 1 else quotient

/-- The order of the values; what is not a number has no place in it. -/
def compare? : Binary f → Binary f → Option Ordering
  | .nan, _ => none
  | _, .nan => none
  | .infinite s, .infinite t => some (compare t s)
  | .infinite s, .finite .. => some (if s then .lt else .gt)
  | .finite .., .infinite t => some (if t then .gt else .lt)
  | .finite s a ea _, .finite t b eb _ =>
    let (x, y, _) := align s a ea t b eb
    some (compare x y)

end Binary

end SparqlScalar
