import SparqlScalar.Text.Digits

/-!
# Whole numbers of 64 bits

An `Integer` is a whole number from `-2 ^ 63` to `2 ^ 63 - 1`. Every operation takes the exact
result and answers `none` where that leaves the range (`ofInt?_eq_some_iff`).
-/

namespace SparqlScalar

/-- A whole number that fits a signed word of 64 bits. -/
@[ext]
structure Integer where
  toInt : Int
  lower : -0x8000000000000000 ≤ toInt
  upper : toInt < 0x8000000000000000
deriving DecidableEq

namespace Integer

/-- The integer of a whole number in the range. -/
def ofInt? (n : Int) : Option Integer :=
  if h : -0x8000000000000000 ≤ n ∧ n < 0x8000000000000000 then some ⟨n, h.1, h.2⟩ else none

/-- The integer zero. -/
def zero : Integer := ⟨0, by decide, by decide⟩

/-- The integer one. -/
def one : Integer := ⟨1, by decide, by decide⟩

/-- Zero for false and one for true. -/
def ofBool (b : Bool) : Integer := if b then one else zero

def add? (a b : Integer) : Option Integer := ofInt? (a.toInt + b.toInt)

def sub? (a b : Integer) : Option Integer := ofInt? (a.toInt - b.toInt)

def mul? (a b : Integer) : Option Integer := ofInt? (a.toInt * b.toInt)

def neg? (a : Integer) : Option Integer := ofInt? (-a.toInt)

/-- The magnitude, which the least integer does not have. -/
def abs? (a : Integer) : Option Integer := ofInt? a.toInt.natAbs

/-- Reads an optional sign and one or more digits. -/
def parse? (text : List Char) : Option Integer := (Digits.parseInt? text).bind ofInt?

/-- The numeral without a plus sign and without leading zeros. -/
def text (a : Integer) : List Char := Digits.ofInt a.toInt

instance : Ord Integer := ⟨fun a b => compare a.toInt b.toInt⟩

theorem ofInt?_toInt (a : Integer) : ofInt? a.toInt = some a :=
  dif_pos ⟨a.lower, a.upper⟩

theorem ofInt?_eq_some_iff {n : Int} {a : Integer} : ofInt? n = some a ↔ a.toInt = n := by
  constructor
  · intro h
    unfold ofInt? at h
    split at h
    · cases h
      rfl
    · cases h
  · rintro rfl
    exact ofInt?_toInt a

theorem ofInt?_eq_none_iff {n : Int} :
    ofInt? n = none ↔ n < -0x8000000000000000 ∨ 0x8000000000000000 ≤ n := by
  unfold ofInt?
  split
  · simp only [reduceCtorEq, false_iff]
    omega
  · simp only [true_iff]
    omega

end Integer

end SparqlScalar
