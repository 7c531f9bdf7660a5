import SparqlScalar.Number.Binary
import SparqlScalar.Text.Digits

/-!
# The text of binary floating-point numbers

Reading takes decimal digits with an optional point and an optional exponent, or a word for an
infinity or for not a number, and rounds the exact decimal once. Writing gives the fewest digits
that read back, the nearest of those to the value and the larger of two equally near, and never an
exponent.
-/

namespace SparqlScalar.Binary

variable {f : BinaryFormat}

/-- The words that stand for an infinity, in lower case. -/
def infinityWords : List (List Char) := ["inf".toList, "infinity".toList]

/-- Powers of ten beyond this one lie outside every format in use, on either side. -/
def decimalReach : Int := 400

/-- The datum nearest to `digits * 10 ^ exponent`. -/
def ofScientific (negative : Bool) (digits : Nat) (exponent : Int) : Binary f :=
  if digits = 0 then zero negative
  else
    let position := ((Digits.ofNat digits).length : Int) + exponent
    if decimalReach < position then .infinite negative
    else if position < -decimalReach then zero negative
    else
      match exponent with
      | .ofNat k => ofFraction negative (digits * Nat.pow 10 k) 1
      | .negSucc k => ofFraction negative digits (Nat.pow 10 (k + 1))

/-- Reads an exponent: its mark, an optional sign and one or more digits. No text is exponent
zero. -/
def parseExponent? : List Char → Option Int
  | [] => some 0
  | c :: text => if c = 'e' ∨ c = 'E' then Digits.parseInt? text else none

/-- Reads an unsigned number: digits with an optional point, and an optional exponent. -/
def parseNumber? (negative : Bool) (text : List Char) : Option (Binary f) :=
  let whole := Digits.leading text
  let (fraction, rest) :=
    match Digits.afterLeading text with
    | '.' :: tail => (Digits.leading tail, Digits.afterLeading tail)
    | tail => ([], tail)
  if whole.isEmpty && fraction.isEmpty then none
  else
    (parseExponent? rest).map fun exponent =>
      ofScientific negative (Digits.value (whole ++ fraction)) (exponent - fraction.length)

/-- Reads a number, an infinity or the word for not a number, each with an optional sign. -/
def parse? (text : List Char) : Option (Binary f) :=
  let (negative, body) := Digits.splitSign text
  let word := body.map Char.toLower
  if infinityWords.contains word then some (.infinite negative)
  else if word = "nan".toList then some .nan
  else parseNumber? negative body

/-- A magnitude with the ends of the interval of numbers that round to it, all in units of a
quarter of the last bit. -/
structure Span where
  value : Nat
  low : Nat
  high : Nat
  /-- The ends themselves round to the magnitude. -/
  closed : Bool
  /-- The exponent of two that scales the units. -/
  exponent : Int

/-- The numbers that round to a finite magnitude. Below a power of two the next value is only
half as far away. -/
def span (f : BinaryFormat) (significand : Nat) (exponent : Int) : Span where
  value := 4 * significand
  low :=
    if significand = Nat.pow 2 (f.precision - 1) ∧ f.minExponent < exponent then 4 * significand - 1
    else 4 * significand - 2
  high := 4 * significand + 2
  closed := significand % 2 = 0
  exponent := exponent - 2

/-- A grid of decimal numbers in the units of a span: its points are the multiples of
`step / unit`. -/
def gridOf (s : Span) (power : Int) : Nat × Nat :=
  let (step, unit) :=
    match power with
    | .ofNat k => (Nat.pow 10 k, 1)
    | .negSucc k => (1, Nat.pow 10 (k + 1))
  match s.exponent with
  | .ofNat k => (step, unit * Nat.pow 2 k)
  | .negSucc k => (step * Nat.pow 2 (k + 1), unit)

/-- Whether the multiple `count` of a grid step lies in the span. -/
def Span.holds (s : Span) (step unit count : Nat) : Bool :=
  if s.closed then s.low * unit ≤ count * step && count * step ≤ s.high * unit
  else s.low * unit < count * step && count * step < s.high * unit

/-- The point of the grid that lies in the span and is nearest to its value; of two equally near
the larger. -/
def Span.nearest? (s : Span) (power : Int) : Option Nat :=
  let (step, unit) := gridOf s power
  let below := s.value * unit / step
  let rest := s.value * unit % step
  match s.holds step unit below && below != 0, s.holds step unit (below + 1) with
  | true, true => some (if step ≤ 2 * rest then below + 1 else below)
  | true, false => some below
  | false, true => some (below + 1)
  | false, false => none

/-- The first grid, from `10 ^ power` toward finer ones, that has a point in the span. -/
def Span.shortest (s : Span) : Nat → Int → Nat × Int
  | 0, power => (0, power)
  | fuel + 1, power =>
    match s.nearest? power with
    | some count => (count, power)
    | none => s.shortest fuel (power - 1)

/-- A power of ten that no number in the span reaches. -/
def Span.topPower (s : Span) : Int :=
  (((s.high.log2 : Int) + 1 + s.exponent) * 1233).fdiv 4096 + 1

/-- The fewest decimal digits that read back as a magnitude, with the power of ten that scales
them. Twenty grids suffice for both formats. -/
def shortestDigits (f : BinaryFormat) (significand : Nat) (exponent : Int) : Nat × Int :=
  let s := span f significand exponent
  s.shortest 20 s.topPower

/-- The number `digits * 10 ^ power` without an exponent. -/
def positional (digits : Nat) (power : Int) : List Char :=
  match power with
  | .ofNat k => Digits.ofNat digits ++ List.replicate k '0'
  | .negSucc k =>
    let unit := Nat.pow 10 (k + 1)
    Digits.ofNat (digits / unit) ++ '.' :: Digits.padded (k + 1) (digits % unit)

/-- The canonical text. -/
def text : Binary f → List Char
  | .nan => "NaN".toList
  | .infinite negative => (if negative then "-INF" else "INF").toList
  | .finite negative significand exponent _ =>
    (if negative then ['-'] else [])
      ++ if significand = 0 then ['0']
        else
          let (digits, power) := shortestDigits f significand exponent
          positional digits power

end SparqlScalar.Binary
