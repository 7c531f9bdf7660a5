import SparqlScalar.Calendar.Instant
import SparqlScalar.Number.Integer

/-!
# Durations

A duration is a number of months and a number of seconds that do not point in opposite
directions. Two restricted kinds hold months alone or seconds alone. A text starts with the letter
`P` and lists numbers with designators: years, months and days, then after the letter `T` hours,
minutes and seconds, each at most once and in this order.
-/

namespace SparqlScalar

/-- Months and seconds, neither against the other. -/
@[ext]
structure Duration where
  months : Integer
  seconds : Decimal
  sameSign : 0 ≤ months.toInt ∧ 0 ≤ seconds.units ∨ months.toInt ≤ 0 ∧ seconds.units ≤ 0
deriving DecidableEq

/-- A duration of months alone. -/
@[ext]
structure YearMonthDuration where
  months : Integer
deriving DecidableEq

/-- A duration of seconds alone. -/
@[ext]
structure DayTimeDuration where
  seconds : Decimal
deriving DecidableEq

namespace Duration

/-- The duration of months and seconds that do not point in opposite directions. -/
def ofParts? (months : Integer) (seconds : Decimal) : Option Duration :=
  if h : 0 ≤ months.toInt ∧ 0 ≤ seconds.units ∨ months.toInt ≤ 0 ∧ seconds.units ≤ 0 then
    some ⟨months, seconds, h⟩
  else none

/-- The parts a duration is written with. -/
inductive Field where
  | years
  | months
  | days
  | hours
  | minutes
  | seconds
deriving DecidableEq

/-- The designators before the letter `T`, in the order in which they may stand. -/
def dayFields : List (Char × Field) := [('Y', .years), ('M', .months), ('D', .days)]

/-- The designators after the letter `T`, in the order in which they may stand. -/
def clockFields : List (Char × Field) := [('H', .hours), ('M', .minutes), ('S', .seconds)]

/-- Splits off the digits a text starts with, with at most one point among them. -/
def splitNumber (text : List Char) : List Char × List Char :=
  match Digits.afterLeading text with
  | '.' :: tail =>
    (Digits.leading text ++ '.' :: Digits.leading tail, Digits.afterLeading tail)
  | tail => (Digits.leading text, tail)

/-- Reads numbers with designators that stand in the given order, each at most once. -/
def readFields? : List (Char × Field) → List Char → Option (List (Field × List Char))
  | [], text => if text = [] then some [] else none
  | (designator, field) :: later, text =>
    if text = [] then some []
    else
      match splitNumber text with
      | (number, c :: rest) =>
        if c = designator then (readFields? later rest).map ((field, number) :: ·)
        else readFields? later text
      | (_, []) => none

/-- Months and seconds read so far, where there were any. -/
structure Parts where
  months : Option Integer
  seconds : Option Decimal

/-- The number of seconds of a unit that is written with a whole number. -/
def Field.unitSeconds : Field → Int
  | .days => 86400
  | .hours => 3600
  | .minutes => 60
  | _ => 1

/-- Adds months with a sign to those read so far. -/
def Parts.addMonths? (p : Parts) (negative : Bool) (number : List Char) (unit : Int) :
    Option Parts := do
  let count ← Integer.parse? number
  let months ← Integer.ofInt? (Digits.signed negative count.toInt.natAbs * unit)
  let total ← (p.months.getD Integer.zero).add? months
  some { p with months := some total }

/-- Adds seconds with a sign to those read so far. -/
def Parts.addSeconds? (p : Parts) (negative : Bool) (number : List Char) (unit : Int) :
    Option Parts := do
  let count ← Decimal.parse? number
  let signed ← if negative then count.neg? else some count
  let factor ← Decimal.ofInt? unit
  let seconds ← signed.mul? factor
  let total ← (p.seconds.getD Decimal.zero).add? seconds
  some { p with seconds := some total }

/-- Adds one part. Only seconds may have places. -/
def Parts.addField? (negative : Bool) (p : Parts) : Field × List Char → Option Parts
  | (.years, number) => p.addMonths? negative number 12
  | (.months, number) => p.addMonths? negative number 1
  | (.seconds, number) => p.addSeconds? negative number 1
  | (field, number) =>
    if number.contains '.' then none else p.addSeconds? negative number field.unitSeconds

/-- Reads the parts of a duration, of which there is at least one. The letter `T` may end the
text. -/
def readParts? (text : List Char) : Option Parts := do
  let (negative, body) :=
    match text with
    | '-' :: rest => (true, rest)
    | rest => (false, rest)
  let body ←
    match body with
    | 'P' :: rest => some rest
    | _ => none
  let dayFields ← readFields? dayFields (body.takeWhile (· ≠ 'T'))
  let clockFields ← readFields? clockFields ((body.dropWhile (· ≠ 'T')).drop 1)
  let fields := dayFields ++ clockFields
  if fields.isEmpty then none
  else fields.foldlM (Parts.addField? negative) ⟨none, none⟩

/-- Reads a duration. -/
def parse? (text : List Char) : Option Duration :=
  (readParts? text).bind fun parts =>
    ofParts? (parts.months.getD Integer.zero) (parts.seconds.getD Decimal.zero)

/-- A number with its designator, where the number is not zero. -/
def fieldText (number : Nat) (designator : Char) : List Char :=
  if number = 0 then [] else Digits.ofNat number ++ [designator]

/-- The text of a number of months, which is empty for zero. -/
def monthsText (months : Nat) : List Char :=
  fieldText (months / 12) 'Y' ++ fieldText (months % 12) 'M'

/-- The text of a number of units of time, which is empty for zero. -/
def secondsText (units : Nat) : List Char :=
  let whole := units / Decimal.scale
  let second := units % (60 * Decimal.scale)
  let clock :=
    fieldText (whole / 3600 % 24) 'H' ++ fieldText (whole / 60 % 60) 'M'
      ++ (if second = 0 then [] else Decimal.textOf false second ++ ['S'])
  fieldText (whole / 86400) 'D' ++ (if clock.isEmpty then [] else 'T' :: clock)

/-- The sign of a duration and its opening letter. -/
def opening (negative : Bool) : List Char := if negative then ['-', 'P'] else ['P']

/-- The canonical text. -/
def text (d : Duration) : List Char :=
  if d.months.toInt = 0 ∧ d.seconds.units = 0 then "PT0S".toList
  else
    opening (d.months.toInt < 0 || d.seconds.units < 0)
      ++ monthsText d.months.toInt.natAbs ++ secondsText d.seconds.units.natAbs

def neg? (d : Duration) : Option Duration :=
  d.months.neg?.bind fun months => d.seconds.neg?.bind fun seconds => ofParts? months seconds

end Duration

namespace YearMonthDuration

/-- Reads a duration that has years or months and nothing else. -/
def parse? (text : List Char) : Option YearMonthDuration :=
  (Duration.readParts? text).bind fun parts =>
    if parts.seconds.isSome then none else parts.months.map .mk

/-- The canonical text. -/
def text (d : YearMonthDuration) : List Char :=
  if d.months.toInt = 0 then "P0M".toList
  else Duration.opening (d.months.toInt < 0) ++ Duration.monthsText d.months.toInt.natAbs

def toDuration (d : YearMonthDuration) : Duration :=
  ⟨d.months, Decimal.zero, by simp only [Decimal.zero]; omega⟩

end YearMonthDuration

namespace DayTimeDuration

/-- Reads a duration that has no years and no months. -/
def parse? (text : List Char) : Option DayTimeDuration :=
  (Duration.readParts? text).bind fun parts =>
    if parts.months.isSome then none else parts.seconds.map .mk

/-- The canonical text. -/
def text (d : DayTimeDuration) : List Char :=
  if d.seconds.units = 0 then "PT0S".toList
  else Duration.opening (d.seconds.units < 0) ++ Duration.secondsText d.seconds.units.natAbs

def toDuration (d : DayTimeDuration) : Duration :=
  ⟨Integer.zero, d.seconds, by simp only [Integer.zero]; omega⟩

end DayTimeDuration

end SparqlScalar
