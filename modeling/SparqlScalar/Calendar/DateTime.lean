import SparqlScalar.Calendar.Instant
import SparqlScalar.Number.Integer

/-!
# Dates, times and their texts

A date-time is an instant; a date is the instant at which a day begins; a time is an instant of a
fixed day of reference. Each has a grammar with fields of two digits, read from the front.
-/

namespace SparqlScalar

/-- A day and a time of day. -/
structure DateTime where
  instant : Instant
deriving DecidableEq

/-- A day, by the instant at which it begins. -/
structure Date where
  instant : Instant
deriving DecidableEq

/-- A time of day, as an instant of the day of reference. -/
structure Time where
  instant : Instant
deriving DecidableEq

namespace Calendar

/-- The day on which times of day are placed. -/
def referenceDay : CivilDate := ⟨1972, 12, 31⟩

/-- Reads two digits, after which there must not be another one. -/
def readTwoDigits? (text : List Char) : Option (Nat × List Char) :=
  let digits := Digits.leading text
  if digits.length = 2 then some (Digits.value digits, Digits.afterLeading text) else none

/-- Reads one given character. -/
def readChar? (expected : Char) : List Char → Option (List Char)
  | [] => none
  | c :: rest => if c = expected then some rest else none

/-- Reads a year: at least four digits, of which the first is zero only if there are just four,
after a minus sign if it is negative. -/
def readYear? (text : List Char) : Option (Int × List Char) :=
  let (negative, body) :=
    match text with
    | '-' :: rest => (true, rest)
    | rest => (false, rest)
  let digits := Digits.leading body
  if digits.length < 4 || (4 < digits.length && digits.head? == some '0') then none
  else
    (Integer.ofInt? (Digits.value digits)).map fun year =>
      (Digits.signed negative year.toInt.natAbs, Digits.afterLeading body)

/-- Reads a year, a month and a day that exists in them, separated by hyphens. -/
def readDay? (text : List Char) : Option (CivilDate × List Char) := do
  let (year, rest) ← readYear? text
  let rest ← readChar? '-' rest
  let (month, rest) ← readTwoDigits? rest
  let rest ← readChar? '-' rest
  let (day, rest) ← readTwoDigits? rest
  let date : CivilDate := ⟨year, month, day⟩
  if date.Valid then some (date, rest) else none

/-- Reads a second: two digits and perhaps a point with at least one more digit. -/
def readSecond? (text : List Char) : Option (Decimal × List Char) :=
  let whole := Digits.leading text
  let (fraction, rest) :=
    match Digits.afterLeading text with
    | '.' :: tail => ('.' :: Digits.leading tail, Digits.afterLeading tail)
    | tail => ([], tail)
  if whole.length ≠ 2 ∨ fraction = ['.'] then none
  else
    (Decimal.parse? (whole ++ fraction)).bind fun second =>
      if second.units < 60 * Decimal.scale then some (second, rest) else none

/-- A time of day as it is read; the hour is 24 only at the end of the day. -/
structure Clock where
  hour : Nat
  minute : Nat
  second : Decimal

/-- Reads an hour, a minute and a second, separated by colons. -/
def readClock? (text : List Char) : Option (Clock × List Char) := do
  let (hour, rest) ← readTwoDigits? text
  let rest ← readChar? ':' rest
  let (minute, rest) ← readTwoDigits? rest
  let rest ← readChar? ':' rest
  let (second, rest) ← readSecond? rest
  if minute ≤ 59 ∧ (hour ≤ 23 ∨ (hour = 24 ∧ minute = 0 ∧ second.units = 0)) then
    some (⟨hour, minute, second⟩, rest)
  else none

/-- Reads a zone that ends the text; the empty text means no zone. -/
def readZone? (text : List Char) : Option (Option Zone) :=
  if text = [] then some none else (Zone.parse? text).map some

end Calendar

namespace DateTime

/-- The date-time of a day and a time of day, in a zone or without one. -/
def ofParts? (day : CivilDate) (hour minute : Int) (second : Decimal) (zone : Option Zone) :
    Option DateTime :=
  (Instant.ofLocal? day.number hour minute second zone).map .mk

/-- Reads a day, the letter `T`, a time of day and perhaps a zone. The hour 24 is the start of the
next day. -/
def parse? (text : List Char) : Option DateTime := do
  let (day, rest) ← Calendar.readDay? text
  let rest ← Calendar.readChar? 'T' rest
  let (clock, rest) ← Calendar.readClock? rest
  let zone ← Calendar.readZone? rest
  ofParts? day clock.hour clock.minute clock.second zone

/-- The canonical text. -/
def text (v : DateTime) : List Char :=
  Instant.dayText v.instant.date ++ 'T' :: v.instant.clockText ++ v.instant.zoneText

end DateTime

namespace Date

/-- The date of a day, in a zone or without one. -/
def ofDay? (day : CivilDate) (zone : Option Zone) : Option Date :=
  (Instant.ofLocal? day.number 0 0 Decimal.zero zone).map .mk

/-- Reads a day and perhaps a zone. -/
def parse? (text : List Char) : Option Date := do
  let (day, rest) ← Calendar.readDay? text
  let zone ← Calendar.readZone? rest
  ofDay? day zone

/-- The canonical text. -/
def text (v : Date) : List Char := Instant.dayText v.instant.date ++ v.instant.zoneText

/-- The local day of a date-time. -/
def ofDateTime? (v : DateTime) : Option Date := ofDay? v.instant.date v.instant.zone

/-- The date-time at which a date begins. -/
def midnight? (v : Date) : Option DateTime :=
  DateTime.ofParts? v.instant.date 0 0 Decimal.zero v.instant.zone

end Date

namespace Time

/-- The time of day with these parts, in a zone or without one. -/
def ofParts? (hour minute : Int) (second : Decimal) (zone : Option Zone) : Option Time :=
  (Instant.ofLocal? Calendar.referenceDay.number hour minute second zone).map .mk

/-- Reads a time of day and perhaps a zone. The hour 24 is the hour zero. -/
def parse? (text : List Char) : Option Time := do
  let (clock, rest) ← Calendar.readClock? text
  let zone ← Calendar.readZone? rest
  ofParts? (clock.hour % 24 : Nat) clock.minute clock.second zone

/-- The canonical text. -/
def text (v : Time) : List Char := v.instant.clockText ++ v.instant.zoneText

/-- The time of day that the local clock of a date-time shows. -/
def ofDateTime? (v : DateTime) : Option Time :=
  ofParts? v.instant.hour v.instant.minute v.instant.second v.instant.zone

/-- The date-time at which the local clock shows a time on the day of reference. -/
def onReferenceDay? (v : Time) : Option DateTime :=
  DateTime.ofParts? Calendar.referenceDay v.instant.hour v.instant.minute v.instant.second
    v.instant.zone

end Time

end SparqlScalar
