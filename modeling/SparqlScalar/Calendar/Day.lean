/-!
# Days of the Gregorian calendar

The calendar is extended to all years, with a year zero. A `CivilDate` names a day by year, month
and day of the month; `CivilDate.number` counts the days from the first of January of the year
one, and `CivilDate.ofNumber` names the day again.
-/

namespace SparqlScalar

/-- Every fourth year is a leap year; of the full centuries only every fourth is. -/
def isLeapYear (year : Int) : Bool := year % 4 = 0 && (year % 100 ≠ 0 || year % 400 = 0)

/-- The number of days of a month. -/
def daysInMonth (leap : Bool) (month : Nat) : Nat :=
  match month with
  | 2 => if leap then 29 else 28
  | 4 => 30
  | 6 => 30
  | 9 => 30
  | 11 => 30
  | _ => 31

/-- The number of days of a year before the first of a month. -/
def daysBeforeMonth (leap : Bool) (month : Nat) : Nat :=
  let leapDay := if leap then 1 else 0
  match month with
  | 0 => 0
  | 1 => 0
  | 2 => 31
  | 3 => 59 + leapDay
  | 4 => 90 + leapDay
  | 5 => 120 + leapDay
  | 6 => 151 + leapDay
  | 7 => 181 + leapDay
  | 8 => 212 + leapDay
  | 9 => 243 + leapDay
  | 10 => 273 + leapDay
  | 11 => 304 + leapDay
  | _ => 334 + leapDay

/-- The month in which a day of the year lies, where the first of January is day zero. -/
def monthOfDay (leap : Bool) (dayOfYear : Nat) : Nat :=
  1 + [2, 3, 4, 5, 6, 7, 8, 9, 10, 11, 12].countP fun month =>
    daysBeforeMonth leap month ≤ dayOfYear

/-- A day named by year, month and day of the month, both of them counted from one. -/
structure CivilDate where
  year : Int
  month : Nat
  day : Nat
deriving DecidableEq

namespace CivilDate

/-- The month exists and has the day. -/
def Valid (d : CivilDate) : Prop :=
  1 ≤ d.month ∧ d.month ≤ 12 ∧ 1 ≤ d.day ∧ d.day ≤ daysInMonth (isLeapYear d.year) d.month

instance (d : CivilDate) : Decidable d.Valid := inferInstanceAs (Decidable (_ ∧ _ ∧ _ ∧ _))

/-- The number of days from the first of January of the year one to the first of January of a
year. -/
def daysBeforeYear (year : Int) : Int :=
  let y := year - 1
  365 * y + y / 4 - y / 100 + y / 400

/-- The number of days from the first of January of the year one. -/
def number (d : CivilDate) : Int :=
  daysBeforeYear d.year + daysBeforeMonth (isLeapYear d.year) d.month + d.day - 1

/-- The year in which a day lies, with the day of that year counted from zero. Four hundred years
are taken off first, then centuries, then spans of four years, then single years; the last of each
is the longer one. -/
def yearAndDay (number : Int) : Int × Nat :=
  let era := number / 146097
  let dayOfEra := (number % 146097).toNat
  let century := min (dayOfEra / 36524) 3
  let dayOfCentury := dayOfEra - 36524 * century
  let span := dayOfCentury / 1461
  let dayOfSpan := dayOfCentury - 1461 * span
  let year := min (dayOfSpan / 365) 3
  (400 * era + 100 * century + 4 * span + year + 1, dayOfSpan - 365 * year)

/-- The day with this number. -/
def ofNumber (number : Int) : CivilDate :=
  let (year, dayOfYear) := yearAndDay number
  let leap := isLeapYear year
  let month := monthOfDay leap dayOfYear
  ⟨year, month, dayOfYear - daysBeforeMonth leap month + 1⟩

/-- The day reached after a number of months: the month is counted on, and a day that the month
reached does not have becomes its last day. -/
def addMonths (d : CivilDate) (months : Int) : CivilDate :=
  let count := (d.month : Int) - 1 + months
  let year := d.year + count / 12
  let month := (count % 12).toNat + 1
  ⟨year, month, min d.day (daysInMonth (isLeapYear year) month)⟩

end CivilDate

end SparqlScalar
