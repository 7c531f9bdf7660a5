import SparqlScalar.Term.Operand

/-!
# Functions on dates and times

The parts of a date or a date-time on its local clock, and its zone.
-/

namespace SparqlScalar

/-- A whole number taken from a date or a date-time. -/
def ofDate (part : CivilDate → Int) (t : Term) : EvalResult Term := do
  let date ← t.date
  return .literal (Literal.ofInt (part date.instant.date))

def yearOf (t : Term) : EvalResult Term := ofDate CivilDate.year t

def monthOf (t : Term) : EvalResult Term := ofDate (fun d => d.month) t

def dayOf (t : Term) : EvalResult Term := ofDate (fun d => d.day) t

def hoursOf (t : Term) : EvalResult Term := do
  let v ← t.dateTime
  return .literal (Literal.ofInt v.instant.hour)

def minutesOf (t : Term) : EvalResult Term := do
  let v ← t.dateTime
  return .literal (Literal.ofInt v.instant.minute)

def secondsOf (t : Term) : EvalResult Term := do
  let v ← t.dateTime
  return (Value.numeric (.decimal v.instant.second)).toTerm

/-- The offset of a zone as a duration. -/
def Zone.toDuration? (z : Zone) : Option DayTimeDuration :=
  (Decimal.ofInt? (60 * z.minutes)).map .mk

/-- The zone of a date-time as a duration; without a zone there is none. -/
def timezoneOf (t : Term) : EvalResult Term := do
  let v ← t.dateTime
  let duration ← EvalResult.ofOption (.noTimezone (String.ofList v.text))
    (v.instant.zone.bind Zone.toDuration?)
  return (Value.dayTimeDuration duration).toTerm

/-- The zone of a date-time as it is written, which is the empty text without one. -/
def zoneNameOf (t : Term) : EvalResult Term := do
  let v ← t.dateTime
  return Term.simple (String.ofList v.instant.zoneText)

end SparqlScalar
