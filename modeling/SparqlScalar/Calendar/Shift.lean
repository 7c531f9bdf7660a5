import SparqlScalar.Calendar.DateTime
import SparqlScalar.Calendar.Duration

/-!
# Durations added to points in time

A duration without months moves the timeline by its seconds. One with months first counts the
months on, keeps the day within the month reached, and then adds the seconds to the clock. A date
is moved through its midnight and loses the time again; a time is moved on the day of reference
and loses the day again. Two durations that are not both months or both seconds are compared by
what they lead to from four days of reference.
-/

namespace SparqlScalar

namespace DateTime

/-- The date-time a duration later, counting months first and seconds second. -/
def addMonthsThenSeconds? (v : DateTime) (d : Duration) : Option DateTime :=
  let i := v.instant
  (Integer.ofInt? (i.date.month + d.months.toInt)).bind fun _ =>
    (i.second.add? d.seconds).bind fun second =>
      let minutes := second.units / (60 * Decimal.scale)
      let rest := second.units % (60 * Decimal.scale)
      (Decimal.ofUnits? rest).bind fun second =>
        ofParts? (i.date.addMonths d.months.toInt) i.hour (i.minute + minutes) second i.zone

/-- The date-time a number of seconds later. -/
def addDayTime? (v : DateTime) (d : DayTimeDuration) : Option DateTime :=
  (v.instant.addSeconds? d.seconds).map .mk

/-- The date-time a number of seconds earlier. -/
def subDayTime? (v : DateTime) (d : DayTimeDuration) : Option DateTime :=
  (v.instant.subSeconds? d.seconds).map .mk

/-- The date-time a duration later. -/
def addDuration? (v : DateTime) (d : Duration) : Option DateTime :=
  if d.months.toInt = 0 then v.addDayTime? ⟨d.seconds⟩ else v.addMonthsThenSeconds? d

/-- The date-time a duration earlier. -/
def subDuration? (v : DateTime) (d : Duration) : Option DateTime :=
  if d.months.toInt = 0 then v.subDayTime? ⟨d.seconds⟩
  else d.neg?.bind v.addMonthsThenSeconds?

end DateTime

namespace Date

/-- Moves the midnight of a date and keeps the day reached. -/
def shift? (v : Date) (move : DateTime → Option DateTime) : Option Date :=
  (v.midnight?.bind move).bind ofDateTime?

end Date

namespace Time

/-- Moves a time on the day of reference and keeps the time reached. -/
def shift? (v : Time) (move : DateTime → Option DateTime) : Option Time :=
  (v.onReferenceDay?.bind move).bind ofDateTime?

end Time

namespace Duration

/-- The starts of the days from which durations are compared. -/
def referencePoints : List CivilDate :=
  [⟨1969, 9, 1⟩, ⟨1697, 2, 1⟩, ⟨1903, 3, 1⟩, ⟨1903, 7, 1⟩]

/-- The order of the points in time to which two durations lead from the start of a day. -/
def compareFrom? (a b : Duration) (day : CivilDate) : Option Ordering := do
  let start ← DateTime.ofParts? day 0 0 Decimal.zero (some Zone.utc)
  let left ← start.addDuration? a
  let right ← start.addDuration? b
  left.instant.compare? right.instant

/-- The order on which all points of reference agree. -/
def compare? (a b : Duration) : Option Ordering :=
  match referencePoints.mapM (compareFrom? a b) with
  | some (first :: others) => if others.all (· == first) then some first else none
  | _ => none

end Duration

namespace YearMonthDuration

instance : Ord YearMonthDuration := ⟨fun a b => compare a.months b.months⟩

end YearMonthDuration

namespace DayTimeDuration

instance : Ord DayTimeDuration := ⟨fun a b => compare a.seconds b.seconds⟩

end DayTimeDuration

end SparqlScalar
