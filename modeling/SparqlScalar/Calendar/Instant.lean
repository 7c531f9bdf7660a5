import SparqlScalar.Calendar.Day
import SparqlScalar.Calendar.Zone
import SparqlScalar.Number.Decimal

/-!
# Points on the timeline

An `Instant` is a decimal number of seconds from the start of the year one, with the zone it was
given in; without a zone the seconds are those of the local clock. Its parts (day, hour, minute,
second) are those of the local clock in its zone.
-/

namespace SparqlScalar

/-- A point on the timeline, with the zone it was given in if there was one. -/
@[ext]
structure Instant where
  seconds : Decimal
  zone : Option Zone
deriving DecidableEq

namespace Instant

/-- The offset of the zone in minutes, zero without one. -/
def offset (i : Instant) : Int :=
  match i.zone with
  | some zone => zone.minutes
  | none => 0

/-- The instant that the local clock shows as a day, an hour, a minute and a second. The hour and
the minute may exceed their usual ranges. It fails where the whole minutes, or the sum with the
seconds, do not fit. -/
def ofLocal? (day hour minute : Int) (second : Decimal) (zone : Option Zone) : Option Instant :=
  let offset := (zone.map Zone.minutes).getD 0
  (Decimal.ofInt? (86400 * day + 3600 * hour + 60 * (minute - offset))).bind fun whole =>
    (whole.add? second).map fun seconds => ⟨seconds, zone⟩

/-- The units of time that the local clock has counted. -/
def localUnits (i : Instant) : Int := i.seconds.units + 60 * i.offset * Decimal.scale

/-- The units of time in a day. -/
def unitsPerDay : Int := 86400 * Decimal.scale

/-- The number of the local day. The units are rounded down to days, also before the year one, where
they are negative: the last half second of a day belongs to that day. -/
def dayNumber (i : Instant) : Int := i.localUnits / unitsPerDay

/-- The whole seconds of the local day, rounded down as well. -/
def secondOfDay (i : Instant) : Nat := (i.localUnits % unitsPerDay / Decimal.scale).toNat

/-- The local day. -/
def date (i : Instant) : CivilDate := CivilDate.ofNumber i.dayNumber

/-- The hour of the local day. -/
def hour (i : Instant) : Nat := i.secondOfDay / 3600

/-- The minute of the local hour. -/
def minute (i : Instant) : Nat := i.secondOfDay / 60 % 60

/-- The second of the minute, with its fraction. -/
def second (i : Instant) : Decimal where
  units := i.seconds.units % (60 * Decimal.scale)
  lower := by simp only [Decimal.scale]; omega
  upper := by simp only [Decimal.scale]; omega

/-- The instant a number of seconds later. -/
def addSeconds? (i : Instant) (seconds : Decimal) : Option Instant :=
  (i.seconds.add? seconds).map fun moved => ⟨moved, i.zone⟩

/-- The instant a number of seconds earlier. -/
def subSeconds? (i : Instant) (seconds : Decimal) : Option Instant :=
  (i.seconds.sub? seconds).map fun moved => ⟨moved, i.zone⟩

/-- The seconds from one instant to another, where both or neither have a zone. -/
def difference? (a b : Instant) : Option Decimal :=
  if a.zone.isSome = b.zone.isSome then a.seconds.sub? b.seconds else none

/-- The widest offset, in seconds. -/
def widestOffset : Decimal := ⟨14 * 3600 * Decimal.scale, by decide, by decide⟩

/-- Compares seconds at universal time with seconds of a clock of unknown zone, which may be as
far off as the widest offset on either side. -/
def compareUnzoned? (zoned unzoned : Decimal) : Option Ordering :=
  match unzoned.add? widestOffset, unzoned.sub? widestOffset with
  | some latest, some earliest =>
    if compare zoned latest = compare zoned earliest then some (compare zoned latest) else none
  | _, _ => none

/-- The order on the timeline, undetermined where just one has a zone and they are close. -/
def compare? (a b : Instant) : Option Ordering :=
  match a.zone, b.zone with
  | some _, none => compareUnzoned? a.seconds b.seconds
  | none, some _ => (compareUnzoned? b.seconds a.seconds).map Ordering.swap
  | _, _ => some (compare a.seconds b.seconds)

/-- The text of a second: two digits before the point. -/
def secondText (second : Decimal) : List Char :=
  if second.units < 10 * Decimal.scale then '0' :: second.text else second.text

/-- The text of the local clock time. -/
def clockText (i : Instant) : List Char :=
  Digits.padded 2 i.hour ++ ':' :: Digits.padded 2 i.minute ++ ':' :: secondText i.second

/-- The text of a day: at least four digits for the year, two for the month and the day. -/
def dayText (d : CivilDate) : List Char :=
  (if d.year < 0 then ['-'] else [])
    ++ Digits.padded 4 d.year.natAbs
    ++ '-' :: Digits.padded 2 d.month
    ++ '-' :: Digits.padded 2 d.day

/-- The text of the zone, empty without one. -/
def zoneText (i : Instant) : List Char :=
  match i.zone with
  | some zone => zone.text
  | none => []

end Instant

end SparqlScalar
