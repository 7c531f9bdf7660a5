import Mathlib.Tactic.Ring
import SparqlScalar.Calendar.DateTime
import SparqlScalar.Proofs.CivilDays

/-!
# Local days and clocks

    An instant is read as a day and a clock time in its zone, and built from them again.  Both
    directions go through the units of time that the local clock has counted:

      readings  -- what is built from a reading has counted the units of the reading
                   (`Instant.ofLocal?_counted`); the day is the one in which the units counted fall
                   (`Instant.dayNumber_eq_iff`), and hour, minute and second make up the units since
                   midnight (`Instant.clock_units`)
      midnights -- an instant at which a local day starts is built from the day alone
                   (`Instant.ofLocal?_midnight_iff`, `Instant.ofLocal?_date`)
      dates     -- so a date and its midnight lead to each other (`Date.midnight?_eq_some_iff`,
                   `Date.ofDateTime?_of_startsDay`)
      times     -- a time keeps the clock of the date-time that it was read from
                   (`Time.clock_of_ofDateTime?`)
-/

namespace SparqlScalar

/-! ## Readings -/

namespace Instant

variable {i j : Instant} {day hour minute : Int} {second : Decimal} {zone : Option Zone}

theorem offset_eq (i : Instant) : i.offset = (i.zone.map Zone.minutes).getD 0 := by
  unfold offset
  cases i.zone with
  | none => rfl
  | some zone => rfl

/-- What is built from a reading has counted the units of the reading. -/
theorem ofLocal?_counted (h : ofLocal? day hour minute second zone = some i) :
    i.zone = zone ∧
      i.localUnits = (86400 * day + 3600 * hour + 60 * minute) * Decimal.scale + second.units := by
  unfold ofLocal? at h
  obtain ⟨whole, hwhole, hrest⟩ := Option.bind_eq_some_iff.mp h
  obtain ⟨seconds, hseconds, rfl⟩ := Option.map_eq_some_iff.mp hrest
  have hwholeUnits := Decimal.ofUnits?_eq_some_iff.mp hwhole
  have hunits := Decimal.ofUnits?_eq_some_iff.mp hseconds
  refine ⟨rfl, ?_⟩
  unfold localUnits
  rw [offset_eq]
  dsimp only
  rw [hunits, hwholeUnits, Decimal.intCast_scale]
  omega

/-- An instant that has counted whole minutes is built from a reading of them. -/
theorem ofLocal?_of_counted
    (h : i.localUnits = (86400 * day + 3600 * hour + 60 * minute) * Decimal.scale) :
    ofLocal? day hour minute Decimal.zero i.zone = some i := by
  have hwhole : (86400 * day + 3600 * hour + 60 * (minute - i.offset)) * Decimal.scale =
      i.seconds.units := by
    unfold localUnits at h
    rw [Decimal.intCast_scale] at h ⊢
    omega
  have hadded : i.seconds.add? Decimal.zero = some i.seconds := by
    refine Decimal.ofUnits?_eq_some_iff.mpr ?_
    exact (Int.add_zero i.seconds.units).symm
  unfold ofLocal?
  dsimp only
  rw [← offset_eq, Decimal.ofInt?, hwhole, Decimal.ofUnits?_units, Option.bind_some, hadded]
  rfl

/-- The local day is the one in which the units counted fall, on both sides of the year one. -/
theorem dayNumber_eq_iff :
    i.dayNumber = day ↔
      day * unitsPerDay ≤ i.localUnits ∧ i.localUnits < (day + 1) * unitsPerDay := by
  unfold dayNumber unitsPerDay
  rw [Decimal.intCast_scale]
  constructor
  · rintro rfl
    omega
  · rintro ⟨hfrom, hto⟩
    omega

/-- Hour, minute and second make up the units since midnight. -/
theorem clock_units (i : Instant) :
    (3600 * (i.hour : Int) + 60 * (i.minute : Int)) * Decimal.scale + i.second.units =
      i.localUnits % unitsPerDay := by
  unfold hour minute second secondOfDay localUnits unitsPerDay
  simp only [Decimal.intCast_scale]
  omega

/-- The last thousandth of a second before the year zero is on the last day of December, a minute
before midnight. -/
example :
    (DateTime.parse? "-0001-12-31T23:59:59.999Z".toList).map
        (fun v => (v.instant.date, v.instant.hour, v.instant.minute, v.instant.second.text)) =
      some (⟨-1, 12, 31⟩, 23, 59, "59.999".toList) := by
  decide +kernel

/-- **CLOCKS**: what is built from a day and the clock of an instant is on this day and shows this
clock. -/
theorem ofLocal?_clock (h : ofLocal? day i.hour i.minute i.second zone = some j) :
    j.zone = zone ∧ j.dayNumber = day ∧
      j.localUnits % unitsPerDay = i.localUnits % unitsPerDay := by
  obtain ⟨hzone, hunits⟩ := ofLocal?_counted h
  have hclock := clock_units i
  rw [dayNumber_eq_iff]
  unfold unitsPerDay at hclock ⊢
  rw [Decimal.intCast_scale] at hunits hclock ⊢
  refine ⟨hzone, ?_, ?_⟩ <;> omega

end Instant

/-! ## Midnights -/

namespace Instant

variable {i : Instant} {day : Int} {zone : Option Zone}

/-- A local day starts at the instant. -/
def StartsDay (i : Instant) : Prop := unitsPerDay ∣ i.localUnits

theorem StartsDay.localUnits_eq (h : i.StartsDay) : i.localUnits = i.dayNumber * unitsPerDay :=
  (Int.ediv_mul_cancel h).symm

theorem startsDay_of_localUnits (h : i.localUnits = day * unitsPerDay) : i.StartsDay :=
  Dvd.intro_left day h.symm

/-- **MIDNIGHTS**: the instant that is built from a day alone has counted the days before it. -/
theorem ofLocal?_midnight_iff :
    ofLocal? day 0 0 Decimal.zero zone = some i ↔
      i.zone = zone ∧ i.localUnits = day * unitsPerDay := by
  have hreading : (86400 * day + 3600 * 0 + 60 * 0) * Decimal.scale = day * unitsPerDay := by
    unfold unitsPerDay
    ring
  constructor
  · intro h
    obtain ⟨hzone, hunits⟩ := ofLocal?_counted h
    rw [hreading] at hunits
    exact ⟨hzone, hunits.trans (Int.add_zero _)⟩
  · rintro ⟨rfl, hunits⟩
    rw [← hreading] at hunits
    exact ofLocal?_of_counted hunits

/-- The local day of an instant, named and numbered. -/
theorem number_date (i : Instant) : i.date.number = i.dayNumber :=
  CivilDate.number_ofNumber i.dayNumber

/-- An instant at which a local day starts is built from the day. -/
theorem ofLocal?_date (h : i.StartsDay) :
    ofLocal? i.date.number 0 0 Decimal.zero i.zone = some i := by
  rw [number_date]
  exact ofLocal?_midnight_iff.mpr ⟨rfl, h.localUnits_eq⟩

/-- Where a local day starts, the clock shows zero. -/
theorem StartsDay.clock (h : i.StartsDay) : i.hour = 0 ∧ i.minute = 0 ∧ i.second.units = 0 := by
  have hclock := clock_units i
  have hsecond : 0 ≤ i.second.units := by
    unfold second
    dsimp only
    rw [Decimal.intCast_scale]
    omega
  rw [Int.emod_eq_zero_of_dvd h, Decimal.intCast_scale] at hclock
  omega

end Instant

/-! ## Dates -/

namespace Date

variable {v : Date} {m : DateTime}

/-- A date begins at a date-time: this is the start of the local day of the date in its zone. -/
def BeginsAt (v : Date) (m : DateTime) : Prop :=
  m.instant.zone = v.instant.zone ∧
    m.instant.localUnits = v.instant.dayNumber * Instant.unitsPerDay

theorem BeginsAt.startsDay (h : v.BeginsAt m) : m.instant.StartsDay :=
  Instant.startsDay_of_localUnits h.2

/-- **MIDNIGHTS OF DATES**: the date-time that stands for a date is the one at which it begins. -/
theorem midnight?_eq_some_iff : v.midnight? = some m ↔ v.BeginsAt m := by
  show (Instant.ofLocal? v.instant.date.number 0 0 Decimal.zero v.instant.zone).map DateTime.mk =
    some m ↔ _
  rw [Instant.number_date]
  constructor
  · intro h
    obtain ⟨i, hi, rfl⟩ := Option.map_eq_some_iff.mp h
    exact Instant.ofLocal?_midnight_iff.mp hi
  · intro h
    exact Option.map_eq_some_iff.mpr ⟨m.instant, Instant.ofLocal?_midnight_iff.mpr h, rfl⟩

theorem beginsAt_self (h : v.instant.StartsDay) : v.BeginsAt ⟨v.instant⟩ :=
  ⟨rfl, h.localUnits_eq⟩

/-- A date that was made from a day begins at its own instant. -/
theorem startsDay_of_ofDay? {day : CivilDate} {zone : Option Zone} (h : ofDay? day zone = some v) :
    v.instant.StartsDay := by
  obtain ⟨i, hi, rfl⟩ := Option.map_eq_some_iff.mp h
  exact Instant.startsDay_of_localUnits (Instant.ofLocal?_midnight_iff.mp hi).2

/-- The date of a midnight is the one that begins at it. -/
theorem ofDateTime?_of_startsDay (h : m.instant.StartsDay) : ofDateTime? m = some ⟨m.instant⟩ := by
  unfold ofDateTime? ofDay?
  rw [Instant.ofLocal?_date h]
  rfl

end Date

/-! ## Times -/

namespace Time

variable {v : Time} {m : DateTime}

/-- The units of time since midnight that the clock of a time shows. -/
def clockUnits (v : Time) : Int := v.instant.localUnits % Instant.unitsPerDay

/-- A time is placed on the day of reference with its zone and its clock. -/
theorem clock_of_onReferenceDay? (h : v.onReferenceDay? = some m) :
    m.instant.zone = v.instant.zone ∧
      m.instant.localUnits % Instant.unitsPerDay = v.clockUnits := by
  obtain ⟨i, hi, rfl⟩ := Option.map_eq_some_iff.mp h
  obtain ⟨hzone, -, hclock⟩ := Instant.ofLocal?_clock hi
  exact ⟨hzone, hclock⟩

/-- The time of a date-time has its zone and its clock, and is on the day of reference. -/
theorem clock_of_ofDateTime? (h : ofDateTime? m = some v) :
    v.instant.zone = m.instant.zone ∧
      v.instant.dayNumber = Calendar.referenceDay.number ∧
      v.clockUnits = m.instant.localUnits % Instant.unitsPerDay := by
  obtain ⟨i, hi, rfl⟩ := Option.map_eq_some_iff.mp h
  exact Instant.ofLocal?_clock hi

end Time

end SparqlScalar
