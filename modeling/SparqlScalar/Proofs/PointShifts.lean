import SparqlScalar.Proofs.LocalDays
import SparqlScalar.Proofs.TemporalChains
import SparqlScalar.Proofs.WrittenDurations

/-!
# Shifts of dates and times

    A date is shifted as the date-time at which it begins, and the clock time reached is dropped; a
    time is shifted on a day of reference, and the day reached is dropped.  Nothing is lost, as a
    duration suits a point by how it is written:

      spans      -- the value of a duration is that of the parts of its text
                    (`SpanOperand.hasParts`), so dates take whole days and times take no months
                    (`SpanOperand.wholeDays_of_suits`, `SpanOperand.months_of_suits`)
      moves      -- a duration without months moves an instant along the timeline
                    (`TimeSpan.shift?_eq_moveBy?`)
      midnights  -- whole days lead from the start of a day to the start of a day, months or not
                    (`TimeSpan.startsDay_of_shift?`)
      shifts     -- so a date goes to the date of the midnight reached (`exists_midnights_of_shift`),
                    and the clock of a time goes round (`clock_of_shift`)
-/

namespace SparqlScalar

/-! ## Spans -/

/-- The duration of a duration of any kind. -/
def TimeSpan.toDuration : TimeSpan → Duration
  | .duration d => d
  | .yearMonth d => d.toDuration
  | .dayTime d => d.toDuration

namespace SpanOperand

variable {t : Term} {s : SpanOperand}

/-- **SPANS**: a term that is decoded to a duration has the months and the seconds of its text. -/
theorem hasParts (h : TemporalOperand.ofTerm t = .ok (.span s)) :
    s.span.toDuration.HasParts s.lexical.toList := by
  obtain ⟨l, rfl, hparse, hlexical⟩ := TemporalOperand.parse?_of_ofTerm h
  rw [hlexical s rfl]
  obtain ⟨span, lexical⟩ := s
  cases span with
  | duration d =>
      obtain ⟨w, hw, hvalue⟩ := Option.map_eq_some_iff.mp hparse
      obtain rfl := Value.duration.inj hvalue
      exact Duration.hasParts_of_parse? hw
  | yearMonth d =>
      obtain ⟨w, hw, hvalue⟩ := Option.map_eq_some_iff.mp hparse
      obtain rfl := Value.yearMonthDuration.inj hvalue
      exact Duration.hasParts_of_yearMonth hw
  | dayTime d =>
      obtain ⟨w, hw, hvalue⟩ := Option.map_eq_some_iff.mp hparse
      obtain rfl := Value.dayTimeDuration.inj hvalue
      exact Duration.hasParts_of_dayTime hw

/-- A point takes a duration by its datatype and its text. -/
theorem takes_of_suits {p : TimePoint} (hs : TemporalOperand.ofTerm t = .ok (.span s))
    (h : s.suits p = true) : p.datatype.Takes s.span.datatype s.lexical := by
  obtain ⟨parts, hparts, -⟩ := hasParts hs
  obtain ⟨negative, body, days, clock, htext, -⟩ := Duration.exists_fields_of_readParts? hparts
  exact (suits_iff htext p).mp h

/-- **DATES TAKE WHOLE DAYS.** -/
theorem wholeDays_of_suits {v : Date} (hs : TemporalOperand.ofTerm t = .ok (.span s))
    (h : s.suits (.date v) = true) :
    Instant.unitsPerDay ∣ s.span.toDuration.seconds.units := by
  rcases takes_of_suits hs h with hkind | hletter
  · cases hspan : s.span with
    | yearMonth d => exact Int.dvd_zero _
    | duration d | dayTime d =>
        rw [hspan] at hkind
        cases hkind
  · exact (hasParts hs).wholeDays hletter

/-- **TIMES TAKE NO MONTHS.** -/
theorem months_of_suits {v : Time} (hs : TemporalOperand.ofTerm t = .ok (.span s))
    (h : s.suits (.time v) = true) : s.span.toDuration.months.toInt = 0 := by
  have hparts := hasParts hs
  obtain ⟨-, hstarts⟩ := takes_of_suits hs h
  rcases hstarts with ⟨rest, hrest⟩ | ⟨rest, hrest⟩
  · rw [← hrest] at hparts
    exact Duration.HasParts.months_eq_zero false hparts
  · rw [← hrest] at hparts
    exact Duration.HasParts.months_eq_zero true hparts

end SpanOperand

/-! ## Moves -/

/-- The change that an operator makes with a number of units. -/
def AdditiveOperator.change : AdditiveOperator → Int → Int
  | .add, n => n
  | .subtract, n => -n

namespace Instant

variable {i j : Instant} {op : AdditiveOperator} {d : Decimal}

/-- The instant that lies a number of seconds later or earlier. -/
def moveBy? (i : Instant) (op : AdditiveOperator) (d : Decimal) : Option Instant :=
  match op with
  | .add => i.addSeconds? d
  | .subtract => i.subSeconds? d

theorem moveBy?_eq_some_iff :
    i.moveBy? op d = some j ↔
      j.zone = i.zone ∧ j.seconds.units = i.seconds.units + op.change d.units := by
  have hmove : i.moveBy? op d =
      (Decimal.ofUnits? (i.seconds.units + op.change d.units)).map fun s => ⟨s, i.zone⟩ := by
    cases op with
    | add => rfl
    | subtract => rfl
  rw [hmove]
  constructor
  · intro h
    obtain ⟨seconds, hseconds, rfl⟩ := Option.map_eq_some_iff.mp h
    exact ⟨rfl, Decimal.ofUnits?_eq_some_iff.mp hseconds⟩
  · rintro ⟨hzone, hunits⟩
    rw [Decimal.ofUnits?_eq_some_iff.mpr hunits, ← hzone]
    rfl

/-- The local clock is moved with the timeline. -/
theorem localUnits_of_moveBy? (h : i.moveBy? op d = some j) :
    j.localUnits = i.localUnits + op.change d.units := by
  obtain ⟨hzone, hunits⟩ := moveBy?_eq_some_iff.mp h
  unfold localUnits
  rw [offset_eq, offset_eq, hzone, hunits]
  ring

end Instant

namespace TimeSpan

variable {s : TimeSpan}

/-- All kinds of durations shift a date-time by the duration that they are. -/
theorem shift?_add (s : TimeSpan) (m : DateTime) :
    s.shift? .add m = m.addDuration? s.toDuration := by
  cases s <;> rfl

theorem shift?_subtract (s : TimeSpan) (m : DateTime) :
    s.shift? .subtract m = m.subDuration? s.toDuration := by
  cases s <;> rfl

/-- **MOVES**: without months the timeline alone is moved. -/
theorem shift?_eq_moveBy? (h : s.toDuration.months.toInt = 0) (op : AdditiveOperator)
    (m : DateTime) :
    s.shift? op m = (m.instant.moveBy? op s.toDuration.seconds).map .mk := by
  cases op with
  | add =>
      rw [shift?_add]
      exact if_pos h
  | subtract =>
      rw [shift?_subtract]
      exact if_pos h

end TimeSpan

/-! ## Midnights -/

section Midnights

variable {m m' : DateTime} {d : Duration}

/-- Months and then whole days lead from the start of a day to the start of a day. -/
theorem DateTime.startsDay_of_addMonthsThenSeconds?
    (h : m.addMonthsThenSeconds? d = some m') (hm : m.instant.StartsDay)
    (hd : Instant.unitsPerDay ∣ d.seconds.units) :
    m'.instant.zone = m.instant.zone ∧ m'.instant.StartsDay := by
  obtain ⟨hhour, hminute, hsecond⟩ := hm.clock
  unfold addMonthsThenSeconds? at h
  obtain ⟨-, -, h⟩ := Option.bind_eq_some_iff.mp h
  obtain ⟨second, hadded, h⟩ := Option.bind_eq_some_iff.mp h
  obtain ⟨rest, hrest, h⟩ := Option.bind_eq_some_iff.mp h
  obtain ⟨i, hi, rfl⟩ := Option.map_eq_some_iff.mp h
  obtain ⟨hzone, hunits⟩ := Instant.ofLocal?_counted hi
  have hsecondUnits := Decimal.ofUnits?_eq_some_iff.mp hadded
  have hrestUnits := Decimal.ofUnits?_eq_some_iff.mp hrest
  refine ⟨hzone, ?_⟩
  -- the clock shows zero, and the seconds are carried over into minutes without a rest
  unfold Instant.StartsDay
  rw [hunits, hrestUnits, hsecondUnits, hhour, hminute, hsecond]
  unfold Instant.unitsPerDay at hd ⊢
  rw [Decimal.intCast_scale] at hd ⊢
  omega

theorem Duration.seconds_of_neg? {d' : Duration} (h : d.neg? = some d') :
    d'.seconds.units = -d.seconds.units := by
  unfold neg? at h
  obtain ⟨months, -, h⟩ := Option.bind_eq_some_iff.mp h
  obtain ⟨seconds, hseconds, h⟩ := Option.bind_eq_some_iff.mp h
  rw [(of_ofParts? h).2]
  exact Decimal.ofUnits?_eq_some_iff.mp hseconds

theorem AdditiveOperator.change_dvd {op : AdditiveOperator} {k n : Int} (h : k ∣ n) :
    k ∣ op.change n := by
  cases op with
  | add => exact h
  | subtract => exact Int.dvd_neg.mpr h

/-- Whole days lead along the timeline from the start of a day to the start of a day. -/
theorem Instant.startsDay_of_moveBy? {i j : Instant} {op : AdditiveOperator} {seconds : Decimal}
    (h : i.moveBy? op seconds = some j) (hi : i.StartsDay)
    (hseconds : Instant.unitsPerDay ∣ seconds.units) : j.StartsDay := by
  unfold StartsDay
  rw [localUnits_of_moveBy? h]
  exact Int.dvd_add hi (AdditiveOperator.change_dvd hseconds)

/-- **WHOLE DAYS** lead from the start of a day to the start of a day in the same zone. -/
theorem TimeSpan.startsDay_of_shift? {s : TimeSpan} {op : AdditiveOperator}
    (h : s.shift? op m = some m') (hm : m.instant.StartsDay)
    (hs : Instant.unitsPerDay ∣ s.toDuration.seconds.units) :
    m'.instant.zone = m.instant.zone ∧ m'.instant.StartsDay := by
  by_cases hmonths : s.toDuration.months.toInt = 0
  · rw [shift?_eq_moveBy? hmonths] at h
    obtain ⟨i, hi, rfl⟩ := Option.map_eq_some_iff.mp h
    exact ⟨(Instant.moveBy?_eq_some_iff.mp hi).1, Instant.startsDay_of_moveBy? hi hm hs⟩
  · cases op with
    | add =>
        rw [shift?_add, DateTime.addDuration?, if_neg hmonths] at h
        exact DateTime.startsDay_of_addMonthsThenSeconds? h hm hs
    | subtract =>
        rw [shift?_subtract, DateTime.subDuration?, if_neg hmonths] at h
        obtain ⟨d', hd', h⟩ := Option.bind_eq_some_iff.mp h
        refine DateTime.startsDay_of_addMonthsThenSeconds? h hm ?_
        rw [Duration.seconds_of_neg? hd']
        exact Int.dvd_neg.mpr hs

end Midnights

/-! ## Shifts -/

section Shifts

variable {t : Term} {s : SpanOperand} {op : AdditiveOperator} {p q : TimePoint}

/-- A shift has a result exactly if the duration suits the point and leads somewhere. -/
theorem shiftPoint_eq_ok_iff :
    shiftPoint p op s = .ok q ↔ s.suits p = true ∧ p.move? (s.span.shift? op) = some q := by
  unfold shiftPoint
  by_cases hsuits : s.suits p = true
  · rw [if_pos hsuits]
    cases p.move? (s.span.shift? op) with
    | none => simp [EvalResult.ofOption, evaluationError]
    | some moved => simp [EvalResult.ofOption, hsuits]
  · rw [if_neg hsuits]
    simp [evaluationError, hsuits]

/-- A date goes to the date that begins where its own midnight goes. -/
theorem exists_midnights_of_shift {v : Date} (hs : TemporalOperand.ofTerm t = .ok (.span s))
    (h : shiftPoint (.date v) op s = .ok q) :
    ∃ m m' : DateTime, v.BeginsAt m ∧ s.span.shift? op m = some m' ∧ m'.instant.StartsDay ∧
      q = .date ⟨m'.instant⟩ := by
  obtain ⟨hsuits, hmove⟩ := shiftPoint_eq_ok_iff.mp h
  obtain ⟨v', hv', rfl⟩ := Option.map_eq_some_iff.mp hmove
  obtain ⟨m', hshifted, hdate⟩ := Option.bind_eq_some_iff.mp hv'
  obtain ⟨m, hmidnight, hshift⟩ := Option.bind_eq_some_iff.mp hshifted
  have hbegins := Date.midnight?_eq_some_iff.mp hmidnight
  obtain ⟨-, hstarts⟩ := TimeSpan.startsDay_of_shift? hshift hbegins.startsDay
    (SpanOperand.wholeDays_of_suits hs hsuits)
  rw [Date.ofDateTime?_of_startsDay hstarts] at hdate
  obtain rfl := Option.some.inj hdate
  exact ⟨m, m', hbegins, hshift, hstarts, rfl⟩

/-- The clock of a time goes round by the seconds of a duration. -/
theorem clock_of_shift {v : Time} (hs : TemporalOperand.ofTerm t = .ok (.span s))
    (h : shiftPoint (.time v) op s = .ok q) :
    ∃ v' : Time, q = .time v' ∧ v'.instant.zone = v.instant.zone ∧
      v'.instant.dayNumber = Calendar.referenceDay.number ∧
      v'.clockUnits =
        (v.clockUnits + op.change s.span.toDuration.seconds.units) % Instant.unitsPerDay := by
  obtain ⟨hsuits, hmove⟩ := shiftPoint_eq_ok_iff.mp h
  obtain ⟨v', hv', rfl⟩ := Option.map_eq_some_iff.mp hmove
  obtain ⟨m', hshifted, htime⟩ := Option.bind_eq_some_iff.mp hv'
  obtain ⟨m, hplaced, hshift⟩ := Option.bind_eq_some_iff.mp hshifted
  rw [TimeSpan.shift?_eq_moveBy? (SpanOperand.months_of_suits hs hsuits)] at hshift
  obtain ⟨i, hi, rfl⟩ := Option.map_eq_some_iff.mp hshift
  obtain ⟨hzone, hclock⟩ := Time.clock_of_onReferenceDay? hplaced
  obtain ⟨hzone', hday, hclock'⟩ := Time.clock_of_ofDateTime? htime
  refine ⟨v', rfl, ?_, hday, ?_⟩
  · exact hzone'.trans ((Instant.moveBy?_eq_some_iff.mp hi).1.trans hzone)
  · rw [hclock', Instant.localUnits_of_moveBy? hi, ← Int.emod_add_emod, hclock]

/-- **NOTHING IS CUT OFF**: a date takes whole days, and goes to the date of the midnight that its
own midnight goes to; a time takes no months, and goes round the clock by the seconds, in its
zone. -/
theorem shift_cuts_nothing_off (op : AdditiveOperator)
    (hs : TemporalOperand.ofTerm t = .ok (.span s)) :
    (∀ (v : Date) (q : TimePoint), shiftPoint (.date v) op s = .ok q →
      Instant.unitsPerDay ∣ s.span.toDuration.seconds.units ∧
      ∃ (v' : Date) (m m' : DateTime), q = .date v' ∧ v.BeginsAt m ∧ v'.BeginsAt m' ∧
        shiftPoint (.dateTime m) op s = .ok (.dateTime m')) ∧
    (∀ (v : Time) (q : TimePoint), shiftPoint (.time v) op s = .ok q →
      s.span.toDuration.months.toInt = 0 ∧
      ∃ v' : Time, q = .time v' ∧ v'.instant.zone = v.instant.zone ∧
        v'.instant.dayNumber = Calendar.referenceDay.number ∧
        v'.clockUnits =
          (v.clockUnits + op.change s.span.toDuration.seconds.units) % Instant.unitsPerDay) := by
  constructor
  · intro v q h
    obtain ⟨hsuits, -⟩ := shiftPoint_eq_ok_iff.mp h
    obtain ⟨m, m', hbegins, hshift, hstarts, rfl⟩ := exists_midnights_of_shift hs h
    refine ⟨SpanOperand.wholeDays_of_suits hs hsuits, ?_⟩
    refine ⟨⟨m'.instant⟩, m, m', rfl, hbegins, Date.beginsAt_self hstarts, ?_⟩
    exact shiftPoint_eq_ok_iff.mpr ⟨rfl, Option.map_eq_some_iff.mpr ⟨m', hshift, rfl⟩⟩
  · intro v q h
    obtain ⟨hsuits, -⟩ := shiftPoint_eq_ok_iff.mp h
    exact ⟨SpanOperand.months_of_suits hs hsuits, clock_of_shift hs h⟩

/-- The last day of January goes to that of February, and half past eleven less a day and an hour is
half past ten. -/
theorem shift_cuts_nothing_off_at_month_end :
    let month := Term.literal (Literal.typed "P1M" Datatype.duration.iri)
    let hours := Term.literal (Literal.typed "PT25H" Datatype.dayTimeDuration.iri)
    (∃ (s : SpanOperand) (v v' : Date) (m m' : DateTime),
        TemporalOperand.ofTerm month = .ok (.span s) ∧
        Date.parse? "2024-01-31".toList = some v ∧
        Date.parse? "2024-02-29".toList = some v' ∧
        shiftPoint (.date v) .add s = .ok (.date v') ∧
        v.BeginsAt m ∧ v'.BeginsAt m' ∧
        shiftPoint (.dateTime m) .add s = .ok (.dateTime m')) ∧
      ∃ (s : SpanOperand) (v v' : Time),
        TemporalOperand.ofTerm hours = .ok (.span s) ∧
        Time.parse? "23:30:00+02:00".toList = some v ∧
        Time.parse? "22:30:00+02:00".toList = some v' ∧
        shiftPoint (.time v) .subtract s = .ok (.time v') ∧
        v'.instant.zone = v.instant.zone ∧
        v'.clockUnits =
          (v.clockUnits - s.span.toDuration.seconds.units) % Instant.unitsPerDay := by
  intro month hours
  constructor
  · have hshift : ∃ (s : SpanOperand) (v v' : Date),
        TemporalOperand.ofTerm month = .ok (.span s) ∧
        Date.parse? "2024-01-31".toList = some v ∧
        Date.parse? "2024-02-29".toList = some v' ∧
        shiftPoint (.date v) .add s = .ok (.date v') :=
      ⟨_, _, _, rfl, rfl, rfl, rfl⟩
    obtain ⟨s, v, v', hs, hv, hv', h⟩ := hshift
    obtain ⟨-, w, m, m', hw, hbegins, hbegins', hmidnight⟩ :=
      (shift_cuts_nothing_off .add hs).1 v _ h
    obtain rfl := TimePoint.date.inj hw
    exact ⟨s, v, v', m, m', hs, hv, hv', h, hbegins, hbegins', hmidnight⟩
  · have hshift : ∃ (s : SpanOperand) (v v' : Time),
        TemporalOperand.ofTerm hours = .ok (.span s) ∧
        Time.parse? "23:30:00+02:00".toList = some v ∧
        Time.parse? "22:30:00+02:00".toList = some v' ∧
        shiftPoint (.time v) .subtract s = .ok (.time v') :=
      ⟨_, _, _, rfl, rfl, rfl, rfl⟩
    obtain ⟨s, v, v', hs, hv, hv', h⟩ := hshift
    obtain ⟨-, w, hw, hzone, -, hclock⟩ := (shift_cuts_nothing_off .subtract hs).2 v _ h
    obtain rfl := TimePoint.time.inj hw
    exact ⟨s, v, v', hs, hv, hv', h, hzone, hclock⟩

/-- Whole days that lead back to before the year one, where the clock still shows half a second. -/
example :
    additiveChain (.literal (.typed "12:30:59.5" Datatype.time.iri))
        [(.subtract, .literal (.typed "PT18000000H" Datatype.dayTimeDuration.iri))] =
      .ok (.literal (.typed "12:30:59.5" Datatype.time.iri)) := by
  decide +kernel

end Shifts

end SparqlScalar
