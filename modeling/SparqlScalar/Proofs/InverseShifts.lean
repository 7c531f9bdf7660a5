import SparqlScalar.Proofs.PointShifts

/-!
# Shifts that undo each other

    A duration without months moves the timeline alone, so what is shifted by it can be shifted back:

      moves   -- an instant that is moved and moved back is where it was, and the difference is the
                 number of seconds (`Instant.moveBy?_inverse`, `Instant.difference?_of_moveBy?`)
      points  -- date-times and dates of days are shifted by moving their instant, as a date takes
                 whole days only (`TimePoint.shiftPoint_eq_ok_iff_moved`)
      shifts  -- so a shift that leads somewhere leads back, and the chain of both ends in the point
                 it starts with (`shift_undone`)
-/

namespace SparqlScalar

/-! ## Moves -/

/-- The operator that undoes another. -/
def AdditiveOperator.inverse : AdditiveOperator → AdditiveOperator
  | .add => .subtract
  | .subtract => .add

theorem AdditiveOperator.change_inverse (op : AdditiveOperator) (n : Int) :
    op.inverse.change n = -op.change n := by
  cases op with
  | add => rfl
  | subtract => exact (Int.neg_neg n).symm

namespace Instant

variable {i j : Instant} {op : AdditiveOperator} {d : Decimal}

/-- **BACK AGAIN**: what is moved can be moved back, as the instant before is there. -/
theorem moveBy?_inverse (h : i.moveBy? op d = some j) : j.moveBy? op.inverse d = some i := by
  obtain ⟨hzone, hunits⟩ := moveBy?_eq_some_iff.mp h
  refine moveBy?_eq_some_iff.mpr ⟨hzone.symm, ?_⟩
  rw [AdditiveOperator.change_inverse, hunits]
  omega

/-- An instant and a later one differ by the seconds between them. -/
theorem difference?_of_moveBy? (h : i.moveBy? .add d = some j) : j.difference? i = some d := by
  obtain ⟨hzone, hunits⟩ := moveBy?_eq_some_iff.mp h
  unfold difference?
  rw [if_pos (congrArg Option.isSome hzone)]
  refine Decimal.ofUnits?_eq_some_iff.mpr ?_
  rw [hunits]
  show d.units = i.seconds.units + d.units - i.seconds.units
  omega

end Instant

/-! ## Points -/

/-- A date was made from a day, as all dates that are read, reached or taken from a date-time
are. -/
def Date.IsOfDay (v : Date) : Prop :=
  ∃ day zone, Date.ofDay? day zone = some v

theorem Date.isOfDay_iff {v : Date} : v.IsOfDay ↔ v.instant.StartsDay := by
  constructor
  · rintro ⟨day, zone, h⟩
    exact Date.startsDay_of_ofDay? h
  · intro h
    exact ⟨v.instant.date, v.instant.zone, Date.ofDateTime?_of_startsDay (m := ⟨v.instant⟩) h⟩

namespace TimePoint

/-- A date-time, or a date that was made from a day. -/
inductive Dated : TimePoint → Prop
  | dateTime (v : DateTime) : Dated (.dateTime v)
  | date {v : Date} (h : v.IsOfDay) : Dated (.date v)

/-- The instant of a point. -/
def instant : TimePoint → Instant
  | .dateTime v => v.instant
  | .date v => v.instant
  | .time v => v.instant

/-- The point of the same sort at another instant. -/
def withInstant (p : TimePoint) (i : Instant) : TimePoint :=
  match p with
  | .dateTime _ => .dateTime ⟨i⟩
  | .date _ => .date ⟨i⟩
  | .time _ => .time ⟨i⟩

variable {t : Term} {s : SpanOperand} {op : AdditiveOperator} {p q : TimePoint}

/-- The points that terms are decoded to are dated, but for times. -/
theorem dated_of_ofTerm (h : TemporalOperand.ofTerm t = .ok (.point p)) (hp : p.datatype ≠ .time) :
    p.Dated := by
  cases p with
  | time v => exact absurd rfl hp
  | dateTime v => exact .dateTime v
  | date v =>
      obtain ⟨l, rfl, hparse, -⟩ := TemporalOperand.parse?_of_ofTerm h
      obtain ⟨w, hw, hdate⟩ := Option.map_eq_some_iff.mp hparse
      obtain rfl := Value.date.inj hdate
      obtain ⟨⟨day, rest⟩, -, hw⟩ := Option.bind_eq_some_iff.mp hw
      obtain ⟨zone, -, hw⟩ := Option.bind_eq_some_iff.mp hw
      exact .date ⟨day, zone, hw⟩

/-- **SHIFTS ARE MOVES**: a dated point is shifted by moving its instant, where the duration has no
months and suits it. -/
theorem move?_eq_moveBy? (hp : p.Dated) (hs : TemporalOperand.ofTerm t = .ok (.span s))
    (hmonths : s.span.toDuration.months.toInt = 0) (hsuits : s.suits p = true) :
    p.move? (s.span.shift? op) =
      (p.instant.moveBy? op s.span.toDuration.seconds).map p.withInstant := by
  cases hp with
  | dateTime v =>
      show (s.span.shift? op v).map TimePoint.dateTime = _
      rw [TimeSpan.shift?_eq_moveBy? hmonths, Option.map_map]
      rfl
  | @date v hday =>
      have hstarts := Date.isOfDay_iff.mp hday
      have hdays := SpanOperand.wholeDays_of_suits hs hsuits
      have hshift : v.shift? (s.span.shift? op) =
          (v.instant.moveBy? op s.span.toDuration.seconds).map .mk := by
        unfold Date.shift?
        rw [Date.midnight?_eq_some_iff.mpr (Date.beginsAt_self hstarts), Option.bind_some,
          TimeSpan.shift?_eq_moveBy? hmonths]
        cases hmove : v.instant.moveBy? op s.span.toDuration.seconds with
        | none => rfl
        | some i =>
            -- whole days lead to the start of a day, which is the date that is reached
            exact Date.ofDateTime?_of_startsDay (Instant.startsDay_of_moveBy? hmove hstarts hdays)
      show (v.shift? (s.span.shift? op)).map TimePoint.date = _
      rw [hshift, Option.map_map]
      rfl

/-- Where a dated point is shifted to, it is dated. -/
theorem Dated.withInstant (hp : p.Dated) (hs : TemporalOperand.ofTerm t = .ok (.span s))
    (hsuits : s.suits p = true) {i : Instant}
    (h : p.instant.moveBy? op s.span.toDuration.seconds = some i) : (p.withInstant i).Dated := by
  cases hp with
  | dateTime v => exact .dateTime ⟨i⟩
  | date hday =>
      refine .date (Date.isOfDay_iff.mpr ?_)
      exact Instant.startsDay_of_moveBy? h (Date.isOfDay_iff.mp hday)
        (SpanOperand.wholeDays_of_suits hs hsuits)

/-- A duration suits all points of a sort. -/
theorem suits_withInstant (p : TimePoint) (i : Instant) (s : SpanOperand) :
    s.suits (p.withInstant i) = s.suits p := by
  obtain ⟨span, lexical⟩ := s
  cases p <;> cases span <;> rfl

theorem instant_withInstant (p : TimePoint) (i : Instant) : (p.withInstant i).instant = i := by
  cases p <;> rfl

theorem withInstant_instant (p : TimePoint) (i : Instant) :
    (p.withInstant i).withInstant p.instant = p := by
  cases p <;> rfl

theorem difference?_withInstant (p : TimePoint) (i : Instant) :
    (p.withInstant i).difference? p = some (i.difference? p.instant) := by
  cases p <;> rfl

end TimePoint

/-! ## Shifts -/

section Shifts

variable {t : Term} {s : SpanOperand} {op : AdditiveOperator} {p q : TimePoint}

/-- A shift without months has the point at the instant moved as its result. -/
theorem exists_move_of_shiftPoint (hp : p.Dated) (hs : TemporalOperand.ofTerm t = .ok (.span s))
    (hmonths : s.span.toDuration.months.toInt = 0) (h : shiftPoint p op s = .ok q) :
    ∃ i, p.instant.moveBy? op s.span.toDuration.seconds = some i ∧ q = p.withInstant i ∧
      q.Dated := by
  obtain ⟨hsuits, hmove⟩ := shiftPoint_eq_ok_iff.mp h
  rw [TimePoint.move?_eq_moveBy? hp hs hmonths hsuits] at hmove
  obtain ⟨i, hi, rfl⟩ := Option.map_eq_some_iff.mp hmove
  exact ⟨i, hi, rfl, hp.withInstant hs hsuits hi⟩

/-- A shift that leads somewhere leads back. -/
theorem shiftPoint_inverse (hp : p.Dated) (hs : TemporalOperand.ofTerm t = .ok (.span s))
    (hmonths : s.span.toDuration.months.toInt = 0) (h : shiftPoint p op s = .ok q) :
    shiftPoint q op.inverse s = .ok p := by
  obtain ⟨i, hi, rfl, hq⟩ := exists_move_of_shiftPoint hp hs hmonths h
  have hsuits : s.suits (p.withInstant i) = true := by
    rw [TimePoint.suits_withInstant]
    exact (shiftPoint_eq_ok_iff.mp h).1
  refine shiftPoint_eq_ok_iff.mpr ⟨hsuits, ?_⟩
  rw [TimePoint.move?_eq_moveBy? hq hs hmonths hsuits, TimePoint.instant_withInstant,
    Instant.moveBy?_inverse hi]
  exact congrArg some (p.withInstant_instant i)

/-- A chain that shifts a point twice has the second result. -/
theorem temporalChain_shiftPoint {first : Term} {op' : AdditiveOperator} {r : TimePoint}
    (hfirst : TemporalOperand.ofTerm first = .ok (.point p))
    (hs : TemporalOperand.ofTerm t = .ok (.span s)) (h : shiftPoint p op s = .ok q)
    (h' : shiftPoint q op' s = .ok r) :
    temporalChain first [(op, t), (op', t)] = .ok r.toTerm := by
  have hlong : ∀ second d, [(op, t), (op', t)] = [(AdditiveOperator.subtract, second)] →
      ¬ second.IsPoint d := by
    intro second d heq
    cases heq
  have hstep : ∀ (p q : TimePoint) (op : AdditiveOperator), shiftPoint p op s = .ok q →
      TemporalOperand.ofTerm t >>= temporalStep (.point p) op = .ok (.point q) := by
    intro p q op h
    rw [hs]
    show temporalStep (.point p) op (.span s) = _
    rw [temporalStep_span, h]
    rfl
  rw [temporalChain_point (List.cons_ne_nil _ _) hfirst hlong, temporalSteps_cons,
    hstep p q op h]
  show temporalSteps (.point q) [(op', t)] >>= TemporalOperand.toTerm = _
  rw [temporalSteps_cons, hstep q r op' h']
  rfl

/-- **SHIFTS ARE UNDONE**: where a duration without months leads from a date-time or a date, it leads
back; a point and a later one differ by the seconds of the duration; and the chain that goes there
and back ends in the point as it is written canonically. -/
theorem shift_undone (hs : TemporalOperand.ofTerm t = .ok (.span s))
    (hmonths : s.span.toDuration.months.toInt = 0) (hp : p.Dated)
    (h : shiftPoint p op s = .ok q) :
    shiftPoint q op.inverse s = .ok p ∧
      (op = .add → q.difference? p = some (some s.span.toDuration.seconds)) ∧
      ∀ first, TemporalOperand.ofTerm first = .ok (.point p) →
        temporalChain first [(op, t), (op.inverse, t)] = .ok p.toTerm := by
  have hback := shiftPoint_inverse hp hs hmonths h
  refine ⟨hback, ?_, ?_⟩
  · rintro rfl
    obtain ⟨i, hi, rfl, -⟩ := exists_move_of_shiftPoint hp hs hmonths h
    rw [TimePoint.difference?_withInstant, Instant.difference?_of_moveBy? hi]
  · intro first hfirst
    exact temporalChain_shiftPoint hfirst hs h hback

/-- Ten days from the end of February and back, in a leap year. -/
theorem shift_undone_in_leap_year :
    let day := Term.literal (Literal.typed "2024-02-25+01:00" Datatype.date.iri)
    let span := Term.literal (Literal.typed "P10D" Datatype.dayTimeDuration.iri)
    ∃ (s : SpanOperand) (p q : TimePoint),
      TemporalOperand.ofTerm span = .ok (.span s) ∧ s.span.toDuration.months.toInt = 0 ∧
      TemporalOperand.ofTerm day = .ok (.point p) ∧ p.Dated ∧
      shiftPoint p .add s = .ok q ∧
      q.toTerm = .literal (Literal.typed "2024-03-06+01:00" Datatype.date.iri) ∧
      shiftPoint q .subtract s = .ok p ∧
      q.difference? p = some (some s.span.toDuration.seconds) ∧
      temporalChain day [(.add, span), (.subtract, span)] = .ok p.toTerm := by
  intro day span
  have hshift : ∃ (s : SpanOperand) (p q : TimePoint),
      TemporalOperand.ofTerm span = .ok (.span s) ∧ s.span.toDuration.months.toInt = 0 ∧
      TemporalOperand.ofTerm day = .ok (.point p) ∧ p.datatype = .date ∧
      shiftPoint p .add s = .ok q ∧
      q.toTerm = .literal (Literal.typed "2024-03-06+01:00" Datatype.date.iri) :=
    ⟨_, _, _, rfl, rfl, rfl, rfl, rfl, rfl⟩
  obtain ⟨s, p, q, hs, hmonths, hday, hsort, h, hq⟩ := hshift
  have hp : p.Dated := TimePoint.dated_of_ofTerm hday (by rw [hsort]; decide)
  obtain ⟨hback, hdifference, hchain⟩ := shift_undone hs hmonths hp h
  exact ⟨s, p, q, hs, hmonths, hday, hp, h, hq, hback, hdifference rfl, hchain day hday⟩

end Shifts

end SparqlScalar
