import SparqlScalar.Operator.Temporal
import SparqlScalar.Proofs.WrittenDurations

/-!
# The shapes of temporal chains

    A chain of additions and subtractions with points in time has a result in two shapes only: one
    point less another one of its sort, which is a duration, and one point moved by durations that
    suit it, which is a point of its sort.  In both shapes the only failure is an overflow.

      literals   -- what an operand is decoded to tells the datatype of its literal and that the
                    text belongs to it (`Literal.isOf_of_value`)
      durations  -- a duration suits a point by how it is written (`SpanOperand.suits_iff`)
      operands   -- so points and the durations that suit them are known by their literals
                    (`Term.isPoint_iff`, `Term.isSpanFor_iff`)
      steps      -- a step from a point goes to a point of its sort, and only by a duration that
                    suits it (`pointStep_of_span`, `span_of_pointStep`)
      runs       -- so do all steps, by induction over the continuations (`temporalSteps_of_spans`,
                    `spans_of_temporalSteps`)
      chains     -- a chain is a difference or a run (`temporalChain_difference`,
                    `temporalChain_point`, `temporalChain_span`)

    The sort of a point is its datatype; durations have three of them.
-/

namespace SparqlScalar

/-! ## Literals -/

/-- A literal is well-typed for a datatype: it has the datatype, and its text belongs to it. -/
def Literal.IsOf (l : Literal) (d : Datatype) : Prop :=
  l.annotation = .datatype d.iri ∧ ∃ v, d.parse? l.lexical = some v

/-- The datatype of a point in time or a duration. -/
def Value.temporalDatatype? : Value → Option Datatype
  | .dateTime _ => some .dateTime
  | .date _ => some .date
  | .time _ => some .time
  | .duration _ => some .duration
  | .yearMonthDuration _ => some .yearMonthDuration
  | .dayTimeDuration _ => some .dayTimeDuration
  | _ => none

/-- No two datatypes have a point in time or a duration in common. -/
theorem Datatype.eq_of_parse? {d d' : Datatype} {lexical : String} {v : Value}
    (hparse : d.parse? lexical = some v) (hv : v.temporalDatatype? = some d') : d = d' := by
  cases d with
  | string =>
      cases hparse
      cases hv
  | boolean | float | double | decimal | integer =>
      obtain ⟨w, -, rfl⟩ := Option.map_eq_some_iff.mp hparse
      cases hv
  | dateTime | date | time | duration | yearMonthDuration | dayTimeDuration =>
      obtain ⟨w, -, rfl⟩ := Option.map_eq_some_iff.mp hparse
      exact Option.some.inj hv

/-- A literal that is decoded to a point in time or a duration is well-typed for the datatype of
that. -/
theorem Literal.isOf_of_value {l : Literal} {v : Value} {d : Datatype} (hvalue : l.value = v)
    (hv : v.temporalDatatype? = some d) : l.IsOf d := by
  unfold value at hvalue
  cases hdatatype : l.annotation with
  | language tag =>
      rw [hdatatype] at hvalue
      subst hvalue
      cases hv
  | datatype iri =>
      rw [hdatatype] at hvalue
      cases hdecoded : (Datatype.ofIri? iri).bind fun datatype => datatype.parse? l.lexical with
      | none =>
          simp only [hdecoded, Option.getD_none] at hvalue
          subst hvalue
          cases hv
      | some w =>
          simp only [hdecoded, Option.getD_some] at hvalue
          subst hvalue
          obtain ⟨d', hd', hparse⟩ := Option.bind_eq_some_iff.mp hdecoded
          obtain rfl := Datatype.eq_of_parse? hparse hv
          obtain rfl := Datatype.ofIri?_eq_some_iff.mp hd'
          exact ⟨hdatatype, w, hparse⟩

/-- The text of a literal that is decoded to a point in time or a duration is read as this. -/
theorem Literal.parse?_of_value {l : Literal} {v : Value} {d : Datatype} (hvalue : l.value = v)
    (hv : v.temporalDatatype? = some d) : d.parse? l.lexical = some v := by
  obtain ⟨hdatatype, w, hparse⟩ := Literal.isOf_of_value hvalue hv
  rw [hparse, ← hvalue, Literal.value_of_parse? hdatatype hparse]

/-! ## Durations -/

/-- A duration has no years, months and days: the letter that precedes hours, minutes and seconds
follows the sign and the opening letter. -/
def StartsWithClock (lexical : String) : Prop :=
  ['P', 'T'] <+: lexical.toList ∨ ['-', 'P', 'T'] <+: lexical.toList

/-- A point of a datatype takes a duration of a datatype that is written in a certain way. -/
def Datatype.Takes : Datatype → Datatype → String → Prop
  | .dateTime, _, _ => True
  | .date, span, lexical => span = .yearMonthDuration ∨ 'T' ∉ lexical.toList
  | .time, span, lexical => span ≠ .yearMonthDuration ∧ StartsWithClock lexical
  | _, _, _ => False

/-- A literal of a duration is written with the opening letter. -/
theorem Literal.IsOf.eq_opening {l : Literal} {d : Datatype} (h : l.IsOf d)
    (hd : d.isDuration = true) :
    ∃ negative body, l.lexical.toList = Duration.opening negative ++ body := by
  obtain ⟨-, v, hparse⟩ := h
  have hparts : ∃ parts, Duration.readParts? l.lexical.toList = some parts := by
    cases d with
    | duration | yearMonthDuration | dayTimeDuration =>
        obtain ⟨w, hw, -⟩ := Option.map_eq_some_iff.mp hparse
        obtain ⟨parts, hparts, -⟩ := Option.bind_eq_some_iff.mp hw
        exact ⟨parts, hparts⟩
    | _ => cases hd
  obtain ⟨parts, hparts⟩ := hparts
  obtain ⟨negative, body, -, -, htext, -⟩ := Duration.exists_fields_of_readParts? hparts
  exact ⟨negative, body, htext⟩

namespace TimePoint

/-- The datatype of a point, which is its sort. -/
def datatype : TimePoint → Datatype
  | .dateTime _ => .dateTime
  | .date _ => .date
  | .time _ => .time

theorem isDateTime_datatype (p : TimePoint) : p.datatype.isDateTime = true := by
  cases p <;> rfl

theorem annotation_toTerm (p : TimePoint) :
    ∃ l : Literal, p.toTerm = .literal l ∧ l.annotation = .datatype p.datatype.iri := by
  cases p with
  | dateTime v | date v | time v => exact ⟨_, rfl, rfl⟩

/-- Points have a difference exactly if they are of one sort. -/
theorem difference?_eq_none_iff {p q : TimePoint} :
    p.difference? q = none ↔ p.datatype ≠ q.datatype := by
  cases p <;> cases q <;> simp [difference?, datatype]

/-- A point keeps its sort when it is moved. -/
theorem datatype_of_move? {p q : TimePoint} {move : DateTime → Option DateTime}
    (h : p.move? move = some q) : q.datatype = p.datatype := by
  cases p with
  | dateTime v | date v | time v =>
      obtain ⟨w, -, rfl⟩ := Option.map_eq_some_iff.mp h
      rfl

end TimePoint

namespace TimeSpan

/-- The datatype of a duration. -/
def datatype : TimeSpan → Datatype
  | .duration _ => .duration
  | .yearMonth _ => .yearMonthDuration
  | .dayTime _ => .dayTimeDuration

theorem isDuration_datatype (s : TimeSpan) : s.datatype.isDuration = true := by
  cases s <;> rfl

end TimeSpan

namespace SpanOperand

variable {s : SpanOperand} {negative : Bool} {body : List Char}

theorem hasDayPart_eq_false_iff (h : s.lexical.toList = Duration.opening negative ++ body) :
    s.hasDayPart = false ↔ StartsWithClock s.lexical := by
  unfold hasDayPart StartsWithClock
  rw [h]
  cases negative <;> simp [Duration.opening]

/-- A duration suits a point exactly if points of the datatype take what is written. -/
theorem suits_iff (h : s.lexical.toList = Duration.opening negative ++ body) (p : TimePoint) :
    s.suits p = true ↔ p.datatype.Takes s.span.datatype s.lexical := by
  obtain ⟨span, lexical⟩ := s
  have hday := hasDayPart_eq_false_iff h
  cases p with
  | dateTime v => exact iff_of_true rfl trivial
  | date v =>
      cases span <;>
        simp [suits, Datatype.Takes, TimePoint.datatype, TimeSpan.datatype, hasClockPart]
  | time v =>
      cases span <;>
        simp [suits, Datatype.Takes, TimePoint.datatype, TimeSpan.datatype, hday]

end SpanOperand

/-! ## Operands -/

/-- A term is a point in time of a datatype. -/
def Term.IsPoint (t : Term) (d : Datatype) : Prop :=
  d.isDateTime = true ∧ ∃ l : Literal, t = .literal l ∧ l.IsOf d

/-- A term is a duration that points of a datatype take. -/
def Term.IsSpanFor (t : Term) (d : Datatype) : Prop :=
  ∃ (l : Literal) (span : Datatype), span.isDuration = true ∧ t = .literal l ∧ l.IsOf span ∧
    d.Takes span l.lexical

namespace TemporalOperand

/-- The literal of a point is decoded to it. -/
theorem exists_point {l : Literal} {d : Datatype} (hd : d.isDateTime = true) (h : l.IsOf d) :
    ∃ p : TimePoint, p.datatype = d ∧ ofTerm (.literal l) = .ok (.point p) := by
  obtain ⟨hdatatype, v, hparse⟩ := h
  have hvalue := Literal.value_of_parse? hdatatype hparse
  cases d with
  | dateTime =>
      obtain ⟨w, -, rfl⟩ := Option.map_eq_some_iff.mp hparse
      exact ⟨.dateTime w, rfl, by simp only [ofTerm, hvalue]⟩
  | date =>
      obtain ⟨w, -, rfl⟩ := Option.map_eq_some_iff.mp hparse
      exact ⟨.date w, rfl, by simp only [ofTerm, hvalue]⟩
  | time =>
      obtain ⟨w, -, rfl⟩ := Option.map_eq_some_iff.mp hparse
      exact ⟨.time w, rfl, by simp only [ofTerm, hvalue]⟩
  | _ => cases hd

/-- The literal of a duration is decoded to it, with the text. -/
theorem exists_span {l : Literal} {d : Datatype} (hd : d.isDuration = true) (h : l.IsOf d) :
    ∃ s : TimeSpan, s.datatype = d ∧ ofTerm (.literal l) = .ok (.span ⟨s, l.lexical⟩) := by
  obtain ⟨hdatatype, v, hparse⟩ := h
  have hvalue := Literal.value_of_parse? hdatatype hparse
  cases d with
  | duration =>
      obtain ⟨w, -, rfl⟩ := Option.map_eq_some_iff.mp hparse
      exact ⟨.duration w, rfl, by simp only [ofTerm, hvalue]⟩
  | yearMonthDuration =>
      obtain ⟨w, -, rfl⟩ := Option.map_eq_some_iff.mp hparse
      exact ⟨.yearMonth w, rfl, by simp only [ofTerm, hvalue]⟩
  | dayTimeDuration =>
      obtain ⟨w, -, rfl⟩ := Option.map_eq_some_iff.mp hparse
      exact ⟨.dayTime w, rfl, by simp only [ofTerm, hvalue]⟩
  | _ => cases hd

/-- The value of an operand. -/
def value : TemporalOperand → Value
  | .point (.dateTime v) => .dateTime v
  | .point (.date v) => .date v
  | .point (.time v) => .time v
  | .span ⟨.duration d, _⟩ => .duration d
  | .span ⟨.yearMonth d, _⟩ => .yearMonthDuration d
  | .span ⟨.dayTime d, _⟩ => .dayTimeDuration d

/-- The datatype of an operand. -/
def datatype : TemporalOperand → Datatype
  | .point p => p.datatype
  | .span s => s.span.datatype

theorem temporalDatatype?_value (x : TemporalOperand) :
    x.value.temporalDatatype? = some x.datatype := by
  rcases x with ⟨_ | _ | _⟩ | ⟨_ | _ | _, _⟩ <;> rfl

/-- What is decoded is the value of a literal, and a duration keeps the text. -/
theorem exists_literal {t : Term} {x : TemporalOperand} (h : ofTerm t = .ok x) :
    ∃ l : Literal, t = .literal l ∧ l.value = x.value ∧
      ∀ s, x = .span s → s.lexical = l.lexical := by
  cases t with
  | iri i => cases h
  | blank node => cases h
  | literal l =>
      cases hvalue : l.value with
      | dateTime w | date w | time w =>
          simp only [ofTerm, hvalue] at h
          obtain rfl := Except.ok.inj h
          exact ⟨l, rfl, hvalue, fun s hs => nomatch hs⟩
      | duration w | yearMonthDuration w | dayTimeDuration w =>
          simp only [ofTerm, hvalue] at h
          obtain rfl := Except.ok.inj h
          refine ⟨l, rfl, hvalue, fun s hs => ?_⟩
          obtain rfl := TemporalOperand.span.inj hs
          rfl
      | _ =>
          simp only [ofTerm, hvalue] at h
          cases h

/-- What is decoded is a literal of the datatype, and a duration keeps the text. -/
theorem isOf_of_ofTerm {t : Term} {x : TemporalOperand} (h : ofTerm t = .ok x) :
    ∃ l : Literal, t = .literal l ∧ l.IsOf x.datatype ∧
      ∀ s, x = .span s → s.lexical = l.lexical := by
  obtain ⟨l, rfl, hvalue, hlexical⟩ := exists_literal h
  exact ⟨l, rfl, Literal.isOf_of_value hvalue x.temporalDatatype?_value, hlexical⟩

/-- The text of what is decoded is read as its value. -/
theorem parse?_of_ofTerm {t : Term} {x : TemporalOperand} (h : ofTerm t = .ok x) :
    ∃ l : Literal, t = .literal l ∧ x.datatype.parse? l.lexical = some x.value ∧
      ∀ s, x = .span s → s.lexical = l.lexical := by
  obtain ⟨l, rfl, hvalue, hlexical⟩ := exists_literal h
  exact ⟨l, rfl, Literal.parse?_of_value hvalue x.temporalDatatype?_value, hlexical⟩

end TemporalOperand

open TemporalOperand (exists_point exists_span isOf_of_ofTerm)

/-- The points of a datatype are the terms that are decoded to one. -/
theorem Term.isPoint_iff {t : Term} {d : Datatype} :
    t.IsPoint d ↔
      ∃ p : TimePoint, p.datatype = d ∧ TemporalOperand.ofTerm t = .ok (.point p) := by
  constructor
  · rintro ⟨hd, l, rfl, hl⟩
    exact exists_point hd hl
  · rintro ⟨p, rfl, hp⟩
    obtain ⟨l, rfl, hl, -⟩ := isOf_of_ofTerm hp
    exact ⟨p.isDateTime_datatype, l, rfl, hl⟩

/-- The durations that a point takes are the terms that are decoded to one that suits it. -/
theorem Term.isSpanFor_iff {t : Term} {p : TimePoint} :
    t.IsSpanFor p.datatype ↔
      ∃ s : SpanOperand, s.suits p = true ∧ TemporalOperand.ofTerm t = .ok (.span s) := by
  constructor
  · rintro ⟨l, span, hspan, rfl, hl, htakes⟩
    obtain ⟨negative, body, hopening⟩ := hl.eq_opening hspan
    obtain ⟨s, rfl, hs⟩ := exists_span hspan hl
    exact ⟨⟨s, l.lexical⟩, (SpanOperand.suits_iff hopening p).mpr htakes, hs⟩
  · rintro ⟨s, hsuits, hs⟩
    obtain ⟨l, rfl, hl, hlexical⟩ := isOf_of_ofTerm hs
    have hspan := s.span.isDuration_datatype
    obtain ⟨negative, body, hopening⟩ := hl.eq_opening hspan
    rw [← hlexical s rfl] at hopening
    refine ⟨l, s.span.datatype, hspan, rfl, hl, ?_⟩
    rw [← hlexical s rfl]
    exact (SpanOperand.suits_iff hopening p).mp hsuits

/-- Every duration suits a point with date and time. -/
theorem Term.isSpanFor_dateTime {t : Term} {s : SpanOperand}
    (h : TemporalOperand.ofTerm t = .ok (.span s)) : t.IsSpanFor .dateTime := by
  obtain ⟨l, rfl, hl, -⟩ := isOf_of_ofTerm h
  exact ⟨l, s.span.datatype, s.span.isDuration_datatype, rfl, hl, trivial⟩

/-- No term is both. -/
theorem Term.IsPoint.not_isSpanFor {t : Term} {d : Datatype} {p : TimePoint} (h : t.IsPoint d) :
    ¬ t.IsSpanFor p.datatype := by
  rw [isSpanFor_iff]
  rintro ⟨s, -, hs⟩
  obtain ⟨q, -, hq⟩ := isPoint_iff.mp h
  exact nomatch hq.symm.trans hs

/-! ## Steps -/

/-- A run gives a point of a datatype unless it leaves the calendar. -/
def GivesPoint (run : EvalResult TemporalOperand) (d : Datatype) : Prop :=
  (∃ p : TimePoint, p.datatype = d ∧ run = .ok (.point p)) ∨ run = evaluationError .shiftOverflow

theorem shiftPoint_of_suits {p : TimePoint} {s : SpanOperand} (h : s.suits p = true)
    (op : AdditiveOperator) : GivesPoint ((shiftPoint p op s).map .point) p.datatype := by
  unfold shiftPoint
  rw [if_pos h]
  cases hmove : p.move? (s.span.shift? op) with
  | some q => exact Or.inl ⟨q, TimePoint.datatype_of_move? hmove, rfl⟩
  | none => exact Or.inr rfl

theorem shiftPoint_of_not_suits {p : TimePoint} {s : SpanOperand} (h : ¬ s.suits p = true)
    (op : AdditiveOperator) :
    shiftPoint p op s = evaluationError .incompatibleTemporalOperation :=
  if_neg h

section Steps

variable {t : Term} {op : AdditiveOperator} {p : TimePoint} {x : TemporalOperand}

theorem temporalStep_span (p : TimePoint) (op : AdditiveOperator) (s : SpanOperand) :
    temporalStep (.point p) op (.span s) = (shiftPoint p op s).map .point := by
  cases op <;> rfl

/-- **ONE STEP**: a duration that a point takes leads to a point of its sort. -/
theorem pointStep_of_span (op : AdditiveOperator) (h : t.IsSpanFor p.datatype) :
    GivesPoint (TemporalOperand.ofTerm t >>= temporalStep (.point p) op) p.datatype := by
  obtain ⟨s, hsuits, hs⟩ := Term.isSpanFor_iff.mp h
  have hstep : TemporalOperand.ofTerm t >>= temporalStep (.point p) op =
      (shiftPoint p op s).map .point := by
    rw [hs]
    exact temporalStep_span p op s
  rw [hstep]
  exact shiftPoint_of_suits hsuits op

/-- No other operand leads anywhere from a point. -/
theorem span_of_pointStep
    (h : TemporalOperand.ofTerm t >>= temporalStep (.point p) op = .ok x) :
    t.IsSpanFor p.datatype := by
  obtain ⟨next, hterm, hstep⟩ := EvalResult.exists_of_bind_eq_ok h
  cases next with
  | point q =>
      -- the difference of two points is no step
      unfold temporalStep at hstep
      cases op with
      | add => cases hstep
      | subtract =>
          dsimp only at hstep
          split at hstep <;> cases hstep
  | span s =>
      refine Term.isSpanFor_iff.mpr ⟨s, ?_, hterm⟩
      by_cases hsuits : s.suits p = true
      · exact hsuits
      · rw [temporalStep_span, shiftPoint_of_not_suits hsuits] at hstep
        cases hstep

/-- A point with date and time is added to a duration. -/
theorem spanStep_of_point (s : SpanOperand) (h : t.IsPoint .dateTime) :
    GivesPoint (TemporalOperand.ofTerm t >>= temporalStep (.span s) .add) .dateTime := by
  obtain ⟨q, hq, hterm⟩ := Term.isPoint_iff.mp h
  rw [hterm]
  cases q with
  | dateTime v =>
      have hsuits : s.suits (.dateTime v) = true := rfl
      exact shiftPoint_of_suits hsuits .add
  | date v => cases hq
  | time v => cases hq

/-- No other operand leads anywhere from a duration. -/
theorem point_of_spanStep {s : SpanOperand}
    (h : TemporalOperand.ofTerm t >>= temporalStep (.span s) op = .ok x) :
    op = .add ∧ t.IsPoint .dateTime := by
  obtain ⟨next, hterm, hstep⟩ := EvalResult.exists_of_bind_eq_ok h
  cases next with
  | span s' => cases op <;> cases hstep
  | point q =>
      cases op with
      | subtract => cases hstep
      | add =>
          cases q with
          | dateTime v => exact ⟨rfl, Term.isPoint_iff.mpr ⟨.dateTime v, rfl, hterm⟩⟩
          | date v => cases hstep
          | time v => cases hstep

end Steps

/-! ## Runs -/

theorem temporalSteps_cons (current : TemporalOperand) (op : AdditiveOperator) (t : Term)
    (rest : List (AdditiveOperator × Term)) :
    temporalSteps current ((op, t) :: rest) =
      TemporalOperand.ofTerm t >>= temporalStep current op >>=
        fun moved => temporalSteps moved rest :=
  (bind_assoc _ _ _).symm

/-- A run goes on from what a step gives. -/
theorem GivesPoint.bind {run : EvalResult TemporalOperand} {d : Datatype}
    {next : TemporalOperand → EvalResult TemporalOperand} (h : GivesPoint run d)
    (hnext : ∀ p : TimePoint, p.datatype = d → GivesPoint (next (.point p)) d) :
    GivesPoint (run >>= next) d := by
  rcases h with ⟨p, hp, rfl⟩ | rfl
  · exact hnext p hp
  · exact Or.inr rfl

/-- **RUNS**: durations that a point takes lead to a point of its sort. -/
theorem temporalSteps_of_spans {rest : List (AdditiveOperator × Term)} {p : TimePoint}
    (h : ∀ pair ∈ rest, pair.2.IsSpanFor p.datatype) :
    GivesPoint (temporalSteps (.point p) rest) p.datatype := by
  induction rest generalizing p with
  | nil => exact Or.inl ⟨p, rfl, rfl⟩
  | cons pair rest ih =>
      obtain ⟨op, t⟩ := pair
      obtain ⟨hspan, hrest⟩ := List.forall_mem_cons.mp h
      rw [temporalSteps_cons]
      refine (pointStep_of_span op hspan).bind fun q hq => ?_
      rw [← hq] at hrest ⊢
      exact ih hrest

/-- A run that leads anywhere from a point has no other operands. -/
theorem spans_of_temporalSteps {rest : List (AdditiveOperator × Term)} {p : TimePoint}
    {x : TemporalOperand} (h : temporalSteps (.point p) rest = .ok x) :
    ∀ pair ∈ rest, pair.2.IsSpanFor p.datatype := by
  induction rest generalizing p with
  | nil => exact List.forall_mem_nil _
  | cons pair rest ih =>
      obtain ⟨op, t⟩ := pair
      rw [temporalSteps_cons] at h
      obtain ⟨moved, hmoved, hrun⟩ := EvalResult.exists_of_bind_eq_ok h
      have hspan := span_of_pointStep hmoved
      refine List.forall_mem_cons.mpr ⟨hspan, ?_⟩
      rcases pointStep_of_span op hspan with ⟨q, hq, hok⟩ | hoverflow
      · obtain rfl := Except.ok.inj (hmoved.symm.trans hok)
        rw [← hq]
        exact ih hrun
      · exact nomatch hmoved.symm.trans hoverflow

/-! ## Chains -/

section Chains

variable {first second : Term} {rest : List (AdditiveOperator × Term)} {p q : TimePoint}
  {s : SpanOperand}

theorem temporalChain_difference (hp : TemporalOperand.ofTerm first = .ok (.point p))
    (hq : TemporalOperand.ofTerm second = .ok (.point q)) :
    temporalChain first [(.subtract, second)] = differenceTerm p q := by
  unfold temporalChain
  rw [List.isEmpty_cons, hp]
  show (TemporalOperand.ofTerm second >>= fun next => _) = _
  rw [hq]
  rfl

theorem temporalChain_span (hrest : rest ≠ [])
    (hs : TemporalOperand.ofTerm first = .ok (.span s)) :
    temporalChain first rest = temporalSteps (.span s) rest >>= TemporalOperand.toTerm := by
  unfold temporalChain
  rw [if_neg (mt List.isEmpty_iff.mp hrest), hs]
  rfl

/-- A chain from a point is a run unless another point is subtracted and nothing follows. -/
theorem temporalChain_point (hrest : rest ≠ [])
    (hp : TemporalOperand.ofTerm first = .ok (.point p))
    (h : ∀ second d, rest = [(.subtract, second)] → ¬ second.IsPoint d) :
    temporalChain first rest = temporalSteps (.point p) rest >>= TemporalOperand.toTerm := by
  unfold temporalChain
  rw [if_neg (mt List.isEmpty_iff.mp hrest), hp]
  match rest with
  | [] => exact absurd rfl hrest
  | (.add, t) :: more => rfl
  | (.subtract, t) :: pair :: more => rfl
  | [(.subtract, t)] =>
      show (TemporalOperand.ofTerm t >>= fun next => _) = _
      cases hterm : TemporalOperand.ofTerm t with
      | error e =>
          rw [temporalSteps_cons, hterm]
          rfl
      | ok next =>
          cases next with
          | point q =>
              exact absurd (Term.isPoint_iff.mpr ⟨q, rfl, hterm⟩) (h t q.datatype rfl)
          | span s =>
              have hlast : temporalSteps (.point p) [(.subtract, t)] =
                  temporalStep (.point p) .subtract (.span s) >>= pure := by
                rw [temporalSteps_cons, hterm]
                rfl
              rw [hlast, bind_pure]
              rfl

end Chains

/-! ## Shapes -/

/-- One point less another one of its sort, and nothing else. -/
inductive IsDifference : Term → List (AdditiveOperator × Term) → Prop where
  | mk {first second : Term} {d : Datatype} (hfirst : first.IsPoint d)
      (hsecond : second.IsPoint d) : IsDifference first [(.subtract, second)]

/-- One point of a datatype and durations that it takes.  The point stands first, or it has date and
time and is added to a duration that stands first. -/
inductive IsShift : Datatype → Term → List (AdditiveOperator × Term) → Prop where
  | pointFirst {d : Datatype} {point : Term} {rest : List (AdditiveOperator × Term)}
      (hpoint : point.IsPoint d) (hspans : ∀ pair ∈ rest, pair.2.IsSpanFor d) :
      IsShift d point rest
  | pointSecond {span point : Term} {rest : List (AdditiveOperator × Term)}
      (hspan : span.IsSpanFor .dateTime) (hpoint : point.IsPoint .dateTime)
      (hspans : ∀ pair ∈ rest, pair.2.IsSpanFor .dateTime) :
      IsShift .dateTime span ((.add, point) :: rest)

section Shapes

variable {first t : Term} {rest : List (AdditiveOperator × Term)} {d : Datatype} {p q : TimePoint}

theorem differenceTerm_of_datatype (h : p.datatype = q.datatype) :
    (∃ duration : Duration, differenceTerm p q = .ok (Value.duration duration).toTerm) ∨
      differenceTerm p q = evaluationError .differenceOverflow := by
  unfold differenceTerm
  cases hdifference : p.difference? q with
  | none => exact absurd h (TimePoint.difference?_eq_none_iff.mp hdifference)
  | some seconds =>
      cases seconds with
      | none => exact Or.inr rfl
      | some seconds => exact Or.inl ⟨_, rfl⟩

theorem datatype_of_differenceTerm (h : differenceTerm p q = .ok t) : p.datatype = q.datatype := by
  by_cases hdatatype : p.datatype = q.datatype
  · exact hdatatype
  · unfold differenceTerm at h
    rw [TimePoint.difference?_eq_none_iff.mpr hdatatype] at h
    cases h

/-- **DIFFERENCES** are durations or overflow, as they also do where just one point has a zone. -/
theorem temporalChain_of_isDifference (h : IsDifference first rest) :
    (∃ duration : Duration, temporalChain first rest = .ok (Value.duration duration).toTerm) ∨
      temporalChain first rest = evaluationError .differenceOverflow := by
  obtain ⟨hfirst, hsecond⟩ := h
  obtain ⟨p, hp, hpterm⟩ := Term.isPoint_iff.mp hfirst
  obtain ⟨q, hq, hqterm⟩ := Term.isPoint_iff.mp hsecond
  rw [temporalChain_difference hpterm hqterm]
  exact differenceTerm_of_datatype (hp.trans hq.symm)

theorem GivesPoint.toTerm {run : EvalResult TemporalOperand} (h : GivesPoint run d) :
    (∃ l : Literal, run >>= TemporalOperand.toTerm = .ok (.literal l) ∧
        l.annotation = .datatype d.iri) ∨
      run >>= TemporalOperand.toTerm = evaluationError .shiftOverflow := by
  rcases h with ⟨p, rfl, rfl⟩ | rfl
  · obtain ⟨l, hl, hdatatype⟩ := p.annotation_toTerm
    exact Or.inl ⟨l, congrArg Except.ok hl, hdatatype⟩
  · exact Or.inr rfl

/-- **SHIFTS** are points of the same sort or overflow. -/
theorem temporalChain_of_isShift (hrest : rest ≠ []) (h : IsShift d first rest) :
    (∃ l : Literal, temporalChain first rest = .ok (.literal l) ∧
        l.annotation = .datatype d.iri) ∨
      temporalChain first rest = evaluationError .shiftOverflow := by
  cases h with
  | pointFirst hpoint hspans =>
      obtain ⟨p, rfl, hp⟩ := Term.isPoint_iff.mp hpoint
      have hnoPoint : ∀ second d, rest = [(.subtract, second)] → ¬ second.IsPoint d := by
        rintro second d rfl hsecond
        exact hsecond.not_isSpanFor (hspans _ List.mem_cons_self)
      rw [temporalChain_point hrest hp hnoPoint]
      exact (temporalSteps_of_spans hspans).toTerm
  | pointSecond hspan hpoint hspans =>
      obtain ⟨l, span, hduration, rfl, hl, -⟩ := hspan
      obtain ⟨s, -, hs⟩ := exists_span hduration hl
      rw [temporalChain_span hrest hs, temporalSteps_cons]
      refine ((spanStep_of_point _ hpoint).bind fun q hq => ?_).toTerm
      rw [← hq] at hspans ⊢
      exact temporalSteps_of_spans hspans

/-- A chain with a result that starts with a point is a difference or a shift of that point. -/
theorem shape_of_point (hrest : rest ≠ []) (hp : TemporalOperand.ofTerm first = .ok (.point p))
    (h : temporalChain first rest = .ok t) :
    IsDifference first rest ∨ IsShift p.datatype first rest := by
  have hpoint : first.IsPoint p.datatype := Term.isPoint_iff.mpr ⟨p, rfl, hp⟩
  by_cases hsecond : ∃ second d, rest = [(.subtract, second)] ∧ second.IsPoint d
  · obtain ⟨second, d, rfl, hsecond⟩ := hsecond
    obtain ⟨q, rfl, hq⟩ := Term.isPoint_iff.mp hsecond
    rw [temporalChain_difference hp hq] at h
    rw [← datatype_of_differenceTerm h] at hsecond
    exact Or.inl ⟨hpoint, hsecond⟩
  · have hnoPoint : ∀ second d, rest = [(.subtract, second)] → ¬ second.IsPoint d :=
      fun second d heq hpoint => hsecond ⟨second, d, heq, hpoint⟩
    rw [temporalChain_point hrest hp hnoPoint] at h
    obtain ⟨x, hsteps, -⟩ := EvalResult.exists_of_bind_eq_ok h
    exact Or.inr (.pointFirst hpoint (spans_of_temporalSteps hsteps))

/-- A chain with a result that starts with a duration is a shift of its second operand. -/
theorem shape_of_span {s : SpanOperand} (hrest : rest ≠ [])
    (hs : TemporalOperand.ofTerm first = .ok (.span s)) (h : temporalChain first rest = .ok t) :
    IsShift .dateTime first rest := by
  rw [temporalChain_span hrest hs] at h
  obtain ⟨x, hsteps, -⟩ := EvalResult.exists_of_bind_eq_ok h
  obtain ⟨⟨op, second⟩, more, rfl⟩ := List.exists_cons_of_ne_nil hrest
  rw [temporalSteps_cons] at hsteps
  obtain ⟨moved, hmoved, hrun⟩ := EvalResult.exists_of_bind_eq_ok hsteps
  obtain ⟨rfl, hsecond⟩ := point_of_spanStep hmoved
  rcases spanStep_of_point s hsecond with ⟨q, hq, hok⟩ | hoverflow
  · obtain rfl := Except.ok.inj (hmoved.symm.trans hok)
    have hspans := spans_of_temporalSteps hrun
    rw [hq] at hspans
    exact .pointSecond (Term.isSpanFor_dateTime hs) hsecond hspans
  · exact nomatch hmoved.symm.trans hoverflow

/-- A chain with a result has one of the two shapes. -/
theorem isDifference_or_isShift_of_ok (hrest : rest ≠ [])
    (h : temporalChain first rest = .ok t) :
    IsDifference first rest ∨ ∃ d, IsShift d first rest := by
  have hstart : ∃ start, TemporalOperand.ofTerm first = .ok start := by
    unfold temporalChain at h
    rw [if_neg (mt List.isEmpty_iff.mp hrest)] at h
    obtain ⟨start, hstart, -⟩ := EvalResult.exists_of_bind_eq_ok h
    exact ⟨start, hstart⟩
  obtain ⟨start, hstart⟩ := hstart
  cases start with
  | point p => exact (shape_of_point hrest hstart h).imp_right fun hshift => ⟨_, hshift⟩
  | span s => exact Or.inr ⟨_, shape_of_span hrest hstart h⟩

/-- **TEMPORAL CHAINS HAVE TWO SHAPES**: a difference is a duration, a shift is a point of the sort
of its point, and nothing else has a result.  Differences and shifts fail only by an overflow. -/
theorem temporalChain_shape (first : Term) (rest : List (AdditiveOperator × Term))
    (hrest : rest ≠ []) :
    (IsDifference first rest →
        (∃ l : Literal, temporalChain first rest = .ok (.literal l) ∧
            l.annotation = .datatype Datatype.duration.iri) ∨
          temporalChain first rest = evaluationError .differenceOverflow) ∧
      (∀ d, IsShift d first rest →
        (∃ l : Literal, temporalChain first rest = .ok (.literal l) ∧
            l.annotation = .datatype d.iri) ∨
          temporalChain first rest = evaluationError .shiftOverflow) ∧
      (¬ IsDifference first rest → (∀ d, ¬ IsShift d first rest) →
        ∃ e, temporalChain first rest = .error e) ∧
      EvaluationCause.differenceOverflow.message = "date/time difference overflows" ∧
      EvaluationCause.shiftOverflow.message = "date/time arithmetic overflows" := by
  refine ⟨fun hdifference => ?_, fun d => temporalChain_of_isShift hrest, fun hnot hnone => ?_,
    rfl, rfl⟩
  · rcases temporalChain_of_isDifference hdifference with ⟨duration, hok⟩ | hoverflow
    · exact Or.inl ⟨_, hok, rfl⟩
    · exact Or.inr hoverflow
  · cases hrun : temporalChain first rest with
    | error e => exact ⟨e, rfl⟩
    | ok t =>
        rcases isDifference_or_isShift_of_ok hrest hrun with hdifference | ⟨d, hshift⟩
        · exact absurd hdifference hnot
        · exact absurd hshift (hnone d)

/-- A day and a date and time, less an hour, is a date and time, and the date and time less itself is
a duration. -/
theorem temporalChain_shape_on_leap_day :
    let day := Term.literal (Literal.typed "P1D" Datatype.dayTimeDuration.iri)
    let noon := Term.literal (Literal.typed "2020-02-28T12:00:00Z" Datatype.dateTime.iri)
    let hour := Term.literal (Literal.typed "PT1H" Datatype.duration.iri)
    let shift := [(AdditiveOperator.add, noon), (AdditiveOperator.subtract, hour)]
    let difference := [(AdditiveOperator.subtract, noon)]
    (shift ≠ [] ∧ IsShift .dateTime day shift ∧
        ∃ l : Literal, temporalChain day shift = .ok (.literal l) ∧
          l.annotation = .datatype Datatype.dateTime.iri) ∧
      (difference ≠ [] ∧ IsDifference noon difference ∧
        ∃ l : Literal, temporalChain noon difference = .ok (.literal l) ∧
          l.annotation = .datatype Datatype.duration.iri) := by
  intro day noon hour shift difference
  have hnoon : noon.IsPoint .dateTime := ⟨rfl, _, rfl, rfl, _, rfl⟩
  have hday : day.IsSpanFor .dateTime := ⟨_, .dayTimeDuration, rfl, rfl, ⟨rfl, _, rfl⟩, trivial⟩
  have hhour : hour.IsSpanFor .dateTime := ⟨_, .duration, rfl, rfl, ⟨rfl, _, rfl⟩, trivial⟩
  have hshift : IsShift .dateTime day shift :=
    .pointSecond hday hnoon (List.forall_mem_cons.mpr ⟨hhour, List.forall_mem_nil _⟩)
  have hdifference : IsDifference noon difference := ⟨hnoon, hnoon⟩
  have hshiftSteps : shift ≠ [] := List.cons_ne_nil _ _
  have hdifferenceSteps : difference ≠ [] := List.cons_ne_nil _ _
  obtain ⟨-, hpoint, -⟩ := temporalChain_shape day shift hshiftSteps
  obtain ⟨hduration, -⟩ := temporalChain_shape noon difference hdifferenceSteps
  refine ⟨⟨hshiftSteps, hshift, ?_⟩, hdifferenceSteps, hdifference, ?_⟩
  · rcases hpoint _ hshift with hok | hoverflow
    · exact hok
    · have hrun : temporalChain day shift =
          .ok (.literal (Literal.typed "2020-02-29T11:00:00Z" Datatype.dateTime.iri)) := rfl
      exact nomatch hrun.symm.trans hoverflow
  · rcases hduration hdifference with hok | hoverflow
    · exact hok
    · have hrun : temporalChain noon difference =
          .ok (.literal (Literal.typed "PT0S" Datatype.duration.iri)) := rfl
      exact nomatch hrun.symm.trans hoverflow

end Shapes

end SparqlScalar
