import SparqlScalar.Operator.Symbol
import SparqlScalar.Term.Operand

/-!
# Arithmetic with points in time

A chain of additions and subtractions that starts with a point in time or a duration. Two points
of one sort have a difference, if the chain ends there. A point is moved by durations that suit
its sort, which for dates and times is judged by how the duration is written: a date takes no
letter `T`, and a time nothing before it.
-/

namespace SparqlScalar

/-- A point in time of one of three sorts. -/
inductive TimePoint where
  | dateTime (value : DateTime)
  | date (value : Date)
  | time (value : Time)
deriving DecidableEq

/-- A duration of one of three kinds. -/
inductive TimeSpan where
  | duration (value : Duration)
  | yearMonth (value : YearMonthDuration)
  | dayTime (value : DayTimeDuration)
deriving DecidableEq

/-- A duration with the text it was written in. -/
structure SpanOperand where
  span : TimeSpan
  lexical : String
deriving DecidableEq

/-- An operand of the arithmetic. -/
inductive TemporalOperand where
  | point (value : TimePoint)
  | span (value : SpanOperand)
deriving DecidableEq

namespace TimePoint

/-- The term of a point. -/
def toTerm : TimePoint → Term
  | .dateTime value => (Value.dateTime value).toTerm
  | .date value => (Value.date value).toTerm
  | .time value => (Value.time value).toTerm

/-- The seconds between two points of one sort, where they can be told; nothing for two sorts. -/
def difference? : TimePoint → TimePoint → Option (Option Decimal)
  | .dateTime a, .dateTime b => some (a.instant.difference? b.instant)
  | .date a, .date b => some (a.instant.difference? b.instant)
  | .time a, .time b => some (a.instant.difference? b.instant)
  | _, _ => none

/-- Moves a point as a date-time and brings it back to its sort. -/
def move? (p : TimePoint) (move : DateTime → Option DateTime) : Option TimePoint :=
  match p with
  | .dateTime value => (move value).map .dateTime
  | .date value => (value.shift? move).map .date
  | .time value => (value.shift? move).map .time

end TimePoint

namespace TimeSpan

/-- The date-time that lies the duration later or earlier. -/
def shift? (s : TimeSpan) (op : AdditiveOperator) (v : DateTime) : Option DateTime :=
  match op, s with
  | .add, .duration d => v.addDuration? d
  | .add, .yearMonth d => v.addDuration? d.toDuration
  | .add, .dayTime d => v.addDayTime? d
  | .subtract, .duration d => v.subDuration? d
  | .subtract, .yearMonth d => v.subDuration? d.toDuration
  | .subtract, .dayTime d => v.subDayTime? d

end TimeSpan

namespace SpanOperand

/-- The text has the letter that precedes hours, minutes and seconds. -/
def hasClockPart (s : SpanOperand) : Bool := s.lexical.toList.contains 'T'

/-- The text does not go straight to that letter. -/
def hasDayPart (s : SpanOperand) : Bool :=
  !(List.isPrefixOf ['P', 'T'] (s.lexical.toList.dropWhile (· = '-')))

/-- Whether a point takes the duration. -/
def suits (s : SpanOperand) (p : TimePoint) : Bool :=
  match p, s.span with
  | .dateTime _, _ => true
  | .date _, .yearMonth _ => true
  | .date _, _ => !s.hasClockPart
  | .time _, .yearMonth _ => false
  | .time _, _ => !s.hasDayPart

end SpanOperand

namespace TemporalOperand

/-- The operand a term stands for. -/
def ofTerm (t : Term) : EvalResult TemporalOperand :=
  match t with
  | .literal l =>
    match l.value with
    | .dateTime value => .ok (.point (.dateTime value))
    | .date value => .ok (.point (.date value))
    | .time value => .ok (.point (.time value))
    | .duration value => .ok (.span ⟨.duration value, l.lexical⟩)
    | .yearMonthDuration value => .ok (.span ⟨.yearMonth value, l.lexical⟩)
    | .dayTimeDuration value => .ok (.span ⟨.dayTime value, l.lexical⟩)
    | _ => evaluationError .incompatibleTemporalOperation
  | _ => evaluationError .incompatibleTemporalOperation

end TemporalOperand

/-- Whether the datatype of a term makes a sum that starts with it one of points in time. -/
def Term.isTemporal : Term → Bool
  | .literal l => l.datatype?.any fun d => d.isDateTime || d.isDuration
  | _ => false

/-- Moves a point by a duration that suits it. -/
def shiftPoint (p : TimePoint) (op : AdditiveOperator) (s : SpanOperand) : EvalResult TimePoint :=
  if s.suits p then EvalResult.ofOption .shiftOverflow (p.move? (s.span.shift? op))
  else evaluationError .incompatibleTemporalOperation

/-- One step of a chain that does not end in a difference. -/
def temporalStep (current : TemporalOperand) (op : AdditiveOperator) (next : TemporalOperand) :
    EvalResult TemporalOperand :=
  match current, op, next with
  | .point p, .subtract, .point q =>
    match p.difference? q with
    | some _ => evaluationError .repeatedDifference
    | none => evaluationError .incompatibleTemporalOperation
  | .point p, op, .span s => (shiftPoint p op s).map .point
  | .span s, .add, .point (.dateTime v) => (shiftPoint (.dateTime v) .add s).map .point
  | _, _, _ => evaluationError .incompatibleTemporalOperation

/-- The steps of a chain from left to right. -/
def temporalSteps (current : TemporalOperand) :
    List (AdditiveOperator × Term) → EvalResult TemporalOperand
  | [] => .ok current
  | (op, term) :: rest => do
    let next ← TemporalOperand.ofTerm term
    let moved ← temporalStep current op next
    temporalSteps moved rest

/-- The difference of two points as a term. -/
def differenceTerm (p q : TimePoint) : EvalResult Term := do
  let difference ← EvalResult.ofOption .incompatibleTemporalOperation (p.difference? q)
  let seconds ← EvalResult.ofOption .differenceOverflow difference
  return (Value.duration (DayTimeDuration.mk seconds).toDuration).toTerm

/-- The result of a chain, which must not be a duration. -/
def TemporalOperand.toTerm : TemporalOperand → EvalResult Term
  | .point p => .ok p.toTerm
  | .span _ => evaluationError .incompatibleTemporalOperation

/-- A chain that starts with a point in time or a duration. A chain of one operand is that
operand. -/
def temporalChain (first : Term) (rest : List (AdditiveOperator × Term)) : EvalResult Term := do
  if rest.isEmpty then return first
  let start ← TemporalOperand.ofTerm first
  match start, rest with
  | .point p, [(.subtract, term)] =>
    match ← TemporalOperand.ofTerm term with
    | .point q => differenceTerm p q
    | next => (← temporalStep start .subtract next).toTerm
  | _, _ => (← temporalSteps start rest).toTerm

end SparqlScalar
