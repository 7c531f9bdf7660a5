import SparqlScalar.Operator.Symbol
import SparqlScalar.Term.Basic
import SparqlScalar.Text.Shown

/-!
# Errors

An error of an evaluation is a cause: an operand of the wrong sort, an operation without a result,
a wrong number of arguments, an unbound variable, or an expression nested too deeply. The wording
of each cause is in `TypeCause.message`, `EvaluationCause.message` and `EvalError.message`.
-/

namespace SparqlScalar

/-- Why an operand has the wrong sort. -/
inductive TypeCause where
  | notLiteral (term : Term)
  | notNumeric (term : Term)
  | notString (term : Term)
  | notBoolean (term : Term)
  | notDate (term : Term)
  | notDateTime (term : Term)
  | notIri (term : Term)
  | simpleLiteralExpected
  | stringLiteralExpected
  | incompatibleTags (left right : Option String)
  | noTruthValue (term : Term)
  | literalsRequired (operator : ComparisonOperator) (left right : Term)
  | notComparable (left right : Term)
  | equalityUndecided (left right : Term)
  | blankNodeHasNoText (term : Term)
  | iriOrStringExpected
  | blankNodeNeedsLiteral
  /-- A cause given by a custom function. -/
  | custom (text : String)
deriving DecidableEq

namespace TypeCause

/-- The tag, or what stands for its absence. -/
def tagText (tag : Option String) : String := tag.getD "(none)"

def message : TypeCause → String
  | .notLiteral term => term.display ++ " is not a literal"
  | .notNumeric term => term.display ++ " is not a numeric literal"
  | .notString term => term.display ++ " is not a string literal"
  | .notBoolean term => term.display ++ " is not a boolean literal"
  | .notDate term => term.display ++ " is not a date literal"
  | .notDateTime term => term.display ++ " is not a dateTime literal"
  | .notIri term => term.display ++ " is not an IRI"
  | .simpleLiteralExpected => "expected a simple literal"
  | .stringLiteralExpected => "expected a string literal"
  | .incompatibleTags left right =>
    "incompatible string arguments: language " ++ tagText left ++ " and " ++ tagText right
  | .noTruthValue term => term.display ++ " has no effective boolean value"
  | .literalsRequired operator left right =>
    "operator " ++ operator.symbol ++ " requires literals, got " ++ left.display ++ " and "
      ++ right.display
  | .notComparable left right => left.display ++ " and " ++ right.display ++ " are not comparable"
  | .equalityUndecided left right =>
    "cannot decide whether " ++ left.display ++ " and " ++ right.display ++ " are equal"
  | .blankNodeHasNoText term => "STR is not defined for blank node " ++ term.display
  | .iriOrStringExpected => "IRI expects an IRI or a string literal"
  | .blankNodeNeedsLiteral => "BNODE expects a literal"
  | .custom text => text

end TypeCause

/-- Why an operation has no result for operands of the right sort. -/
inductive EvaluationCause where
  /-- A text is not written in the form asked for. -/
  | malformed
  /-- A value lies outside the range of the target. -/
  | outOfRange
  | operatorUndefined (operator : ComparisonOperator) (left right : Term)
  | castNeedsLiteral (term : Term) (target : Iri)
  | castFromUnknownDatatype (datatype : Iri)
  | castImpossible (literal : Literal) (target : Iri)
  | castFromBlankNode (term : Term)
  | castWithoutArgument
  | castWithManyArguments
  | numericOverflow
  | divideByZero
  | incompatibleTemporalOperation
  | repeatedDifference
  | differenceOverflow
  | shiftOverflow
  | noTimezone (dateTime : String)
  | nothingToCoalesce
  | noPatternEvaluator
  /-- A pattern is not written as one or takes too much memory; which of the two is not told. -/
  | invalidPattern (pattern : String)
  | unknownFunction (iri : Iri)
  | unsupportedUnaryArguments
  | unsupportedBinaryArguments
  /-- A cause given by a custom function or a pattern. -/
  | custom (text : String)
deriving DecidableEq

namespace EvaluationCause

def message : EvaluationCause → String
  | .malformed => "the text is not well-formed"
  | .outOfRange => "the value is out of range"
  | .operatorUndefined operator left right =>
    "operator " ++ operator.symbol ++ " is not defined for " ++ left.display ++ " and "
      ++ right.display
  | .castNeedsLiteral term target =>
    "cannot cast " ++ term.display ++ " to " ++ target.display
      ++ ", only literals can be cast to non-string datatypes"
  | .castFromUnknownDatatype datatype =>
    "cannot cast literal with unknown datatype " ++ datatype.display
  | .castImpossible literal target =>
    "cannot cast " ++ literal.display ++ " to " ++ target.display
  | .castFromBlankNode term => "cannot cast " ++ term.display ++ " to a string"
  | .castWithoutArgument => "nothing given to cast"
  | .castWithManyArguments => "cannot cast more than one thing"
  | .numericOverflow => "numeric overflow"
  | .divideByZero => "divide by zero"
  | .incompatibleTemporalOperation => "incompatible datetime operation"
  | .repeatedDifference => "cannot subtract more than two date/time values"
  | .differenceOverflow => "date/time difference overflows"
  | .shiftOverflow => "date/time arithmetic overflows"
  | .noTimezone dateTime => dateTime ++ " has no timezone"
  | .nothingToCoalesce => "no argument of COALESCE has a value"
  | .noPatternEvaluator => "EXISTS requires a pattern evaluator"
  | .invalidPattern pattern =>
    "invalid pattern " ++ Shown.quote pattern ++ ": it is not well-formed or too large"
  | .unknownFunction iri => "unknown function " ++ iri.display
  | .unsupportedUnaryArguments => "unsupported argument list for unary function"
  | .unsupportedBinaryArguments => "unsupported argument list for binary function"
  | .custom text => text

end EvaluationCause

/-- An error raised while an expression is evaluated. -/
inductive EvalError where
  | type (cause : TypeCause)
  | evaluation (cause : EvaluationCause)
  | arity (function expected : String) (actual : Nat)
  | unbound (name : String)
  | depthLimitExceeded (limit : Nat)
deriving DecidableEq

/-- The coarse classes of errors. -/
inductive ErrorKind where
  | type
  | evaluation
  | arity
deriving DecidableEq

def ErrorKind.name : ErrorKind → String
  | .type => "TypeError"
  | .evaluation => "EvaluationError"
  | .arity => "ArityError"

namespace EvalError

def kind : EvalError → ErrorKind
  | .type _ => .type
  | .unbound _ => .type
  | .evaluation _ => .evaluation
  | .depthLimitExceeded _ => .evaluation
  | .arity _ _ _ => .arity

def message : EvalError → String
  | .type cause => "type error: " ++ cause.message
  | .evaluation cause => "evaluation error: " ++ cause.message
  | .arity function expected actual =>
    function ++ " expects " ++ expected ++ " arguments, but " ++ toString actual ++ " were given"
  | .unbound name => "variable ?" ++ name ++ " is not bound"
  | .depthLimitExceeded limit =>
    "expression exceeds the maximum nesting depth of " ++ toString limit

end EvalError

/-- The outcome of an operation that may fail. -/
abbrev EvalResult (α : Type) := Except EvalError α

/-- Fails because an operand has the wrong sort. -/
def typeError {α : Type} (cause : TypeCause) : EvalResult α := .error (.type cause)

/-- Fails because the operation has no result. -/
def evaluationError {α : Type} (cause : EvaluationCause) : EvalResult α :=
  .error (.evaluation cause)

/-- The value, or a failure of the operation where there is none. -/
def EvalResult.ofOption {α : Type} (cause : EvaluationCause) : Option α → EvalResult α
  | some value => .ok value
  | none => evaluationError cause

theorem EvalResult.ofOption_eq_ok_iff {α : Type} {cause : EvaluationCause} {value? : Option α}
    {value : α} : ofOption cause value? = .ok value ↔ value? = some value := by
  cases value? with
  | none => exact iff_of_false nofun nofun
  | some other => exact ⟨fun h => congrArg some (Except.ok.inj h), fun h => congrArg _ h⟩

/-- A sequence with a value has a value on the way. -/
theorem EvalResult.exists_of_bind_eq_ok {α β : Type} {x : EvalResult α} {f : α → EvalResult β}
    {b : β} (h : x >>= f = .ok b) : ∃ a, x = .ok a ∧ f a = .ok b := by
  cases x with
  | error e => cases h
  | ok a => exact ⟨a, rfl, h⟩

/-- A value that is changed afterwards was there before. -/
theorem EvalResult.map_eq_ok_iff {α β : Type} {r : EvalResult α} {f : α → β} {b : β} :
    r.map f = .ok b ↔ ∃ a, r = .ok a ∧ f a = b := by
  cases r with
  | error e => exact iff_of_false nofun fun ⟨_, ha, _⟩ => nomatch ha
  | ok a =>
      constructor
      · intro h
        exact ⟨a, rfl, Except.ok.inj h⟩
      · rintro ⟨b, hb, rfl⟩
        rw [hb]
        rfl

end SparqlScalar
