import SparqlScalar.Calendar.Shift
import SparqlScalar.Number.Numeric
import SparqlScalar.Term.Basic

/-!
# Values of terms

A `Value` is what a term stands for: a literal is decoded by its datatype, and one that is not
well-formed, or whose datatype has no values here, stands for itself (`Value.other`). Every value
is written as a term again, in its canonical form (`Value.toTerm`).
-/

namespace SparqlScalar

/-- What a term stands for. -/
inductive Value where
  | iri (value : Iri)
  | blank (node : BlankNode)
  | boolean (value : Bool)
  | numeric (value : Numeric)
  | simple (text : String)
  | tagged (text tag : String)
  | dateTime (value : DateTime)
  | time (value : Time)
  | date (value : Date)
  | duration (value : Duration)
  | yearMonthDuration (value : YearMonthDuration)
  | dayTimeDuration (value : DayTimeDuration)
  | other (literal : Literal)
deriving DecidableEq

/-- Reads the text of a truth value. -/
def parseBool? (text : String) : Option Bool :=
  if text = "true" ∨ text = "1" then some true
  else if text = "false" ∨ text = "0" then some false
  else none

/-- Reads a whole number in the range of one of its datatypes. -/
def IntegerType.parse? (type : IntegerType) (text : List Char) : Option Integer :=
  (Integer.parse? text).bind fun value =>
    if type.Contains value.toInt then some value else none

/-- All whole numbers are in the range of the widest of their datatypes. -/
theorem IntegerType.parse?_integer (text : List Char) :
    IntegerType.integer.parse? text = Integer.parse? text :=
  Option.bind_fun_some _

namespace Datatype

/-- Reads the text of a literal of the datatype. -/
def parse? (d : Datatype) (lexical : String) : Option Value :=
  let text := lexical.toList
  match d with
  | .string => some (.simple lexical)
  | .boolean => (parseBool? lexical).map .boolean
  | .float => (Binary.parse? text).map fun value => .numeric (.float value)
  | .double => (Binary.parse? text).map fun value => .numeric (.double value)
  | .decimal => (Decimal.parse? text).map fun value => .numeric (.decimal value)
  | .integer type => (type.parse? text).map fun value => .numeric (.integer value)
  | .dateTime => (DateTime.parse? text).map .dateTime
  | .date => (Date.parse? text).map .date
  | .time => (Time.parse? text).map .time
  | .duration => (Duration.parse? text).map .duration
  | .yearMonthDuration => (YearMonthDuration.parse? text).map .yearMonthDuration
  | .dayTimeDuration => (DayTimeDuration.parse? text).map .dayTimeDuration

end Datatype

namespace Literal

/-- The value of a literal. -/
def value (l : Literal) : Value :=
  match l.annotation with
  | .language tag => .tagged l.lexical tag
  | .datatype iri =>
    ((Datatype.ofIri? iri).bind fun datatype => datatype.parse? l.lexical).getD (.other l)

/-- A literal of a datatype has the value that the datatype reads its text as. -/
theorem value_of_parse? {l : Literal} {d : Datatype} {v : Value}
    (hdatatype : l.annotation = .datatype d.iri) (hparse : d.parse? l.lexical = some v) :
    l.value = v := by
  unfold value
  rw [hdatatype]
  simp only [Datatype.ofIri?_iri, Option.bind_some, hparse, Option.getD_some]

/-- A literal of a datatype has the value that its text is read as, if any. -/
theorem value_typed (d : Datatype) (text : String) :
    (typed text d.iri).value = (d.parse? text).getD (.other (typed text d.iri)) := by
  unfold value
  simp only [typed, Datatype.ofIri?_iri, Option.bind_some]

theorem value_typed_eq_iff {d : Datatype} {text : String} {v : Value} (hv : ∀ l, v ≠ .other l) :
    (typed text d.iri).value = v ↔ d.parse? text = some v := by
  rw [value_typed]
  cases d.parse? text with
  | none => exact iff_of_false (fun h => hv _ h.symm) nofun
  | some w => exact Option.some_inj.symm

theorem value_simple (text : String) : (simple text).value = .simple text :=
  value_typed .string text

end Literal

namespace Term

/-- The value of a term. -/
def value : Term → Value
  | .iri value => .iri value
  | .blank node => .blank node
  | .literal l => l.value

end Term

namespace NumericKind

/-- The datatype that stands for the kind. -/
def datatype : NumericKind → Datatype
  | .integer => .integer .integer
  | .decimal => .decimal
  | .float => .float
  | .double => .double

end NumericKind

/-- The literal of a canonical text. -/
def Datatype.literal (d : Datatype) (text : List Char) : Literal :=
  Literal.typed (String.ofList text) d.iri

namespace Numeric

/-- The literal of a number in the datatype of its kind. -/
def toLiteral (n : Numeric) : Literal := n.kind.datatype.literal n.text

/-- The literal of a number in a given datatype. -/
def toLiteralOf (n : Numeric) (datatype : Iri) : Literal :=
  Literal.typed (String.ofList n.text) datatype

end Numeric

namespace Value

/-- Whether the value is that of a literal. -/
def isLiteral : Value → Bool
  | .iri _ => false
  | .blank _ => false
  | _ => true

/-- The term that stands for a value in its canonical form. -/
def toTerm : Value → Term
  | .iri value => .iri value
  | .blank node => .blank node
  | .boolean value => Term.ofBool value
  | .numeric value => .literal value.toLiteral
  | .simple text => Term.simple text
  | .tagged text tag => .literal (Literal.tagged text tag)
  | .dateTime value => .literal (Datatype.dateTime.literal value.text)
  | .time value => .literal (Datatype.time.literal value.text)
  | .date value => .literal (Datatype.date.literal value.text)
  | .duration value => .literal (Datatype.duration.literal value.text)
  | .yearMonthDuration value => .literal (Datatype.yearMonthDuration.literal value.text)
  | .dayTimeDuration value => .literal (Datatype.dayTimeDuration.literal value.text)
  | .other literal => .literal literal

end Value

end SparqlScalar
