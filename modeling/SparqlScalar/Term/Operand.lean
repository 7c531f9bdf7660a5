import SparqlScalar.Error
import SparqlScalar.Term.Value

/-!
# Operands

What an operator asks of a term, and the error where the term is not of that sort: a literal, an
IRI, a number with the datatype it was written in, a text with its language, a simple literal, a
truth value, a date or a date-time.
-/

namespace SparqlScalar

/-- A text with the language tag it has. -/
structure StringValue where
  text : String
  tag : Option String
deriving DecidableEq

namespace StringValue

/-- The number of characters. -/
def length (s : StringValue) : Nat := s.text.length

def isEmpty (s : StringValue) : Bool := s.text.isEmpty

def toLiteral (s : StringValue) : Literal := Literal.ofString s.text s.tag

/-- The order of the texts alone. -/
instance : Ord StringValue := ⟨fun a b => compare a.text b.text⟩

/-- The text of a value that is a string of some language or of none. -/
def ofValue : Value → EvalResult StringValue
  | .simple text => .ok ⟨text, none⟩
  | .tagged text tag => .ok ⟨text, some tag⟩
  | _ => typeError .stringLiteralExpected

end StringValue

/-- A number with the datatype of the literal it came from. -/
structure NumericOperand where
  value : Numeric
  datatype : Iri
deriving DecidableEq

namespace Term

/-- The literal, which an IRI and a blank node are not. -/
def literalOperand : Term → EvalResult Literal
  | .literal value => .ok value
  | term => typeError (.notLiteral term)

def iriOperand : Term → EvalResult Iri
  | .iri value => .ok value
  | term => typeError (.notIri term)

/-- The number with the datatype it was written in. -/
def numericOperand (t : Term) : EvalResult NumericOperand := do
  let literal ← t.literalOperand
  match literal.value with
  | .numeric value => .ok ⟨value, literal.datatypeIri⟩
  | _ => typeError (.notNumeric t)

def numeric (t : Term) : EvalResult Numeric := do
  let operand ← t.numericOperand
  return operand.value

/-- The text of a simple literal or of one with a language tag. -/
def string (t : Term) : EvalResult StringValue :=
  match t.value with
  | .simple text => .ok ⟨text, none⟩
  | .tagged text tag => .ok ⟨text, some tag⟩
  | _ => typeError (.notString t)

/-- The text of a simple literal. -/
def simpleText (t : Term) : EvalResult String :=
  match t.value with
  | .simple text => .ok text
  | _ => typeError .simpleLiteralExpected

def boolean (t : Term) : EvalResult Bool :=
  match t.value with
  | .boolean value => .ok value
  | _ => typeError (.notBoolean t)

/-- The date, for a date-time the one of its local clock. -/
def date (t : Term) : EvalResult Date :=
  match t.value with
  | .date value => .ok value
  | .dateTime value => EvalResult.ofOption .outOfRange (Date.ofDateTime? value)
  | _ => typeError (.notDate t)

def dateTime (t : Term) : EvalResult DateTime :=
  match t.value with
  | .dateTime value => .ok value
  | _ => typeError (.notDateTime t)

end Term

end SparqlScalar
