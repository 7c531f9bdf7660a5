import SparqlScalar.Term.Operand
import SparqlScalar.Text.Blank

/-!
# Casts

The seven constructor functions. All but the one to strings take literals alone: one with a
language tag counts as its text, one of a datatype without values is refused, and a date-time only
becomes a date-time again. Texts are read without the blanks around them.
-/

namespace SparqlScalar

/-- The datatypes to which terms can be cast. -/
inductive CastTarget where
  | string
  | dateTime
  | float
  | double
  | decimal
  | integer
  | boolean
deriving DecidableEq

namespace CastTarget

/-- All targets. -/
def all : List CastTarget := [.string, .dateTime, .float, .double, .decimal, .integer, .boolean]

def datatype : CastTarget → Datatype
  | .string => .string
  | .dateTime => .dateTime
  | .float => .float
  | .double => .double
  | .decimal => .decimal
  | .integer => .integer .integer
  | .boolean => .boolean

def iri (target : CastTarget) : Iri := target.datatype.iri

/-- The refusal to cast a literal. -/
def refuse {α : Type} (target : CastTarget) (l : Literal) : EvalResult α :=
  evaluationError (.castImpossible l target.iri)

/-- The literal that is cast. -/
def source (target : CastTarget) : Term → EvalResult Literal
  | .literal l =>
    match l.language?, l.datatype? with
    | some _, _ => .ok (Literal.simple l.lexical)
    | none, none => evaluationError (.castFromUnknownDatatype l.datatypeIri)
    | none, some .dateTime => if target = .dateTime then .ok l else target.refuse l
    | none, some _ => .ok l
  | term => evaluationError (.castNeedsLiteral term target.iri)

/-- Reads a text without the blanks around it. -/
def readTrimmed {α : Type} (parse : List Char → Option α) (text : String) : EvalResult α :=
  EvalResult.ofOption .malformed (parse (trimBlank text.toList))

/-- Casts a literal to a kind of number, given how to take truth values, texts and numbers. -/
def toNumber {α : Type} (target : CastTarget) (l : Literal) (ofBool : Bool → α)
    (parse : List Char → Option α) (convert : Numeric → Option α) : EvalResult α :=
  match l.value with
  | .boolean b => .ok (ofBool b)
  | .simple text => readTrimmed parse text
  | .numeric n => EvalResult.ofOption .outOfRange (convert n)
  | _ => target.refuse l

/-- The integer to which a number is cut off. -/
def integerOf? : Numeric → Option Integer
  | .integer a => some a
  | .decimal a => a.toInteger?
  | .float a => Integer.ofSingle? a
  | .double a => Integer.ofDouble? a

/-- The decimal to which a number is cut off. -/
def decimalOf? : Numeric → Option Decimal
  | .integer a => some a.toDecimal
  | .decimal a => some a
  | .float a => Decimal.ofSingle? a
  | .double a => Decimal.ofDouble? a

/-- Casts to a truth value; the case of letters does not matter. -/
def toBoolean (l : Literal) : EvalResult Bool :=
  let word := l.lexical.toList.map Char.toLower
  if word = ['1'] ∨ word = "true".toList then .ok true
  else if word = ['0'] ∨ word = "false".toList then .ok false
  else CastTarget.boolean.refuse l

/-- Casts to a decimal. A text with an exponent is refused, whatever its datatype. -/
def toDecimal (l : Literal) : EvalResult Decimal :=
  match l.value with
  | .boolean b => .ok (Decimal.ofBool b)
  | _ =>
    if l.lexical.toList.any fun c => c = 'e' ∨ c = 'E' then CastTarget.decimal.refuse l
    else CastTarget.decimal.toNumber l Decimal.ofBool Decimal.parse? decimalOf?

/-- Casts a date-time or a text to a date-time. -/
def toDateTime (l : Literal) : EvalResult DateTime :=
  match l.datatype? with
  | some .dateTime => readTrimmed DateTime.parse? l.lexical
  | some .string => readTrimmed DateTime.parse? l.lexical
  | _ => CastTarget.dateTime.refuse l

/-- Casts to a string: the text of a literal, or that of an IRI. -/
def toText : Term → EvalResult String
  | .iri value => .ok value.text
  | .literal l => .ok l.lexical
  | term => evaluationError (.castFromBlankNode term)

/-- Casts a term. -/
def apply (target : CastTarget) (t : Term) : EvalResult Term :=
  match target with
  | .string => (toText t).map Term.simple
  | .dateTime => do
    let value ← toDateTime (← source .dateTime t)
    return (Value.dateTime value).toTerm
  | .float => do
    let l ← source .float t
    let value ← CastTarget.float.toNumber l
      (fun b => Binary.ofInt (if b then 1 else 0)) Binary.parse? (fun n => some n.toSingle)
    return (Value.numeric (.float value)).toTerm
  | .double => do
    let l ← source .double t
    let value ← CastTarget.double.toNumber l
      (fun b => Binary.ofInt (if b then 1 else 0)) Binary.parse? (fun n => some n.toDouble)
    return (Value.numeric (.double value)).toTerm
  | .decimal => do
    let value ← toDecimal (← source .decimal t)
    return (Value.numeric (.decimal value)).toTerm
  | .integer => do
    let l ← source .integer t
    let value ← CastTarget.integer.toNumber l Integer.ofBool Integer.parse? integerOf?
    return (Value.numeric (.integer value)).toTerm
  | .boolean => do
    let value ← toBoolean (← source .boolean t)
    return Term.ofBool value

end CastTarget

end SparqlScalar
