/-!
# Datatypes

An `Iri` is a text; nothing is asked of it. A `Datatype` is one of the datatypes whose literals
have a value here, each named by an IRI of the schema vocabulary. Thirteen of them hold whole
numbers and differ in the range of their values.
-/

namespace SparqlScalar

/-- A name for a resource. -/
structure Iri where
  text : String
deriving DecidableEq

/-- The datatypes of whole numbers. -/
inductive IntegerType where
  | integer
  | byte
  | short
  | int
  | long
  | unsignedByte
  | unsignedShort
  | unsignedInt
  | unsignedLong
  | positiveInteger
  | negativeInteger
  | nonPositiveInteger
  | nonNegativeInteger
deriving DecidableEq

namespace IntegerType

/-- All datatypes of whole numbers. -/
def all : List IntegerType :=
  [.integer, .byte, .short, .int, .long, .unsignedByte, .unsignedShort, .unsignedInt,
    .unsignedLong, .positiveInteger, .negativeInteger, .nonPositiveInteger, .nonNegativeInteger]

/-- The name within the vocabulary. -/
def localName : IntegerType → String
  | .integer => "integer"
  | .byte => "byte"
  | .short => "short"
  | .int => "int"
  | .long => "long"
  | .unsignedByte => "unsignedByte"
  | .unsignedShort => "unsignedShort"
  | .unsignedInt => "unsignedInt"
  | .unsignedLong => "unsignedLong"
  | .positiveInteger => "positiveInteger"
  | .negativeInteger => "negativeInteger"
  | .nonPositiveInteger => "nonPositiveInteger"
  | .nonNegativeInteger => "nonNegativeInteger"

/-- The value range, before the general bound of 64 bits. -/
def Contains (t : IntegerType) (n : Int) : Prop :=
  match t with
  | .integer => True
  | .byte => -128 ≤ n ∧ n < 128
  | .short => -0x8000 ≤ n ∧ n < 0x8000
  | .int => -0x80000000 ≤ n ∧ n < 0x80000000
  | .long => -0x8000000000000000 ≤ n ∧ n < 0x8000000000000000
  | .unsignedByte => 0 ≤ n ∧ n < 256
  | .unsignedShort => 0 ≤ n ∧ n < 0x10000
  | .unsignedInt => 0 ≤ n ∧ n < 0x100000000
  | .unsignedLong => 0 ≤ n ∧ n < 0x10000000000000000
  | .positiveInteger => 0 < n
  | .negativeInteger => n < 0
  | .nonPositiveInteger => n ≤ 0
  | .nonNegativeInteger => 0 ≤ n

instance : (t : IntegerType) → (n : Int) → Decidable (t.Contains n)
  | .integer, _ => inferInstanceAs (Decidable True)
  | .byte, _ => inferInstanceAs (Decidable (_ ∧ _))
  | .short, _ => inferInstanceAs (Decidable (_ ∧ _))
  | .int, _ => inferInstanceAs (Decidable (_ ∧ _))
  | .long, _ => inferInstanceAs (Decidable (_ ∧ _))
  | .unsignedByte, _ => inferInstanceAs (Decidable (_ ∧ _))
  | .unsignedShort, _ => inferInstanceAs (Decidable (_ ∧ _))
  | .unsignedInt, _ => inferInstanceAs (Decidable (_ ∧ _))
  | .unsignedLong, _ => inferInstanceAs (Decidable (_ ∧ _))
  | .positiveInteger, _ => inferInstanceAs (Decidable (_ < _))
  | .negativeInteger, _ => inferInstanceAs (Decidable (_ < _))
  | .nonPositiveInteger, _ => inferInstanceAs (Decidable (_ ≤ _))
  | .nonNegativeInteger, _ => inferInstanceAs (Decidable (_ ≤ _))

end IntegerType

/-- The datatypes whose literals have a value. -/
inductive Datatype where
  | string
  | boolean
  | float
  | double
  | decimal
  | integer (type : IntegerType)
  | dateTime
  | date
  | time
  | duration
  | yearMonthDuration
  | dayTimeDuration
deriving DecidableEq

namespace Datatype

/-- All datatypes. -/
def all : List Datatype :=
  [.string, .boolean, .float, .double, .decimal] ++ IntegerType.all.map .integer
    ++ [.dateTime, .date, .time, .duration, .yearMonthDuration, .dayTimeDuration]

/-- The name within the vocabulary. -/
def localName : Datatype → String
  | .string => "string"
  | .boolean => "boolean"
  | .float => "float"
  | .double => "double"
  | .decimal => "decimal"
  | .integer type => type.localName
  | .dateTime => "dateTime"
  | .date => "date"
  | .time => "time"
  | .duration => "duration"
  | .yearMonthDuration => "yearMonthDuration"
  | .dayTimeDuration => "dayTimeDuration"

/-- What all IRIs of the vocabulary start with. -/
def vocabulary : String := "http://www.w3.org/2001/XMLSchema#"

/-- The IRI that names the datatype. -/
def iri (d : Datatype) : Iri := ⟨vocabulary ++ d.localName⟩

/-- The datatype named by an IRI. -/
def ofIri? (i : Iri) : Option Datatype := all.find? fun d => d.iri == i

theorem ofIri?_iri (d : Datatype) : ofIri? d.iri = some d := by
  cases d with
  | integer type => cases type <;> rfl
  | _ => rfl

theorem ofIri?_eq_some_iff {i : Iri} {d : Datatype} : ofIri? i = some d ↔ i = d.iri := by
  constructor
  · intro h
    have hfound : (d.iri == i) = true := List.find?_some (p := fun d : Datatype => d.iri == i) h
    exact (beq_iff_eq.mp hfound).symm
  · rintro rfl
    exact ofIri?_iri d

/-- The datatypes of numbers. -/
def isNumeric : Datatype → Bool
  | .float => true
  | .double => true
  | .decimal => true
  | .integer _ => true
  | _ => false

/-- The datatypes of points in time. -/
def isDateTime : Datatype → Bool
  | .dateTime => true
  | .date => true
  | .time => true
  | _ => false

/-- The datatypes of durations. -/
def isDuration : Datatype → Bool
  | .duration => true
  | .yearMonthDuration => true
  | .dayTimeDuration => true
  | _ => false

end Datatype

/-- The datatype of literals with a language tag. -/
def langStringIri : Iri := ⟨"http://www.w3.org/1999/02/22-rdf-syntax-ns#langString"⟩

end SparqlScalar
