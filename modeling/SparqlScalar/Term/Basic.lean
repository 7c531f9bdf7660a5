import SparqlScalar.Term.Datatype
import SparqlScalar.Text.Digits
import SparqlScalar.Text.Quoted

/-!
# Terms

A term is an IRI, a blank node or a literal. A literal has a text and either a language tag or a
datatype; a simple literal is one whose datatype is that of strings. Terms are displayed in the
line notation for triples.
-/

namespace SparqlScalar

/-- A node without a name of its own: one that came with a label, or one made here and told apart
by its number. -/
inductive BlankNode where
  | labelled (label : String)
  | fresh (serial : Nat)
deriving DecidableEq

namespace BlankNode

/-- The lower-case hexadecimal numeral of a number, in `width` digits. -/
def hexNumeral : Nat → Nat → List Char
  | 0, _ => []
  | width + 1, n => hexNumeral width (n / 16) ++ [(Quoted.hexDigit (n % 16)).toLower]

/-- The label, which for a node made here has thirty-two hexadecimal digits. -/
def label : BlankNode → String
  | .labelled label => label
  | .fresh serial => String.ofList ('f' :: hexNumeral 31 serial)

end BlankNode

/-- What a literal has besides its text. -/
inductive Annotation where
  | language (tag : String)
  | datatype (iri : Iri)
deriving DecidableEq

/-- A text with a language tag or a datatype. -/
structure Literal where
  lexical : String
  annotation : Annotation
deriving DecidableEq

namespace Literal

/-- The literal of a text and a datatype. -/
def typed (lexical : String) (datatype : Iri) : Literal := ⟨lexical, .datatype datatype⟩

/-- The literal of a text alone. -/
def simple (lexical : String) : Literal := typed lexical Datatype.string.iri

/-- The literal of a text in a language. -/
def tagged (lexical tag : String) : Literal := ⟨lexical, .language tag⟩

/-- The literal of a text with a language tag if there is one. -/
def ofString (lexical : String) (tag : Option String) : Literal :=
  match tag with
  | some tag => tagged lexical tag
  | none => simple lexical

def ofBool (b : Bool) : Literal := typed (if b then "true" else "false") Datatype.boolean.iri

/-- The literal of a whole number. -/
def ofInt (n : Int) : Literal :=
  typed (String.ofList (Digits.ofInt n)) (Datatype.integer .integer).iri

/-- The language tag, if there is one. -/
def language? (l : Literal) : Option String :=
  match l.annotation with
  | .language tag => some tag
  | .datatype _ => none

/-- The IRI of the datatype; literals with a language tag share one. -/
def datatypeIri (l : Literal) : Iri :=
  match l.annotation with
  | .language _ => langStringIri
  | .datatype iri => iri

/-- The datatype, if it is one whose literals have a value. -/
def datatype? (l : Literal) : Option Datatype := Datatype.ofIri? l.datatypeIri

end Literal

/-- A node of the data. -/
inductive Term where
  | iri (value : Iri)
  | blank (node : BlankNode)
  | literal (value : Literal)
deriving DecidableEq

namespace Iri

/-- The IRI between angle brackets. -/
def display (i : Iri) : String := "<" ++ i.text ++ ">"

end Iri

namespace Literal

/-- The quoted text, followed by the tag, or by the datatype unless it is that of strings. -/
def display (l : Literal) : String :=
  match l.annotation with
  | .language tag => Quoted.quote l.lexical ++ "@" ++ tag
  | .datatype iri =>
    if iri = Datatype.string.iri then Quoted.quote l.lexical
    else Quoted.quote l.lexical ++ "^^" ++ iri.display

end Literal

namespace Term

def ofBool (b : Bool) : Term := .literal (Literal.ofBool b)

/-- The simple literal of a text. -/
def simple (lexical : String) : Term := .literal (Literal.simple lexical)

/-- The term in the line notation for triples. -/
def display : Term → String
  | .iri value => value.display
  | .blank node => "_:" ++ node.label
  | .literal value => value.display

def isIri : Term → Bool
  | .iri _ => true
  | _ => false

def isBlank : Term → Bool
  | .blank _ => true
  | _ => false

def isLiteral : Term → Bool
  | .literal _ => true
  | _ => false

def asIri? : Term → Option Iri
  | .iri value => some value
  | _ => none

def asBlank? : Term → Option BlankNode
  | .blank node => some node
  | _ => none

def asLiteral? : Term → Option Literal
  | .literal value => some value
  | _ => none

end Term

end SparqlScalar
