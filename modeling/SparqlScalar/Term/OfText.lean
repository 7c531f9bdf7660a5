import SparqlScalar.Iri.Resolve
import SparqlScalar.Term.Value
import SparqlScalar.Text.Utf8

/-!
# Terms of texts

Terms that are read from texts of several forms: the values of a datatype, IRIs, labels of blank
nodes, and bytes. A text that is not of the form has no term.
-/

namespace SparqlScalar

namespace BlankNode

/-- The ranges of code points with which a label can start, besides digits, underscores and colons.
-/
def baseRanges : List (Nat × Nat) :=
  [(0x41, 0x5a), (0x61, 0x7a), (0xc0, 0xd6), (0xd8, 0xf6), (0xf8, 0x2ff), (0x370, 0x37d),
    (0x37f, 0x1fff), (0x200c, 0x200d), (0x2070, 0x218f), (0x2c00, 0x2fef), (0x3001, 0xd7ff),
    (0xf900, 0xfdcf), (0xfdf0, 0xfffd), (0x10000, 0xeffff)]

/-- The ranges of code points that a label can also have after its start. -/
def innerRanges : List (Nat × Nat) :=
  [(0x2d, 0x2e), (0xb7, 0xb7), (0x300, 0x36f), (0x203f, 0x2040)]

/-- Whether a code point lies in one of some ranges. -/
def inRanges (ranges : List (Nat × Nat)) (c : Char) : Bool :=
  ranges.any fun (low, high) => low ≤ c.toNat && c.toNat ≤ high

def startsLabel (c : Char) : Bool := c.isDigit || c == '_' || c == ':' || inRanges baseRanges c

def continuesLabel (c : Char) : Bool := startsLabel c || inRanges innerRanges c

/-- Whether a text is the label of a blank node; a full stop cannot end it. -/
def isLabel : List Char → Bool
  | [] => false
  | c :: rest => startsLabel c && rest.all continuesLabel && (c :: rest).getLast? != some '.'

end BlankNode

/-- The forms of texts that stand for terms. -/
inductive TextForm where
  /-- A text of a datatype. -/
  | ofDatatype (datatype : Datatype)
  /-- One of the words for the truth values. -/
  | truthWord
  /-- An IRI with a scheme. -/
  | absoluteIri
  | blankLabel
  /-- Bytes that encode a text; those of a character are the lowest of its number. -/
  | bytes
deriving DecidableEq

/-- The term of a text of a form. -/
def Term.ofText? : TextForm → String → Option Term
  | .ofDatatype d, text => (d.parse? text).map Value.toTerm
  | .truthWord, text =>
    if text = "true" then some (Term.ofBool true)
    else if text = "false" then some (Term.ofBool false)
    else none
  | .absoluteIri, text =>
    (IriReference.resolve? none text.toList).map fun iri => .iri ⟨String.ofList iri⟩
  | .blankLabel, text =>
    if BlankNode.isLabel text.toList then some (.blank (.labelled text)) else none
  | .bytes, text =>
    (Utf8.decode? (text.toList.map fun c => UInt8.ofNat c.toNat)).map Term.simple

end SparqlScalar
