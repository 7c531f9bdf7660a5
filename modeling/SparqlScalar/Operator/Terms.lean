import SparqlScalar.Iri.Resolve
import SparqlScalar.Operator.Comparison
import SparqlScalar.Term.LanguageTag

/-!
# Functions on terms

Questions about the sort of a term, its text, language and datatype, and terms made from texts.
-/

namespace SparqlScalar

def isIriTerm (t : Term) : EvalResult Term := .ok (Term.ofBool t.isIri)

def isBlankTerm (t : Term) : EvalResult Term := .ok (Term.ofBool t.isBlank)

def isLiteralTerm (t : Term) : EvalResult Term := .ok (Term.ofBool t.isLiteral)

/-- Whether a term has a number as its value. -/
def isNumericTerm (t : Term) : EvalResult Term := .ok (Term.ofBool t.numeric.toBool)

/-- The text of an IRI or of a literal. -/
def textOf : Term → EvalResult Term
  | .iri value => .ok (Term.simple value.text)
  | .literal l => .ok (Term.simple l.lexical)
  | t => typeError (.blankNodeHasNoText t)

/-- The language tag of a literal, or the empty text. -/
def languageOf (t : Term) : EvalResult Term := do
  let l ← t.literalOperand
  return Term.simple (l.language?.getD "")

/-- The datatype of a literal. -/
def datatypeOf (t : Term) : EvalResult Term := do
  let l ← t.literalOperand
  return .iri l.datatypeIri

/-- The IRI that a text stands for, completed from the base if there is one. -/
def resolveIri (base : Option String) (text : String) : EvalResult Term := do
  let resolved ← EvalResult.ofOption .malformed
    (IriReference.resolve? (base.map String.toList) text.toList)
  return .iri ⟨String.ofList resolved⟩

/-- The IRI itself, or the IRI that a text stands for. -/
def iriOf (base : Option String) (t : Term) : EvalResult Term :=
  match t.value with
  | .iri value => .ok (.iri value)
  | .simple text => resolveIri base text
  | .tagged text _ => resolveIri base text
  | _ => typeError .iriOrStringExpected

/-- The literal of a simple text and a datatype. -/
def withDatatype (text datatype : Term) : EvalResult Term := do
  let lexical ← text.simpleText
  let iri ← datatype.iriOperand
  return .literal (Literal.typed lexical iri)

/-- The literal of a simple text and a language tag, which is put in lower case. -/
def withLanguage (text tag : Term) : EvalResult Term := do
  let lexical ← text.simpleText
  let tag ← tag.simpleText
  let lower := tag.toList.map Char.toLower
  if LanguageTag.isValid lower then
    return .literal (Literal.tagged lexical (String.ofList lower))
  else evaluationError .malformed

/-- Whether two terms are the same. -/
def sameTerms (left right : Term) : EvalResult Term := .ok (Term.ofBool (sameTerm left right))

end SparqlScalar
