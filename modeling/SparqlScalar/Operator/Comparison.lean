import SparqlScalar.Operator.Logic
import SparqlScalar.Term.ValueOrder

/-!
# Comparison

Equality of terms by value, the six comparison operators, membership in a list of candidates, and
sameness of terms.
-/

namespace SparqlScalar

/-- Equality by value. IRIs and blank nodes equal only themselves. Two literals without a value
are equal if they are the same, undecided if they differ in their text alone, and otherwise
different. -/
def equalTerms (left right : Term) : EvalResult Bool :=
  match left.value, right.value with
  | .other a, .other b =>
    if a = b then .ok true
    else if a.datatypeIri = b.datatypeIri ∧ a.language? = b.language? then
      typeError (.equalityUndecided left right)
    else .ok false
  | a, b =>
    if a.isLiteral && b.isLiteral then .ok (a.compareLiterals? b == some .eq)
    else .ok (left == right)

/-- Whether the ordering operators are defined for a literal: it has a language, or a datatype
whose literals have a value. -/
def Literal.isOrdered (l : Literal) : Bool := l.language?.isSome || l.datatype?.isSome

/-- One of the ordering operators, for which both operands are literals and one of them is
ordered. -/
def orderTerms (op : ComparisonOperator) (left right : Term) : EvalResult Bool :=
  match left, right with
  | .literal a, .literal b =>
    if !a.isOrdered && !b.isOrdered then evaluationError (.operatorUndefined op left right)
    else
      match a.value.compareLiterals? b.value with
      | some order => .ok (op.accepts order)
      | none => typeError (.notComparable left right)
  | _, _ => typeError (.literalsRequired op left right)

/-- The truth value of a comparison. -/
def holds (op : ComparisonOperator) (left right : Term) : EvalResult Bool :=
  match op with
  | .equal => equalTerms left right
  | .notEqual => (equalTerms left right).map (!·)
  | _ => orderTerms op left right

/-- A comparison as a term. -/
def comparison (op : ComparisonOperator) (left right : Term) : EvalResult Term :=
  (holds op left right).map Term.ofBool

/-- Whether some candidate equals the needle; candidates are run up to the first that does. -/
def membership {m : Type → Type} [Monad m] (needle : Term)
    (candidates : List (m (EvalResult Term))) : m (EvalResult Bool) :=
  anyOf (equalTerms needle) candidates

/-- Whether two texts are the same up to the case of ASCII letters. -/
def sameIgnoringCase (a b : String) : Bool :=
  a.toList.map Char.toLower == b.toList.map Char.toLower

/-- Whether two terms are the same; the case of language tags does not matter. -/
def sameTerm (left right : Term) : Bool :=
  match left, right with
  | .literal ⟨a, .language s⟩, .literal ⟨b, .language t⟩ => a == b && sameIgnoringCase s t
  | _, _ => left == right

end SparqlScalar
