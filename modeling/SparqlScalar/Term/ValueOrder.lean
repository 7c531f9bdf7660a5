import SparqlScalar.Term.Value

/-!
# The order of values

Values of one sort are compared within it, and values of different sorts are not comparable, but
for blank nodes, which come before IRIs, and IRIs, which come before literals. Texts compare by
their characters, and only within one language.
-/

namespace SparqlScalar.Value

/-- The order of two values of literals, where there is one. -/
def compareLiterals? : Value → Value → Option Ordering
  | .simple a, .simple b => some (compare a b)
  | .tagged a tagA, .tagged b tagB => if tagA = tagB then some (compare a b) else none
  | .boolean a, .boolean b => some (compare a b)
  | .numeric a, .numeric b => a.compare? b
  | .dateTime a, .dateTime b => a.instant.compare? b.instant
  | .time a, .time b => a.instant.compare? b.instant
  | .date a, .date b => a.instant.compare? b.instant
  | .duration a, .duration b => a.compare? b
  | .duration a, .yearMonthDuration b => a.compare? b.toDuration
  | .duration a, .dayTimeDuration b => a.compare? b.toDuration
  | .yearMonthDuration a, .duration b => a.toDuration.compare? b
  | .yearMonthDuration a, .yearMonthDuration b => some (compare a b)
  | .yearMonthDuration a, .dayTimeDuration b => a.toDuration.compare? b.toDuration
  | .dayTimeDuration a, .duration b => a.toDuration.compare? b
  | .dayTimeDuration a, .yearMonthDuration b => a.toDuration.compare? b.toDuration
  | .dayTimeDuration a, .dayTimeDuration b => some (compare a b)
  | .other a, .other b =>
    if a.datatypeIri = b.datatypeIri ∧ a.lexical = b.lexical then some .eq else none
  | _, _ => none

/-- The order of two values, where there is one. -/
def compare? : Value → Value → Option Ordering
  | .blank a, .blank b => some (compare a.label b.label)
  | .blank _, _ => some .lt
  | .iri _, .blank _ => some .gt
  | .iri a, .iri b => some (compare a.text b.text)
  | .iri _, _ => some .lt
  | _, .blank _ => some .gt
  | _, .iri _ => some .gt
  | a, b => compareLiterals? a b

end SparqlScalar.Value
