import SparqlScalar.Evaluation.Context

/-!
# Solutions from rows

Solutions that are played from given rows, once or for ever. A row may depend on whether a variable
is bound; it is passed over where the variable is not.
-/

namespace SparqlScalar

/-- A row of solutions. -/
inductive Row where
  | solution (bindings : Bindings)
  | error (cause : EvalError)
  /-- A solution if the variable is bound, and nothing otherwise. -/
  | needs (name : String)

/-- What a row gives in a scope. -/
def Row.item? (scope : Scope) : Row → Option (EvalResult Bindings)
  | .solution bindings => some (.ok bindings)
  | .error cause => some (.error cause)
  | .needs name => (scope.bindings.get? name).map fun term => .ok [(name, term)]

/-- Rows of solutions, which start over at their end or not. -/
structure Rows where
  rows : List Row
  cycle : Bool

namespace Rows

/-- The answers that some rows give, and how many rows are left after the last answer. -/
def pulls (scope : Scope) (passed : Nat) : List Row → List Pull × Nat
  | [] => ([], passed)
  | row :: rest =>
    match row.item? scope with
    | none => pulls scope (passed + 1) rest
    | some item =>
      let (more, left) := pulls scope 0 rest
      (⟨some item, passed + 1⟩ :: more, left)

/-- The solutions that rows give in a scope. Rows without any have an end even if they start over.
-/
def solutions (r : Rows) (scope : Scope) : Solutions := fun k =>
  let (answers, left) := pulls scope 0 r.rows
  let index := if r.cycle then k % answers.length else k
  match answers[index]? with
  | some pull => if index = 0 ∧ k ≠ 0 then { pull with passed := pull.passed + left } else pull
  | none => ⟨none, if index = answers.length then left else 0⟩

end Rows

/-- The source that plays rows by the names of patterns; other patterns have no solutions. -/
def PatternSource.ofRows (counter : Nat) (patterns : List (String × Rows)) : PatternSource :=
  ⟨counter, fun pattern scope =>
    match patterns.lookup pattern with
    | some rows => rows.solutions scope
    | none => fun _ => ⟨none, 0⟩⟩

end SparqlScalar
