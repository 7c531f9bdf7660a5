import SparqlScalar.Evaluation.Function

/-!
# The state of an evaluation

What evaluations leave behind: the blank nodes made for literals, how many blank nodes and random
numbers were used, how deep the evaluation is, and a log of what was called, made, given and pulled.
An evaluation changes the state also where it fails.
-/

namespace SparqlScalar

/-- The blank nodes made for literals. -/
abbrev Cache := List (Literal × BlankNode)

/-- A request for a blank node: for one that nobody else gets, or for that of a literal in a
cache. -/
inductive NodeRequest where
  | own
  | forLiteral (cache : Nat) (literal : Literal)
deriving DecidableEq

/-- Something that an evaluation did. -/
inductive Event where
  /-- A function was called by value. -/
  | called (function : FunctionId) (arguments : List Term)
  /-- A raw function was called with a number of arguments. -/
  | rawCalled (function : FunctionId) (iri : Iri) (count : Nat)
  /-- A blank node was made for a literal. -/
  | cached (cache : Nat) (literal : Literal)
  /-- A blank node was given for a request. -/
  | given (request : NodeRequest) (node : BlankNode)
  /-- A solution of a pattern was asked for, and a number of rows was passed. -/
  | pulled (counter : Nat) (pattern : String) (passed : Nat)
deriving DecidableEq

/-- The state of evaluations. -/
structure State where
  caches : Nat → Cache
  /-- How many blank nodes were made. -/
  nodes : Nat
  /-- How many random numbers were drawn. -/
  draws : Nat
  /-- How many evaluations are under way, one within the other. -/
  depth : Nat
  /-- The greatest number of them at any time. -/
  peak : Nat
  /-- What was done, the latest first. -/
  log : List Event

/-- The state before anything was done. -/
def State.initial : State := ⟨fun _ => [], 0, 0, 0, 0, []⟩

/-- An evaluation: it changes the state and gives a value or fails. -/
abbrev Eval (α : Type) := ExceptT EvalError (StateM State) α

namespace Eval

/-- An outcome that is known. -/
def ofResult {α : Type} (r : EvalResult α) : Eval α := ExceptT.mk (pure r)

/-- The outcome of an evaluation, which is then no failure. -/
def outcome {α : Type} (e : Eval α) : Eval (EvalResult α) := ExceptT.lift e.run

/-- Adds to the log. -/
def record (event : Event) : Eval Unit :=
  ExceptT.lift (modify fun s => { s with log := event :: s.log })

/-- Makes a blank node that differs from all others. -/
def freshNode : Eval BlankNode := do
  let s ← getThe State
  set { s with nodes := s.nodes + 1 }
  return .fresh s.nodes

/-- Draws the next of the random numbers. -/
def draw (entropy : Nat → Nat) : Eval Nat := do
  let s ← getThe State
  set { s with draws := s.draws + 1 }
  return entropy s.draws

/-- The blank node for a literal, which is made the first time that it is asked for. -/
def nodeFor (cache : Nat) (literal : Literal) : Eval BlankNode := do
  let s ← getThe State
  match (s.caches cache).lookup literal with
  | some node => return node
  | none => do
    let node ← freshNode
    ExceptT.lift (modify fun s =>
      { s with
        caches := fun other =>
          if other = cache then (literal, node) :: s.caches cache else s.caches other })
    record (.cached cache literal)
    return node

/-- The blank node for a request, which is logged together with it. -/
def request (r : NodeRequest) : Eval BlankNode := do
  let node ← match r with
    | .own => freshNode
    | .forLiteral cache literal => nodeFor cache literal
  record (.given r node)
  return node

/-- An evaluation one level deeper. -/
def nested {α : Type} (e : Eval α) : Eval α := do
  ExceptT.lift (modify fun s =>
    { s with depth := s.depth + 1, peak := max s.peak (s.depth + 1) })
  let r ← outcome e
  ExceptT.lift (modify fun s => { s with depth := s.depth - 1 })
  ofResult r

end Eval

end SparqlScalar
