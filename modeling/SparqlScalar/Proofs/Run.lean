import SparqlScalar.Evaluation.Evaluate

/-!
# Runs of evaluations

    An evaluation is run from a state; it gives an outcome and the state it leaves.  This file has
    one equation for each way in which evaluations are put together, so that later proofs never
    look at how the two monads are built.

    What operators and functions do by themselves does not touch the depth counter and does not
    look at it either: such a computation is QUIET.  Quietness is kept by sequencing, and it is what
    makes the counter a matter of `Eval.nested` alone.
-/

namespace SparqlScalar

namespace State

/-- The state in which the operands of a construct are evaluated. -/
def deeper (s : State) : State :=
  { s with depth := s.depth + 1, peak := max s.peak (s.depth + 1) }

/-- The state after a construct is left. -/
def shallower (s : State) : State := { s with depth := s.depth - 1 }

/-- The state with another depth and another peak. -/
def withDepth (s : State) (depth peak : Nat) : State := { s with depth := depth, peak := peak }

/-- The state with a new blank node, made for a literal. -/
def withNode (s : State) (cache : Nat) (literal : Literal) : State :=
  { s with
    nodes := s.nodes + 1
    caches := fun other =>
      if other = cache then (literal, .fresh s.nodes) :: s.caches cache else s.caches other
    log := .cached cache literal :: s.log }

/-- The requests for blank nodes with the nodes that were given, the latest first. -/
def given (s : State) : List (NodeRequest × BlankNode) :=
  s.log.filterMap fun
    | .given request node => some (request, node)
    | _ => none

/-- The node that the caches have for a request. -/
def kept? (s : State) : NodeRequest → Option BlankNode
  | .own => none
  | .forLiteral cache literal => (s.caches cache).lookup literal

/-- Caches with the node for a request entered. -/
def withEntry (caches : Nat → Cache) (r : NodeRequest) (node : BlankNode) : Nat → Cache :=
  match r with
  | .own => caches
  | .forLiteral cache literal => fun other =>
    if other = cache then (literal, node) :: caches cache else caches other

end State

namespace Eval

variable {α β : Type}

/-- A failure ends a sequence, and what was done before it stays done. -/
theorem run_bind (x : Eval α) (f : α → Eval β) (s : State) :
    (x >>= f).run s = match (x.run s).1 with
      | .ok a => (f a).run (x.run s).2
      | .error e => (.error e, (x.run s).2) := by
  show ExceptT.bindCont f (x s).1 (x s).2 = _
  rw [show (x s).1 = (x.run s).1 from rfl, show (x s).2 = (x.run s).2 from rfl]
  cases (x.run s).1 with
  | ok a => rfl
  | error e => rfl

/-- After a value a sequence goes on with it. -/
theorem run_bind_ok {x : Eval α} {f : α → Eval β} {s : State} {a : α}
    (h : (x.run s).1 = .ok a) : (x >>= f).run s = (f a).run (x.run s).2 := by
  rw [run_bind, h]

/-- After a failure a sequence stops with it. -/
theorem run_bind_error {x : Eval α} {f : α → Eval β} {s : State} {e : EvalError}
    (h : (x.run s).1 = .error e) : (x >>= f).run s = (.error e, (x.run s).2) := by
  rw [run_bind, h]

/-- A known outcome with a function applied to its value. -/
theorem run_mk_pure (x : StateM State (EvalResult α)) (f : α → β) (s : State) :
    (ExceptT.mk x >>= fun a => (pure (f a) : Eval β)).run s = ((x s).1.map f, (x s).2) := by
  rw [run_bind]
  have hx : (ExceptT.mk x : Eval α).run s = x s := rfl
  rw [hx]
  cases (x s).1 with
  | ok a => rfl
  | error e => rfl

/-- To apply a function to an outcome is to go on with the value. -/
theorem outcome_bind (x : Eval α) (f : α → EvalResult β) :
    (outcome x >>= fun r => ofResult (r >>= f)) = x >>= fun a => ofResult (f a) := by
  refine funext fun s => ?_
  show ((x.run s).1 >>= f, (x.run s).2) = (x >>= fun a => ofResult (f a)).run s
  rw [run_bind]
  cases (x.run s).1 with
  | ok a => rfl
  | error e => rfl

/-- A level is opened, and closed again whatever happens in it. -/
theorem run_nested (x : Eval α) (s : State) :
    (nested x).run s = ((x.run s.deeper).1, (x.run s.deeper).2.shallower) := rfl

/-- A computation that leaves the depth counter alone and does not depend on it. -/
def Quiet (x : Eval α) : Prop :=
  ∀ (s : State) (depth peak : Nat),
    x.run (s.withDepth depth peak) = ((x.run s).1, (x.run s).2.withDepth depth peak)

/-- A known outcome does not look at the state at all. -/
theorem quiet_ofResult (r : EvalResult α) : Quiet (ofResult r) := fun _ _ _ => rfl

theorem quiet_pure (a : α) : Quiet (pure a : Eval α) := fun _ _ _ => rfl

/-- The log does not depend on the depth. -/
theorem quiet_record (event : Event) : Quiet (record event) := fun _ _ _ => rfl

theorem quiet_freshNode : Quiet freshNode := fun _ _ _ => rfl

theorem quiet_draw (entropy : Nat → Nat) : Quiet (draw entropy) := fun _ _ _ => rfl

/-- Quiet computations one after the other are quiet. -/
theorem quiet_bind {x : Eval α} {f : α → Eval β} (hx : Quiet x) (hf : ∀ a, Quiet (f a)) :
    Quiet (x >>= f) := by
  intro s depth peak
  have hrun := hx s depth peak
  have h1 := congrArg Prod.fst hrun
  have h2 := congrArg Prod.snd hrun
  -- the first outcome is the same from both states, so both runs go on or both end
  cases h : (x.run s).1 with
  | ok a =>
      rw [run_bind_ok (h1.trans h), run_bind_ok h, h2]
      exact hf a _ depth peak
  | error e =>
      rw [run_bind_error (h1.trans h), run_bind_error h, h2]

/-- The blank node made before is given again. -/
theorem run_nodeFor_some {s : State} {cache : Nat} {literal : Literal} {node : BlankNode}
    (h : (s.caches cache).lookup literal = some node) :
    (nodeFor cache literal).run s = (.ok node, s) := by
  unfold nodeFor
  rw [run_bind_ok (rfl : ((getThe State : Eval State).run s).1 = .ok s)]
  rw [h]
  rfl

/-- A blank node that was not made before is made, kept and logged. -/
theorem run_nodeFor_none {s : State} {cache : Nat} {literal : Literal}
    (h : (s.caches cache).lookup literal = none) :
    (nodeFor cache literal).run s = (.ok (.fresh s.nodes), s.withNode cache literal) := by
  unfold nodeFor
  rw [run_bind_ok (rfl : ((getThe State : Eval State).run s).1 = .ok s)]
  rw [h]
  rfl

/-- What the caches have for a literal does not depend on the depth. -/
theorem quiet_nodeFor (cache : Nat) (literal : Literal) : Quiet (nodeFor cache literal) := by
  intro s depth peak
  cases h : (s.caches cache).lookup literal with
  | some node =>
      have h' : ((s.withDepth depth peak).caches cache).lookup literal = some node := h
      rw [run_nodeFor_some h, run_nodeFor_some h']
  | none =>
      have h' : ((s.withDepth depth peak).caches cache).lookup literal = none := h
      rw [run_nodeFor_none h, run_nodeFor_none h']
      rfl

/-- A request for a node neither changes the depth nor depends on it. -/
theorem quiet_request (r : NodeRequest) : Quiet (request r) := by
  have hgive : ∀ node, Quiet (record (.given r node) >>= fun _ => pure node) := fun node =>
    quiet_bind (quiet_record _) fun _ => quiet_pure node
  cases r with
  | own => exact quiet_bind quiet_freshNode hgive
  | forLiteral cache literal => exact quiet_bind (quiet_nodeFor cache literal) hgive

/-- A request whose node a cache has gets this node. -/
theorem run_request_some {s : State} {r : NodeRequest} {node : BlankNode}
    (h : s.kept? r = some node) :
    (request r).run s = (.ok node, { s with log := .given r node :: s.log }) := by
  cases r with
  | own => exact nomatch h
  | forLiteral cache literal =>
      unfold request
      rw [run_bind, run_nodeFor_some h]
      rfl

/-- Any other request gets a new node, which is entered. -/
theorem run_request_none {s : State} {r : NodeRequest} (h : s.kept? r = none) :
    ((request r).run s).1 = .ok (.fresh s.nodes) ∧
      ((request r).run s).2.given = (r, .fresh s.nodes) :: s.given ∧
      ((request r).run s).2.caches = State.withEntry s.caches r (.fresh s.nodes) ∧
      ((request r).run s).2.nodes = s.nodes + 1 ∧ ((request r).run s).2.draws = s.draws := by
  cases r with
  | own => exact ⟨rfl, rfl, rfl, rfl, rfl⟩
  | forLiteral cache literal =>
      unfold request
      rw [run_bind, run_nodeFor_none h]
      exact ⟨rfl, rfl, rfl, rfl, rfl⟩

/-- A request never fails, and what it gives is logged. -/
theorem run_request (r : NodeRequest) (s : State) :
    ∃ node, ((request r).run s).1 = .ok node ∧
      ((request r).run s).2.given = (r, node) :: s.given := by
  cases hkept : s.kept? r with
  | some node =>
      rw [run_request_some hkept]
      exact ⟨node, rfl, rfl⟩
  | none =>
      obtain ⟨hnode, hgiven, -⟩ := run_request_none hkept
      exact ⟨_, hnode, hgiven⟩

/-- The state that a quiet computation leaves has the depth and the peak of the one before. -/
theorem Quiet.state_eq {x : Eval α} (h : Quiet x) (s : State) :
    (x.run s).2 = (x.run s).2.withDepth s.depth s.peak := by
  have hrun := h s s.depth s.peak
  -- a state with its own depth and peak is the state itself
  rw [show s.withDepth s.depth s.peak = s from rfl] at hrun
  exact congrArg Prod.snd hrun

/-- A quiet computation leaves the depth as it was. -/
theorem Quiet.depth_eq {x : Eval α} (h : Quiet x) (s : State) : (x.run s).2.depth = s.depth := by
  rw [h.state_eq s]
  rfl

/-- A quiet computation leaves the peak as it was. -/
theorem Quiet.peak_eq {x : Eval α} (h : Quiet x) (s : State) : (x.run s).2.peak = s.peak := by
  rw [h.state_eq s]
  rfl

end Eval

end SparqlScalar
