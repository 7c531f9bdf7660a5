import SparqlScalar.Proofs.NodePlan

/-!
# The behaviour of a construct

    The behaviour of a construct is its plan with failures carried to the end: it asks, and ends in
    what the construct does by itself.  `node_run` is the run of a construct in terms of its
    behaviour, and what the construct does by itself is quiet (`behaviour_quiet`).  All of this holds
    for every registry, raw functions included.

    A construct therefore touches the depth counter through its queries alone, and keeps whatever
    they keep (`node_keeps`).  The first use of this is that evaluation puts the counter back
    (`evaluateWithin_depth`).
-/

namespace SparqlScalar

/-- What a function does by itself is quiet. -/
theorem Builtin.quiet_apply (f : Builtin) (env : Environment) (args : List Term) :
    Eval.Quiet (f.apply env args) := by
  cases f with
  | bnode =>
      match args with
      | [] | [.literal _] => exact Eval.quiet_bind (Eval.quiet_request _) fun _ => Eval.quiet_pure _
      | [.iri _] | [.blank _] => exact Eval.quiet_ofResult _
      | .literal _ :: _ :: _ | .iri _ :: _ :: _ | .blank _ :: _ :: _ =>
          exact Eval.quiet_ofResult _
  | uuid | strUuid | rand =>
      exact Eval.quiet_bind (Eval.quiet_draw env.entropy) fun _ => Eval.quiet_pure _
  | _ => exact Eval.quiet_ofResult _

namespace Eval

/-- What a failure or a computation does. -/
def settle {α : Type} : EvalResult (Eval α) → Eval α
  | .ok own => own
  | .error e => ofResult (.error e)

end Eval

namespace Plan

/-- A plan that may fail ends in quiet computations. -/
def EndsQuietly (p : ExceptT EvalError Plan (Eval Term)) : Prop :=
  p.run.Gives fun r => Eval.Quiet (Eval.settle r)

theorem endsQuietly_pure {own : Eval Term} (h : Eval.Quiet own) : EndsQuietly (pure own) := h

theorem endsQuietly_bind {α : Type} (p : ExceptT EvalError Plan α)
    {f : α → ExceptT EvalError Plan (Eval Term)} (hf : ∀ a, EndsQuietly (f a)) :
    EndsQuietly (p >>= f) := by
  refine gives_bind p.run fun r => ?_
  cases r with
  | ok a => exact hf a
  | error e => exact Eval.quiet_ofResult _

end Plan

namespace Environment

open Plan (value values questions perform endsQuietly_pure endsQuietly_bind)

/-- Whether there is a solution, as the first item tells. -/
def found : Option (EvalResult Bindings) → EvalResult Bool
  | none => .ok false
  | some item => item.map fun _ => true

/-- What EXISTS pulls. -/
def pull (env : Environment) (source : PatternSource) (pattern : String) : Event :=
  .pulled source.counter pattern (source.solutions pattern env.context.thaw.toScope 0).passed

/-- EXISTS pulls one item and looks at it. -/
theorem hasSolution_run {env : Environment} {source : PatternSource}
    (h : env.context.patterns = some source) (pattern : String) (s : State) :
    (env.hasSolution pattern).run s =
      (found (source.solutions pattern env.context.thaw.toScope 0).item,
        { s with log := env.pull source pattern :: s.log }) := by
  have hpull : env.hasSolution pattern = Eval.record (env.pull source pattern) >>= fun _ =>
      match (source.solutions pattern env.context.thaw.toScope 0).item with
      | none => pure false
      | some item => Eval.ofResult (item.map fun _ => true) := by
    unfold hasSolution
    rw [h]
    rfl
  rw [hpull, Eval.run_bind]
  cases (source.solutions pattern env.context.thaw.toScope 0).item with
  | none => rfl
  | some item => rfl

/-- Without a source of solutions EXISTS fails and does nothing. -/
theorem hasSolution_run_none {env : Environment} (h : env.context.patterns = none)
    (pattern : String) (s : State) :
    (env.hasSolution pattern).run s = (evaluationError .noPatternEvaluator, s) := by
  unfold hasSolution
  rw [h]
  rfl

theorem quiet_hasSolution (env : Environment) (pattern : String) :
    Eval.Quiet (env.hasSolution pattern) := by
  intro s depth peak
  cases hpatterns : env.context.patterns with
  | none => rw [hasSolution_run_none hpatterns, hasSolution_run_none hpatterns]
  | some source =>
      rw [hasSolution_run hpatterns, hasSolution_run hpatterns]
      rfl

theorem quiet_opening (env : Environment) (e : Expression) : Eval.Quiet (env.opening e) := by
  unfold opening
  split
  · split
    · exact Eval.quiet_record _
    · exact Eval.quiet_pure _
  · exact Eval.quiet_pure _

/-- What a construct asks for, ending in what it does by itself. -/
noncomputable def behaviour (env : Environment) (e : Expression) : Plan (Eval Term) :=
  (env.plan e).run >>= fun r => .done (Eval.settle r)

/-- The state in which a construct starts to ask. -/
def opened (env : Environment) (e : Expression) (s : State) : State := ((env.opening e).run s).2

theorem opening_outcome (env : Environment) (e : Expression) (s : State) :
    ((env.opening e).run s).1 = .ok () := by
  unfold opening
  split
  · split <;> rfl
  · rfl

/-- A construct runs as its behaviour does, and then does what that ends in. -/
theorem node_run (env : Environment) (eval : Expression → Eval Term) (e : Expression)
    (s : State) :
    (env.node eval e).run s =
      ((env.behaviour e).run (answers eval e) (env.opened e s)).1.run
        ((env.behaviour e).run (answers eval e) (env.opened e s)).2 := by
  rw [node_eq, Eval.run_bind_ok (env.opening_outcome e s)]
  unfold behaviour
  rw [Plan.run_bind, Eval.run_bind]
  -- both sides now run the plan, and differ in where its failure is settled
  have hperform : (perform (answers eval e) (env.plan e)).run ((env.opening e).run s).2 =
      (env.plan e).run.run (answers eval e) (env.opened e s) := rfl
  rw [hperform]
  cases ((env.plan e).run.run (answers eval e) (env.opened e s)).1 with
  | ok own => rfl
  | error x => rfl

theorem plan_endsQuietly (env : Environment) (e : Expression) :
    Plan.EndsQuietly (env.plan e) := by
  cases e with
  | constant _ | bound _ => exact Eval.quiet_pure _
  | var name =>
      refine endsQuietly_pure ?_
      split
      · exact Eval.quiet_pure _
      · exact Eval.quiet_ofResult _
  | lone _ _ | coalesce _ => exact endsQuietly_bind _ fun _ => Eval.quiet_pure _
  | or _ _ | and _ _ => exact endsQuietly_bind _ fun _ => Eval.quiet_pure _
  | compare _ _ _ | additive _ _ | multiplicative _ _ =>
      exact endsQuietly_bind _ fun _ => endsQuietly_bind _ fun _ => Eval.quiet_ofResult _
  | isIn _ _ _ =>
      exact endsQuietly_bind _ fun _ => endsQuietly_bind _ fun _ => Eval.quiet_pure _
  | not _ | negate _ | plus _ => exact endsQuietly_bind _ fun _ => Eval.quiet_ofResult _
  | conditional _ _ _ =>
      refine endsQuietly_bind _ fun a => ?_
      split
      · exact endsQuietly_bind _ fun _ => Eval.quiet_pure _
      · exact endsQuietly_bind _ fun _ => Eval.quiet_pure _
      · exact Eval.quiet_ofResult _
  | builtin function arguments =>
      simp only [plan]
      split
      · exact endsQuietly_bind _ fun terms => function.quiet_apply env terms
      · exact Eval.quiet_ofResult _
  | solvable negated pattern =>
      exact Eval.quiet_bind (env.quiet_hasSolution pattern) fun _ => Eval.quiet_pure _
  | call iri arguments =>
      simp only [plan]
      split
      · exact Eval.quiet_ofResult _
      · split
        · unfold castPlan
          split
          · exact Eval.quiet_ofResult _
          · exact endsQuietly_bind _ fun _ => Eval.quiet_ofResult _
          · exact Eval.quiet_ofResult _
        · unfold callPlan
          split
          · split
            · exact endsQuietly_bind _ fun _ =>
                Eval.quiet_bind (Eval.quiet_record _) fun _ => Eval.quiet_ofResult _
            · exact Eval.quiet_ofResult _
          · exact endsQuietly_bind _ fun _ => Eval.quiet_pure _

/-- A construct ends in a quiet computation. -/
theorem behaviour_quiet (env : Environment) (e : Expression) :
    (env.behaviour e).Gives Eval.Quiet := by
  have h := env.plan_endsQuietly e
  unfold behaviour
  unfold Plan.EndsQuietly at h
  revert h
  -- the ends of the behaviour are the settled ends of the plan
  generalize (env.plan e).run = p
  intro h
  induction p with
  | done r => exact h
  | ask query next ih =>
      intro outcome
      exact ih outcome (h outcome)

/-- What a construct preserves: a property of the depth counter and its peak that every evaluation
keeps is kept by the construct, and every query finds it. -/
theorem node_keeps (env : Environment) {eval : Expression → Eval Term} {I : State → Prop}
    (hcounter : ∀ s t, t.depth = s.depth → t.peak = s.peak → I s → I t)
    (heval : ∀ d s, I s → I ((eval d).run s).2) (e : Expression) {s : State} (hs : I s) :
    I ((env.node eval e).run s).2 ∧
      ∀ step ∈ (env.behaviour e).trace (answers eval e) (env.opened e s), I step.before := by
  have hquiet : ∀ {α : Type} {x : Eval α}, Eval.Quiet x → ∀ t, I t → I (x.run t).2 :=
    fun hx t ht => hcounter t _ (hx.depth_eq t) (hx.peak_eq t) ht
  have hanswer : ∀ query t, I t → I ((answers eval e query).run t).2 := by
    intro query t ht
    cases query with
    | operand place => exact heval _ t ht
    | other d => exact heval d t ht
  have hopened : I (env.opened e s) := hquiet (env.quiet_opening e) s hs
  obtain ⟨hrun, htrace⟩ := Plan.run_keeps hanswer (env.behaviour e) hopened
  -- what the construct does by itself comes before the queries and after them
  refine ⟨?_, htrace⟩
  rw [node_run]
  exact hquiet (Plan.gives_run (env.behaviour_quiet e) _) _ hrun

/-! ## Expressions -/

/-- Two expressions run alike if they behave alike and what the first asks for is answered alike. -/
theorem run_eq_of_behaviour {env env' : Environment} {levels levels' : Nat} {e e' : Expression}
    {s : State} (hbehaviour : env'.behaviour e' = env.behaviour e)
    (hopening : env'.opening e' = env.opening e)
    (hanswers : ∀ step ∈ (env.behaviour e).trace (answers (env.evaluateWithin levels) e)
        (env.opened e s.deeper),
      (answers (env'.evaluateWithin levels') e' step.query).run step.before =
        (answers (env.evaluateWithin levels) e step.query).run step.before) :
    (env'.evaluateWithin (levels' + 1) e').run s = (env.evaluateWithin (levels + 1) e).run s := by
  have hopened : env'.opened e' s.deeper = env.opened e s.deeper := by
    unfold opened
    rw [hopening]
  have hnode : (env'.node (env'.evaluateWithin levels') e').run s.deeper =
      (env.node (env.evaluateWithin levels) e).run s.deeper := by
    rw [node_run, node_run, hbehaviour, hopened, (Plan.run_congr hanswers).1]
  show (Eval.nested (env'.node (env'.evaluateWithin levels') e')).run s =
    (Eval.nested (env.node (env.evaluateWithin levels) e)).run s
  rw [Eval.run_nested, Eval.run_nested, hnode]

/-- Evaluation leaves the depth counter as it was, whatever the functions do. -/
theorem evaluateWithin_depth (env : Environment) (levels : Nat) (e : Expression) (s : State) :
    ((env.evaluateWithin levels e).run s).2.depth = s.depth := by
  induction levels generalizing e s with
  | zero => rfl
  | succ levels ih =>
      -- operands find the counter one above, so each of them puts it back to there
      obtain ⟨hnode, -⟩ := env.node_keeps (I := fun t => t.depth = s.depth + 1)
        (fun _ _ hdepth _ h => hdepth.trans h) (fun d t h => (ih d t).trans h) e (s := s.deeper) rfl
      show ((env.node (env.evaluateWithin levels) e).run s.deeper).2.depth - 1 = s.depth
      rw [hnode]
      rfl

end Environment

end SparqlScalar
