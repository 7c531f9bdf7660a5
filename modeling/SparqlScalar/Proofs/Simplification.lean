import SparqlScalar.Proofs.Transparent

/-!
# Simplification

    Simplification takes chains without a continuation away.  A chain costs a level of nesting and
    does nothing else, so an expression and its simplification run alike in states that differ only
    in how deep the evaluation is.

    The proof is a SIMULATION: states are related by `State.SameButDepth`, what a construct does by
    itself keeps the relation since it is quiet, and its operands keep it by induction on the levels.
-/

namespace SparqlScalar

namespace State

/-- Two states that differ at most in the depth and its peak. -/
def SameButDepth (s t : State) : Prop := ∃ depth peak, t = s.withDepth depth peak

namespace SameButDepth

theorem refl (s : State) : SameButDepth s s := ⟨s.depth, s.peak, rfl⟩

/-- A state that is a level down on the left differs in the depth alone. -/
theorem deeper_left {s t : State} (h : SameButDepth s t) : SameButDepth s.deeper t := by
  obtain ⟨depth, peak, rfl⟩ := h
  exact ⟨depth, peak, rfl⟩

/-- A state that is a level down on the right differs in the depth alone. -/
theorem deeper_right {s t : State} (h : SameButDepth s t) : SameButDepth s t.deeper := by
  obtain ⟨depth, peak, rfl⟩ := h
  exact ⟨depth + 1, max peak (depth + 1), rfl⟩

/-- A state that has left a level differs in the depth alone. -/
theorem shallower_left {s t : State} (h : SameButDepth s t) : SameButDepth s.shallower t := by
  obtain ⟨depth, peak, rfl⟩ := h
  exact ⟨depth, peak, rfl⟩

theorem shallower_right {s t : State} (h : SameButDepth s t) : SameButDepth s t.shallower := by
  obtain ⟨depth, peak, rfl⟩ := h
  exact ⟨depth - 1, peak, rfl⟩

end SameButDepth

end State

open State (SameButDepth)

/-- Two computations that run alike in states that differ at most in the depth. -/
def Eval.Alike {α : Type} (x y : Eval α) : Prop :=
  ∀ s t, SameButDepth s t →
    (x.run s).1 = (y.run t).1 ∧ SameButDepth (x.run s).2 (y.run t).2

/-- A quiet computation runs alike from both states. -/
theorem Eval.Quiet.alike {α : Type} {x : Eval α} (h : Quiet x) : Alike x x := by
  rintro s t ⟨depth, peak, rfl⟩
  rw [h s depth peak]
  exact ⟨rfl, depth, peak, rfl⟩

namespace Environment

variable {env : Environment}

/-- Constructs that behave alike run alike if their operands do. -/
theorem node_alike (h : env.registry.IsTransparent) {e e' : Expression}
    {eval eval' : Expression → Eval Term} (hbehaviour : env.behaviour e' = env.behaviour e)
    (hopening : env.opening e' = env.opening e)
    (hoperands : ∀ place, place < e.operands.length →
      Eval.Alike (eval (e.operand place)) (eval' (e'.operand place))) :
    Eval.Alike (env.node eval e) (env.node eval' e') := by
  intro s t hst
  have hopened : SameButDepth (env.opened e s) (env.opened e' t) := by
    unfold opened
    rw [hopening]
    exact ((env.quiet_opening e).alike s t hst).2
  have hasks : (env.behaviour e).Asks fun query => ∀ s t, SameButDepth s t →
      ((answers eval e query).run s).1 = ((answers eval' e' query).run t).1 ∧
        SameButDepth ((answers eval e query).run s).2 ((answers eval' e' query).run t).2 := by
    refine Plan.asks_mono (behaviour_asks h e) ?_
    rintro query ⟨place, rfl, -, hlt⟩
    exact hoperands place (by omega)
  obtain ⟨hvalue, hstate⟩ := Plan.run_simulates hasks hopened
  -- both end in the same quiet computation, in related states
  rw [node_run, node_run, hbehaviour, ← hvalue]
  exact (Plan.gives_run (env.behaviour_quiet e) _).alike _ _ hstate

/-- Computations that run alike do so one level further down. -/
theorem nested_alike {x y : Eval Term} (h : Eval.Alike x y) :
    Eval.Alike (Eval.nested x) (Eval.nested y) := by
  intro s t hst
  obtain ⟨hvalue, hstate⟩ := h s.deeper t.deeper hst.deeper_left.deeper_right
  exact ⟨hvalue, hstate.shallower_left.shallower_right⟩

/-- An expression runs like its simplification, each within enough levels. -/
theorem simplify_alike (h : env.registry.IsTransparent) {levels levels' : Nat} {e : Expression}
    (hdepth : e.depth ≤ levels) (hdepth' : e.simplify.depth ≤ levels') :
    Eval.Alike (env.evaluateWithin levels e) (env.evaluateWithin levels' e.simplify) := by
  induction levels generalizing levels' e with
  | zero => exact absurd (Nat.lt_of_lt_of_le e.depth_pos hdepth) (Nat.lt_irrefl 0)
  | succ levels ih =>
      have hoperand : ∀ d ∈ e.operands, d.depth ≤ levels := fun d hd =>
        Nat.le_of_lt_succ (Nat.lt_of_lt_of_le (Expression.depth_lt_of_mem hd) hdepth)
      rcases Expression.simplify_cases e with ⟨chain, operand, rfl⟩ | heq
      · -- the chain is one level on the left and none on the right
        intro s t hst
        obtain ⟨hvalue, hstate⟩ :=
          ih (hoperand operand List.mem_cons_self) hdepth' s.deeper t hst.deeper_left
        exact ⟨hvalue, hstate.shallower_left⟩
      · have hlen : (e.operands.map Expression.simplify).length = e.operands.length :=
          List.length_map _
        cases levels' with
        | zero =>
            exact absurd (Nat.lt_of_lt_of_le e.simplify.depth_pos hdepth') (Nat.lt_irrefl 0)
        | succ levels' =>
            obtain ⟨hbehaviour, hopening⟩ := behaviour_withOperands h hlen
            rw [heq] at hdepth' ⊢
            refine nested_alike (node_alike h hbehaviour hopening ?_)
            intro place hplace
            have hmem := Expression.operand_mem hplace
            rw [Expression.operand_map hplace]
            refine ih (hoperand _ hmem) (Nat.le_of_lt_succ (Nat.lt_of_lt_of_le ?_ hdepth'))
            refine Expression.depth_lt_of_mem ?_
            rw [Expression.operands_withOperands hlen]
            exact List.mem_map_of_mem hmem

/-- **SIMPLIFICATION IS UNSEEN**: where the depth limit is not below the depth of an expression, its
simplification has the same outcome and the same effects; and it is never deeper. -/
theorem simplify_evaluates_alike (h : env.registry.IsTransparent) (e : Expression) :
    e.simplify.depth ≤ e.depth ∧
      (e.depth ≤ env.config.maxDepth → ∀ s : State,
        ((env.evaluate e.simplify).run s).1 = ((env.evaluate e).run s).1 ∧
          ∃ peak, ((env.evaluate e.simplify).run s).2 =
            { ((env.evaluate e).run s).2 with peak := peak }) := by
  have hle := e.depth_simplify_le
  refine ⟨hle, ?_⟩
  intro hdepth s
  obtain ⟨hvalue, depth, peak, hstate⟩ :=
    simplify_alike h hdepth (Nat.le_trans hle hdepth) s s (SameButDepth.refl s)
  -- both evaluations put the counter back, so the states can differ in the peak alone
  have hcounter : depth = s.depth := by
    have hafter : depth = ((env.evaluate e.simplify).run s).2.depth :=
      (congrArg State.depth hstate).symm
    rw [hafter]
    exact env.evaluateWithin_depth _ _ s
  refine ⟨hvalue.symm, peak, ?_⟩
  refine hstate.trans ?_
  rw [hcounter, ← env.evaluateWithin_depth _ e s]
  rfl

/-- A negated chain, evaluated with a limit of three levels. -/
theorem simplify_negated_chain :
    let env := Environment.bare Registry.casts 3
    let e : Expression := .not (.lone .or (.constant (Term.ofBool true)))
    env.registry.IsTransparent ∧ e.depth ≤ env.config.maxDepth ∧
      ((env.evaluate (.not (.constant (Term.ofBool true)))).run State.initial).1 =
        ((env.evaluate e).run State.initial).1 := by
  intro env e
  have hdepth : e.depth ≤ env.config.maxDepth := Nat.le_refl 3
  exact ⟨Registry.isTransparent_casts, hdepth,
    ((simplify_evaluates_alike Registry.isTransparent_casts e).2 hdepth State.initial).1⟩

end Environment

end SparqlScalar
