import SparqlScalar.Proofs.BlankNodes

/-!
# Coincidence

    An expression without EXISTS reads of its context the variables that occur in it, the current
    time and the base IRI, and it draws on blank nodes and random numbers.  Two evaluations in which
    these are the same have the same outcome and draw alike, whatever else their contexts bind.

    The statement is a case of `Proofs.Related`: the states are related if they supply the same, and
    every construct within the expression reads its context alike, since what a construct asks for
    is one of its operands and so occurs in the expression.
-/

namespace SparqlScalar

/-- Two contexts are the same to an expression: they bind the variables alike that occur in it, and
have one time and one base IRI. -/
structure Context.AgreesOn (e : Expression) (context context' : Context) : Prop where
  lookup : ∀ name, e.Mentions name → context'.lookup name = context.lookup name
  now : context'.now = context.now
  base : context'.base = context.base

/-- Two states supply the same to evaluations in two environments: the caches have the same nodes,
and the nodes and numbers that are drawn next are the same. -/
structure Environment.SupplyAlike (env env' : Environment) (s t : State) : Prop where
  cache : ∀ literal, (t.caches env'.context.cache).lookup literal =
    (s.caches env.context.cache).lookup literal
  nodes : t.nodes = s.nodes
  numbers : ∀ k, env'.entropy (t.draws + k) = env.entropy (s.draws + k)

namespace Environment

open Eval (Related)

variable {env env' : Environment} {s t : State}

/-- What does not touch caches, nodes and numbers keeps the supplies alike. -/
theorem SupplyAlike.of_eq (h : SupplyAlike env env' s t) {s' t' : State}
    (hs : s'.caches = s.caches ∧ s'.nodes = s.nodes ∧ s'.draws = s.draws)
    (ht : t'.caches = t.caches ∧ t'.nodes = t.nodes ∧ t'.draws = t.draws) :
    SupplyAlike env env' s' t' where
  cache := by
    rw [hs.1, ht.1]
    exact h.cache
  nodes := by
    rw [hs.2.1, ht.2.1]
    exact h.nodes
  numbers := by
    rw [hs.2.2, ht.2.2]
    exact h.numbers

/-- Requests that have the same node or both none get the same, and supply the same after. -/
theorem request_supplyAlike {r r' : NodeRequest}
    (hkept : ∀ s t, SupplyAlike env env' s t → t.kept? r' = s.kept? r)
    (hentered : ∀ s t node, SupplyAlike env env' s t → ∀ literal,
      ((State.withEntry t.caches r' node) env'.context.cache).lookup literal =
        ((State.withEntry s.caches r node) env.context.cache).lookup literal) :
    Related (SupplyAlike env env') (Eval.request r) (Eval.request r') := by
  intro s t hst
  cases hs : s.kept? r with
  | some node =>
      have ht : t.kept? r' = some node := (hkept s t hst).trans hs
      rw [Eval.run_request_some hs, Eval.run_request_some ht]
      exact ⟨rfl, hst.of_eq ⟨rfl, rfl, rfl⟩ ⟨rfl, rfl, rfl⟩⟩
  | none =>
      have ht : t.kept? r' = none := (hkept s t hst).trans hs
      obtain ⟨hnode, -, hcaches, hnodes, hdraws⟩ := Eval.run_request_none hs
      obtain ⟨hnode', -, hcaches', hnodes', hdraws'⟩ := Eval.run_request_none ht
      refine ⟨?_, ?_, ?_, ?_⟩
      · rw [hnode, hnode', hst.nodes]
      · rw [hcaches, hcaches', hst.nodes]
        exact hentered s t _ hst
      · rw [hnodes, hnodes', hst.nodes]
      · rw [hdraws, hdraws']
        exact hst.numbers

theorem draw_supplyAlike :
    Related (SupplyAlike env env') (Eval.draw env.entropy) (Eval.draw env'.entropy) := by
  intro s t hst
  refine ⟨congrArg Except.ok (hst.numbers 0).symm, hst.cache, hst.nodes, ?_⟩
  intro k
  have hnext := hst.numbers (1 + k)
  rw [← Nat.add_assoc, ← Nat.add_assoc] at hnext
  exact hnext

theorem simulates_supplyAlike (h : env.registry.IsTransparent)
    (hregistry : env'.registry = env.registry) (hconfig : env'.config = env.config)
    (hnow : env'.context.now = env.context.now) (hbase : env'.context.base = env.context.base) :
    Simulates (SupplyAlike env env') env env' where
  registry := hregistry
  config := hconfig
  now := hnow
  base := hbase
  scripts := h.actsAlike env.config env.context env'.context
  requestOwn := request_supplyAlike (fun _ _ _ => rfl) fun _ _ _ hst => hst.cache
  requestFor := by
    intro literal
    refine request_supplyAlike (fun _ _ hst => hst.cache literal) ?_
    intro s t node hst wanted
    simp only [State.withEntry, if_true, List.lookup_cons, hst.cache wanted]
  draw := draw_supplyAlike
  called := fun _ _ _ _ hst => ⟨rfl, hst.of_eq ⟨rfl, rfl, rfl⟩ ⟨rfl, rfl, rfl⟩⟩
  rawCalled := fun _ _ _ _ _ hst => ⟨rfl, hst.of_eq ⟨rfl, rfl, rfl⟩ ⟨rfl, rfl, rfl⟩⟩
  deeper := fun _ _ hst => hst.of_eq ⟨rfl, rfl, rfl⟩ ⟨rfl, rfl, rfl⟩
  shallower := fun _ _ hst => hst.of_eq ⟨rfl, rfl, rfl⟩ ⟨rfl, rfl, rfl⟩

/-- What a construct asks for occurs where the construct does. -/
theorem asked_occurs (h : env.registry.IsTransparent) {e d : Expression} (hd : e.Contains d) :
    (env.behaviour d).Asks fun query => e.Contains (d.asked query) := by
  refine Plan.asks_mono (behaviour_asks h d) ?_
  rintro query ⟨place, rfl, -, hlt⟩
  have hplace : place < d.operands.length := by omega
  exact hd.operand_of (Expression.operand_mem hplace)

/-- Runs that are related effect by effect are related for an expression without EXISTS if the
variables in it are bound alike. -/
theorem evaluate_related {R : State → State → Prop} (hsim : Simulates R env env')
    (h : env.registry.IsTransparent) {e : Expression} (he : e.HasNoPattern)
    (hlookup : ∀ name, e.Mentions name → env'.context.lookup name = env.context.lookup name) :
    Related R (env.evaluate e) (env'.evaluate e) := by
  have hreads : ∀ d, e.Contains d → ReadsAlike R env env' d := by
    intro d hd
    cases d with
    | var name => exact hlookup name (Or.inl hd)
    | bound name => exact hlookup name (Or.inr hd)
    | solvable negated pattern => exact absurd hd (he negated pattern)
    | _ => exact trivial
  have hlevels : env'.config.maxDepth = env.config.maxDepth := by rw [hsim.config]
  unfold evaluate
  rw [hlevels]
  exact evaluateWithin_related hsim hreads (fun _ => asked_occurs h) env.config.maxDepth (.self e)

/-- The environment with other bindings. -/
def withBindings (env : Environment) (bindings : Bindings) : Environment :=
  { env with context := { env.context with bindings := bindings } }

/-- Bindings that agree on the variables of an expression give the same run. -/
theorem evaluate_withBindings (h : env.registry.IsTransparent) {e : Expression}
    (he : e.HasNoPattern) {bindings : Bindings}
    (hlookup : ∀ name, e.Mentions name → bindings.get? name = env.context.lookup name) (s : State) :
    ((env.withBindings bindings).evaluate e).run s = (env.evaluate e).run s := by
  have hsim : Simulates Eq env (env.withBindings bindings) := {
    registry := rfl
    config := rfl
    now := rfl
    base := rfl
    scripts := h.actsAlike _ _ _
    requestOwn := Eval.related_eq _
    requestFor := fun _ => Eval.related_eq _
    draw := Eval.related_eq _
    called := fun _ _ => Eval.related_eq _
    rawCalled := fun _ _ _ => Eval.related_eq _
    deeper := fun _ _ hst => congrArg State.deeper hst
    shallower := fun _ _ hst => congrArg State.shallower hst }
  obtain ⟨hvalue, hstate⟩ := evaluate_related hsim h he hlookup s s rfl
  exact Prod.ext hvalue.symm hstate.symm

/-- **COINCIDENCE**: an expression without EXISTS has the same outcome in two contexts that bind the
variables alike that occur in it and agree on the time and the base IRI, if the caches have the same
nodes and the same nodes and numbers are drawn; and then the caches have the same nodes again.  To
bind, rebind or unbind any other variable changes nothing in a run. -/
theorem evaluate_coincides (h : env.registry.IsTransparent) {e : Expression} (he : e.HasNoPattern) :
    (∀ (env' : Environment) (s t : State), env'.registry = env.registry →
      env'.config = env.config → env.context.AgreesOn e env'.context → SupplyAlike env env' s t →
        ((env.evaluate e).run s).1 = ((env'.evaluate e).run t).1 ∧
          SupplyAlike env env' ((env.evaluate e).run s).2 ((env'.evaluate e).run t).2) ∧
      ∀ name, ¬ e.Mentions name → ∀ s : State,
        (∀ term, ((env.withBindings (env.context.bindings.bind name term)).evaluate e).run s =
          (env.evaluate e).run s) ∧
        ((env.withBindings (withoutKey name env.context.bindings)).evaluate e).run s =
          (env.evaluate e).run s := by
  constructor
  · intro env' s t hregistry hconfig hagree hst
    exact evaluate_related (simulates_supplyAlike h hregistry hconfig hagree.now hagree.base) h he
      hagree.lookup s t hst
  · intro name hunused s
    have hne : ∀ other, e.Mentions other → (other == name) = false := by
      intro other hother
      refine beq_eq_false_iff_ne.mpr ?_
      rintro rfl
      exact hunused hother
    constructor
    · intro term
      refine evaluate_withBindings h he (fun other hother => ?_) s
      rw [Bindings.get?_bind, hne other hother]
      rfl
    · refine evaluate_withBindings h he (fun other hother => ?_) s
      unfold Bindings.get?
      rw [lookup_withoutKey, hne other hother]
      rfl

/-- What BNODE gives for a variable does not depend on another variable. -/
theorem bnode_ignores_other_variables :
    let e : Expression := .builtin .bnode [.var "x"]
    let env := (bare Registry.casts 2).withBindings [("x", Term.simple "a")]
    let env' := env.withBindings [("y", Term.simple "b"), ("x", Term.simple "a")]
    env.registry.IsTransparent ∧ e.HasNoPattern ∧ env.context.AgreesOn e env'.context ∧
      ((env.evaluate e).run State.initial).1 = ((env'.evaluate e).run State.initial).1 := by
  intro e env env'
  -- the expression contains itself and the variable, and nothing else
  have hcontains : ∀ d, e.Contains d → d = e ∨ d = .var "x" := by
    intro d hd
    cases hd with
    | self => exact Or.inl rfl
    | operand hmem hd =>
        obtain rfl := List.mem_singleton.mp hmem
        cases hd with
        | self => exact Or.inr rfl
        | operand hnone _ => exact nomatch hnone
  have hpattern : e.HasNoPattern := by
    intro negated pattern hd
    rcases hcontains _ hd with heq | heq
    · exact nomatch heq
    · exact nomatch heq
  have hagree : env.context.AgreesOn e env'.context := by
    refine ⟨?_, rfl, rfl⟩
    rintro name (hd | hd)
    · rcases hcontains _ hd with heq | heq
      · exact nomatch heq
      · rw [Expression.var.inj heq]
        rfl
    · rcases hcontains _ hd with heq | heq
      · exact nomatch heq
      · exact nomatch heq
  have hsupply : SupplyAlike env env' State.initial State.initial :=
    ⟨fun _ => rfl, rfl, fun _ => rfl⟩
  have htransparent : env.registry.IsTransparent := Registry.isTransparent_casts
  have hruns := (evaluate_coincides htransparent hpattern).1 env' State.initial State.initial
    rfl rfl hagree hsupply
  exact ⟨htransparent, hpattern, hagree, hruns.1⟩

end Environment

end SparqlScalar
