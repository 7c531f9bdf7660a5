import SparqlScalar.Proofs.Transparent

/-!
# Related runs

    Two evaluations can be compared although their environments differ: other bindings, another
    source of solutions, another cache.  The comparison is a relation between states.  Two
    computations are RELATED if from related states they have the same outcome and leave related
    states again.

      plans        -- two plans MATCH if they ask the same and end in related values
      constructs   -- related if their plans match and their queries are answered alike
      expressions  -- by induction on the levels

    What is left to show for a relation is a list of facts about single effects
    (`Environment.Simulates`) and what a construct reads from its context
    (`Environment.ReadsAlike`).  A property of single states is the case of a relation that holds
    between a state and itself (`Eval.related_self_iff`), and then the theorem says that every
    evaluation keeps the property (`Environment.evaluateWithin_keeps`).

    All of this holds for every registry.
-/

namespace SparqlScalar

namespace Eval

variable {α β : Type} {R : State → State → Prop}

/-- From related states, the outcomes are the same and the states that are left are related. -/
def Related (R : State → State → Prop) (x y : Eval α) : Prop :=
  ∀ s t, R s t → (x.run s).1 = (y.run t).1 ∧ R (x.run s).2 (y.run t).2

/-- A known outcome has no effect. -/
theorem related_ofResult (r : EvalResult α) : Related R (ofResult r) (ofResult r) :=
  fun _ _ h => ⟨rfl, h⟩

theorem related_pure (a : α) : Related R (pure a : Eval α) (pure a) := fun _ _ h => ⟨rfl, h⟩

theorem related_eq (x : Eval α) : Related Eq x x := by
  rintro s _ rfl
  exact ⟨rfl, rfl⟩

/-- Sequences are related part by part, where the values agree. -/
theorem related_bind {x y : Eval α} {f g : α → Eval β} (hxy : Related R x y)
    (hfg : ∀ a, Related R (f a) (g a)) : Related R (x >>= f) (y >>= g) := by
  intro s t hst
  obtain ⟨hvalue, hstate⟩ := hxy s t hst
  cases hx : (x.run s).1 with
  | ok a =>
      rw [run_bind_ok hx, run_bind_ok (hvalue.symm.trans hx)]
      exact hfg a _ _ hstate
  | error e =>
      rw [run_bind_error hx, run_bind_error (hvalue.symm.trans hx)]
      exact ⟨rfl, hstate⟩

/-- The levels of nesting that two related computations open are related. -/
theorem related_nested {x y : Eval α} (hdeeper : ∀ s t, R s t → R s.deeper t.deeper)
    (hshallower : ∀ s t, R s t → R s.shallower t.shallower) (hxy : Related R x y) :
    Related R (nested x) (nested y) := by
  intro s t hst
  obtain ⟨hvalue, hstate⟩ := hxy s.deeper t.deeper (hdeeper s t hst)
  exact ⟨hvalue, hshallower _ _ hstate⟩

/-- A property that a computation keeps. -/
def Keeps (I : State → Prop) (x : Eval α) : Prop := ∀ s, I s → I (x.run s).2

/-- To keep a property is to be related to oneself. -/
theorem related_self_iff {I : State → Prop} {x : Eval α} :
    Related (fun s t => s = t ∧ I s) x x ↔ Keeps I x := by
  constructor
  · intro h s hs
    exact (h s s ⟨rfl, hs⟩).2.2
  · rintro h s _ ⟨rfl, hs⟩
    exact ⟨rfl, rfl, h s hs⟩

end Eval

open Eval (Related Keeps related_ofResult related_pure related_bind related_nested
  related_self_iff)

/-! ## Plans -/

namespace Plan

variable {α β γ δ : Type} {Q : α → β → Prop} {R : State → State → Prop}

/-- Two plans that ask the same, and end in related values. -/
inductive Matches (Q : α → β → Prop) : Plan α → Plan β → Prop where
  | done {a : α} {b : β} (h : Q a b) : Matches Q (.done a) (.done b)
  | ask {query : Query} {next : EvalResult Term → Plan α} {next' : EvalResult Term → Plan β}
      (h : ∀ outcome, Matches Q (next outcome) (next' outcome)) :
      Matches Q (.ask query next) (.ask query next')

theorem matches_refl {Q : α → α → Prop} (h : ∀ a, Q a a) (p : Plan α) : Matches Q p p := by
  induction p with
  | done value => exact .done (h value)
  | ask query next ih => exact .ask ih

/-- Plans match part by part. -/
theorem matches_bind {S : γ → δ → Prop} {p : Plan α} {p' : Plan β} {f : α → Plan γ}
    {f' : β → Plan δ} (hp : Matches Q p p') (hf : ∀ a b, Q a b → Matches S (f a) (f' b)) :
    Matches S (p >>= f) (p' >>= f') := by
  induction hp with
  | done h => exact hf _ _ h
  | ask _ ih => exact .ask ih

/-- Plans that match run through the same outcomes, if their queries are answered alike. -/
theorem run_matches {answer answer' : Query → Eval Term} {p : Plan α} {p' : Plan β}
    (hp : Matches Q p p') (hasks : p.Asks fun query => Related R (answer query) (answer' query))
    {s t : State} (hst : R s t) :
    Q (p.run answer s).1 (p'.run answer' t).1 ∧ R (p.run answer s).2 (p'.run answer' t).2 := by
  induction hp generalizing s t with
  | done h => exact ⟨h, hst⟩
  | @ask query next next' _ ih =>
      obtain ⟨hquery, hnext⟩ := hasks
      obtain ⟨hvalue, hstate⟩ := hquery s t hst
      -- the outcome is the same, so both runs go on with plans that match
      have houtcome : (Step.ofAnswer answer query s).outcome =
          (Step.ofAnswer answer' query t).outcome := hvalue
      have hrest := ih _ (hnext (Step.ofAnswer answer query s).outcome) hstate
      rw [houtcome] at hrest
      show Q ((next (Step.ofAnswer answer query s).outcome).run answer _).1 _ ∧
        R ((next (Step.ofAnswer answer query s).outcome).run answer _).2 _
      rw [houtcome]
      exact hrest

theorem asks_trivial (p : Plan α) : p.Asks fun _ => True := by
  induction p with
  | done value => exact trivial
  | ask query next ih => exact ⟨trivial, ih⟩

/-- A plan that matches itself ends in values that are related to themselves. -/
theorem gives_of_matches {Q : α → α → Prop} {p : Plan α} (h : Matches Q p p) :
    p.Gives fun a => Q a a := by
  induction p with
  | done value =>
      cases h with
      | done hvalue => exact hvalue
  | ask query next ih =>
      cases h with
      | ask hnext =>
          intro outcome
          exact ih outcome (hnext outcome)

/-- Plans that may fail, and end in related computations where they do not. -/
def EndRelated (R : State → State → Prop) (p p' : ExceptT EvalError Plan (Eval Term)) : Prop :=
  p.run.Matches (fun r r' => Related R (Eval.settle r) (Eval.settle r')) p'.run

theorem endRelated_pure {own own' : Eval Term} (h : Related R own own') :
    EndRelated R (pure own) (pure own') := .done h

/-- Plans that ask alike end alike if their ends are. -/
theorem endRelated_bind (p : ExceptT EvalError Plan γ)
    {f f' : γ → ExceptT EvalError Plan (Eval Term)} (hf : ∀ c, EndRelated R (f c) (f' c)) :
    EndRelated R (p >>= f) (p >>= f') := by
  refine matches_bind (matches_refl (fun _ => rfl) p.run) ?_
  rintro r _ rfl
  cases r with
  | ok c => exact hf c
  | error e => exact .done (related_ofResult _)

end Plan

/-! ## Constructs -/

/-- The raw functions of a registry do the same in two contexts. -/
def Registry.ActsAlike (registry : Registry) (config : Config) (context context' : Context) :
    Prop :=
  ∀ iri id script, registry.get? iri = some (.raw id script) →
    ∀ call, script call context' config = script call context config

/-- The casts do not look at the context. -/
theorem Registry.IsTransparent.actsAlike {registry : Registry} (h : registry.IsTransparent)
    (config : Config) (context context' : Context) :
    registry.ActsAlike config context context' := by
  intro iri id script hget call
  rcases h iri _ hget with hvalue | ⟨target, hcast⟩
  · exact nomatch hvalue
  · obtain ⟨-, rfl⟩ := CustomFunction.raw.inj hcast
    rfl

/-- What an expression asks for with a query. -/
def Expression.asked (e : Expression) : Query → Expression
  | .operand place => e.operand place
  | .other d => d

namespace Environment

open Plan (Matches EndRelated endRelated_pure endRelated_bind)

variable {env env' : Environment} {R : State → State → Prop}

/-- The answer to a question is the evaluation of what it asks for. -/
theorem answers_eq (eval : Expression → Eval Term) (e : Expression) (query : Query) :
    answers eval e query = eval (e.asked query) := by
  cases query <;> rfl

/-- The effects in one environment are related to those in another, which has the same functions,
limits and time. -/
structure Simulates (R : State → State → Prop) (env env' : Environment) : Prop where
  registry : env'.registry = env.registry
  config : env'.config = env.config
  now : env'.context.now = env.context.now
  base : env'.context.base = env.context.base
  scripts : env.registry.ActsAlike env.config env.context env'.context
  requestOwn : Related R (Eval.request .own) (Eval.request .own)
  requestFor : ∀ literal, Related R (Eval.request (.forLiteral env.context.cache literal))
    (Eval.request (.forLiteral env'.context.cache literal))
  draw : Related R (Eval.draw env.entropy) (Eval.draw env'.entropy)
  called : ∀ id terms, Related R (Eval.record (.called id terms)) (Eval.record (.called id terms))
  rawCalled : ∀ id iri count,
    Related R (Eval.record (.rawCalled id iri count)) (Eval.record (.rawCalled id iri count))
  deeper : ∀ s t, R s t → R s.deeper t.deeper
  shallower : ∀ s t, R s t → R s.shallower t.shallower

/-- What a construct reads from its context is the same in two environments. -/
def ReadsAlike (R : State → State → Prop) (env env' : Environment) : Expression → Prop
  | .var name | .bound name => env'.context.lookup name = env.context.lookup name
  | .solvable _ pattern => Related R (env.hasSolution pattern) (env'.hasSolution pattern)
  | _ => True

/-- Two contexts are read alike if they bind alike and give EXISTS alike. -/
theorem readsAlike_of_lookup {e : Expression}
    (hlookup : ∀ name, env'.context.lookup name = env.context.lookup name)
    (hsolution : ∀ negated pattern, e = .solvable negated pattern →
      Related R (env.hasSolution pattern) (env'.hasSolution pattern)) :
    ReadsAlike R env env' e := by
  cases e with
  | var name | bound name => exact hlookup name
  | solvable negated pattern => exact hsolution negated pattern rfl
  | _ => exact trivial

/-- What a construct does before it asks is related. -/
theorem opening_related (h : Simulates R env env') (e : Expression) :
    Related R (env.opening e) (env'.opening e) := by
  cases e with
  | call iri arguments =>
      simp only [opening, h.registry]
      split
      · exact h.rawCalled _ _ _
      · exact related_pure ()
  | _ => exact related_pure ()

/-- Functions without effects look at nothing in which the two sides differ. -/
theorem value_eq (h : Simulates R env env') (f : Builtin) (args : List Term) :
    f.value env'.config env'.context.toScope args =
      f.value env.config env.context.toScope args := by
  cases f with
  | iri =>
      show Builtin.unary (iriOf env'.context.base) args = _
      rw [h.base]
      rfl
  | now =>
      show Except.ok (Value.dateTime env'.context.now).toTerm = _
      rw [h.now]
      rfl
  | regex | replace =>
      rw [h.config]
      rfl
  | _ => rfl

/-- Functions with effects have related ones. -/
theorem apply_related (h : Simulates R env env') (f : Builtin) (args : List Term) :
    Related R (f.apply env args) (f.apply env' args) := by
  cases f with
  | bnode =>
      match args with
      | [] => exact related_bind h.requestOwn fun _ => related_pure _
      | [.literal l] => exact related_bind (h.requestFor l) fun _ => related_pure _
      | [.iri _] | [.blank _] => exact related_ofResult _
      | .literal _ :: _ :: _ | .iri _ :: _ :: _ | .blank _ :: _ :: _ => exact related_ofResult _
  | uuid | strUuid | rand => exact related_bind h.draw fun _ => related_pure _
  | _ =>
      -- no other function has an effect, so what it does is its value
      refine Eq.subst (motive := fun r => Related R _ (Eval.ofResult r)) (value_eq h _ args).symm ?_
      exact related_ofResult _

/-- Casts look at their argument alone. -/
theorem castPlan_related (target : CastTarget) (count : Nat) :
    EndRelated R (castPlan target count) (castPlan target count) := by
  unfold castPlan
  split
  · exact endRelated_pure (related_ofResult _)
  · exact endRelated_bind _ fun _ => endRelated_pure (related_ofResult _)
  · exact endRelated_pure (related_ofResult _)

/-- A call does the same with the same function. -/
theorem callPlan_related (h : Simulates R env env') (iri : Iri) (arguments : List Expression)
    {function : CustomFunction} (hget : env.registry.get? iri = some function) :
    EndRelated R (env.callPlan iri arguments function) (env'.callPlan iri arguments function) := by
  cases function with
  | byValue id arity apply =>
      simp only [callPlan]
      split
      · refine endRelated_bind _ fun terms => endRelated_pure ?_
        exact related_bind (h.called id terms) fun _ => related_ofResult _
      · exact endRelated_pure (related_ofResult _)
  | raw id script =>
      -- the function does the same in both contexts, and so asks the same
      simp only [callPlan, h.config, h.scripts iri id script hget]
      exact endRelated_bind _ fun _ => endRelated_pure (related_pure _)

/-- **PLANS ARE RELATED** where the expression reads alike on both sides. -/
theorem plan_related (h : Simulates R env env') {e : Expression} (he : ReadsAlike R env env' e) :
    EndRelated R (env.plan e) (env'.plan e) := by
  cases e with
  | constant _ => exact endRelated_pure (related_pure _)
  | var name =>
      have hlookup : env'.context.lookup name = env.context.lookup name := he
      simp only [plan, hlookup]
      refine endRelated_pure ?_
      split
      · exact related_pure _
      · exact related_ofResult _
  | bound name =>
      have hlookup : env'.context.lookup name = env.context.lookup name := he
      simp only [plan, hlookup]
      exact endRelated_pure (related_pure _)
  | solvable negated pattern =>
      have hsolution : Related R (env.hasSolution pattern) (env'.hasSolution pattern) := he
      exact endRelated_pure (related_bind hsolution fun _ => related_pure _)
  | lone _ _ | coalesce _ => exact endRelated_bind _ fun _ => endRelated_pure (related_pure _)
  | or _ _ | and _ _ => exact endRelated_bind _ fun _ => endRelated_pure (related_pure _)
  | not _ | negate _ | plus _ =>
      exact endRelated_bind _ fun _ => endRelated_pure (related_ofResult _)
  | compare _ _ _ | additive _ _ | multiplicative _ _ =>
      refine endRelated_bind _ fun _ => ?_
      exact endRelated_bind _ fun _ => endRelated_pure (related_ofResult _)
  | isIn _ _ _ =>
      refine endRelated_bind _ fun _ => ?_
      exact endRelated_bind _ fun _ => endRelated_pure (related_pure _)
  | conditional _ _ _ =>
      refine endRelated_bind _ fun a => ?_
      split
      · exact endRelated_bind _ fun _ => endRelated_pure (related_pure _)
      · exact endRelated_bind _ fun _ => endRelated_pure (related_pure _)
      · exact endRelated_pure (related_ofResult _)
  | builtin function arguments =>
      simp only [plan]
      split
      · exact endRelated_bind _ fun terms => endRelated_pure (apply_related h function terms)
      · exact endRelated_pure (related_ofResult _)
  | call iri arguments =>
      simp only [plan, h.registry]
      cases hget : env.registry.get? iri with
      | none => exact endRelated_pure (related_ofResult _)
      | some function =>
          simp only
          split
          · exact castPlan_related _ _
          · exact callPlan_related h iri arguments hget

/-- A construct behaves alike in both environments. -/
theorem behaviour_related (h : Simulates R env env') {e : Expression}
    (he : ReadsAlike R env env' e) :
    Matches (Related R) (env.behaviour e) (env'.behaviour e) :=
  Plan.matches_bind (plan_related h he) fun _ _ hsettle => .done hsettle

/-- A construct runs alike in both environments, if what it asks for does. -/
theorem node_related (h : Simulates R env env') {e : Expression} (he : ReadsAlike R env env' e)
    {eval eval' : Expression → Eval Term}
    (hasks : (env.behaviour e).Asks fun query =>
      Related R (eval (e.asked query)) (eval' (e.asked query))) :
    Related R (env.node eval e) (env'.node eval' e) := by
  intro s t hst
  have hopened : R (env.opened e s) (env'.opened e t) := (opening_related h e s t hst).2
  have hanswers : (env.behaviour e).Asks fun query =>
      Related R (answers eval e query) (answers eval' e query) := by
    simp only [answers_eq]
    exact hasks
  obtain ⟨hend, hstate⟩ := Plan.run_matches (behaviour_related h he) hanswers hopened
  rw [node_run, node_run]
  exact hend _ _ hstate

/-! ## Expressions -/

/-- **RELATED RUNS**: an expression runs alike in both environments, if the context is read alike
by all constructs that can be asked for. -/
theorem evaluateWithin_related (h : Simulates R env env') {P : Expression → Prop}
    (hreads : ∀ e, P e → ReadsAlike R env env' e)
    (hasks : ∀ e, P e → (env.behaviour e).Asks fun query => P (e.asked query))
    (levels : Nat) {e : Expression} (he : P e) :
    Related R (env.evaluateWithin levels e) (env'.evaluateWithin levels e) := by
  induction levels generalizing e with
  | zero =>
      simp only [evaluateWithin, h.config]
      exact related_ofResult _
  | succ levels ih =>
      refine related_nested h.deeper h.shallower (node_related h (hreads e he) ?_)
      exact Plan.asks_mono (hasks e he) fun _ hquery => ih hquery

/-- If all constructs read the context alike, every expression runs alike. -/
theorem evaluateWithin_related_of_reads (h : Simulates R env env')
    (hreads : ∀ e, ReadsAlike R env env' e) (levels : Nat) (e : Expression) :
    Related R (env.evaluateWithin levels e) (env'.evaluateWithin levels e) :=
  evaluateWithin_related (P := fun _ => True) h (fun d _ => hreads d)
    (fun _ _ => Plan.asks_trivial _) levels trivial

/-! ## Kept properties -/

/-- Every single effect in an environment keeps a property of states; pulling solutions stands
apart. -/
structure EffectsKeep (I : State → Prop) (env : Environment) : Prop where
  requestOwn : Keeps I (Eval.request .own)
  requestFor : ∀ literal, Keeps I (Eval.request (.forLiteral env.context.cache literal))
  draw : Keeps I (Eval.draw env.entropy)
  called : ∀ id terms, Keeps I (Eval.record (.called id terms))
  rawCalled : ∀ id iri count, Keeps I (Eval.record (.rawCalled id iri count))
  deeper : ∀ s, I s → I s.deeper
  shallower : ∀ s, I s → I s.shallower

/-- An invariant of one run is a relation of a run with itself. -/
theorem EffectsKeep.simulates {I : State → Prop} (h : EffectsKeep I env) :
    Simulates (fun s t => s = t ∧ I s) env env where
  registry := rfl
  config := rfl
  now := rfl
  base := rfl
  scripts := fun _ _ _ _ _ => rfl
  requestOwn := related_self_iff.mpr h.requestOwn
  requestFor := fun literal => related_self_iff.mpr (h.requestFor literal)
  draw := related_self_iff.mpr h.draw
  called := fun id terms => related_self_iff.mpr (h.called id terms)
  rawCalled := fun id iri count => related_self_iff.mpr (h.rawCalled id iri count)
  deeper := fun s _ hst => ⟨congrArg State.deeper hst.1, h.deeper s hst.2⟩
  shallower := fun s _ hst => ⟨congrArg State.shallower hst.1, h.shallower s hst.2⟩

/-- What a construct does by itself keeps the property, if it is not EXISTS. -/
theorem behaviour_keeps {I : State → Prop} (h : EffectsKeep I env) {e : Expression}
    (he : ∀ negated pattern, e ≠ .solvable negated pattern) :
    (env.behaviour e).Gives (Keeps I) := by
  have hreads : ReadsAlike (fun s t => s = t ∧ I s) env env e := by
    refine readsAlike_of_lookup (fun _ => rfl) ?_
    intro negated pattern heq
    exact absurd heq (he negated pattern)
  refine Plan.gives_mono (Plan.gives_of_matches (behaviour_related h.simulates hreads)) ?_
  exact fun _ => related_self_iff.mp

end Environment

end SparqlScalar
