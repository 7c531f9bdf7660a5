import SparqlScalar.Proofs.Related

/-!
# First solutions

    EXISTS asks a source of solutions for the first item, in a scope that answers as the context
    does, and looks at nothing but whether there is one and whether it is an error.  Two facts
    follow by induction over expressions:

      sources that begin alike  -- give the same outcomes and leave states that are the same but for
                                   the rows that the sources passed over
      pulls                     -- an evaluation pulls one item for every EXISTS that it performs,
                                   in the order in which it performs them

    The first compares two runs and is a case of `Proofs.Related`.  The second counts along the
    trace of a construct: what is pulled for its queries comes first, and what it pulls itself last
    (`Environment.evaluateWithin_pulls`).
-/

namespace SparqlScalar

/-! ## What is compared -/

/-- A scope tells of variables, the time, the base IRI and blank nodes what a context tells. -/
structure Scope.AnswersAs (scope : Scope) (context : Context) : Prop where
  lookup : ∀ name, scope.bindings.get? name = context.lookup name
  now : scope.now = context.now
  base : scope.base = context.base
  node : ∀ literal,
    Eval.request (.forLiteral scope.cache literal) =
      Eval.request (.forLiteral context.cache literal)

theorem Context.thaw_answersAs (context : Context) : context.thaw.toScope.AnswersAs context where
  lookup := fun _ => rfl
  now := rfl
  base := rfl
  node := fun _ => rfl

/-- Two items that are both missing, the same error, or solutions that bind alike. -/
inductive SameItem : Option (EvalResult Bindings) → Option (EvalResult Bindings) → Prop where
  | nothing : SameItem none none
  | error (x : EvalError) : SameItem (some (.error x)) (some (.error x))
  | solution {bindings bindings' : Bindings}
      (h : ∀ name, bindings.get? name = bindings'.get? name) :
      SameItem (some (.ok bindings)) (some (.ok bindings'))

/-- Two sources give the same first item in every scope that answers as a context does.  What comes
after it may be anything. -/
def PatternSource.SameFirst (context : Context) (source source' : PatternSource) : Prop :=
  ∀ pattern scope, scope.AnswersAs context →
    SameItem (source.solutions pattern scope 0).item (source'.solutions pattern scope 0).item

/-- The event without the counter and the rows that a source passed over. -/
def Event.withoutRows : Event → Event
  | .pulled _ pattern _ => .pulled 0 pattern 0
  | event => event

namespace State

/-- The state without what it tells of rows. -/
def withoutRows (s : State) : State := { s with log := s.log.map Event.withoutRows }

/-- Two states that differ at most in the rows that were passed over. -/
def SameButRows (s t : State) : Prop := s.withoutRows = t.withoutRows

end State

open State (SameButRows)

namespace Eval

/-- A computation that does not look at rows runs alike in states that differ in nothing else. -/
theorem related_of_withoutRows {α : Type} {x : Eval α}
    (h : ∀ s : State, x.run s.withoutRows = ((x.run s).1, (x.run s).2.withoutRows)) :
    Related SameButRows x x := by
  intro s t hst
  have hrows : s.withoutRows = t.withoutRows := hst
  have hrun : ((x.run s).1, (x.run s).2.withoutRows) = ((x.run t).1, (x.run t).2.withoutRows) := by
    rw [← h s, ← h t, hrows]
  exact ⟨(Prod.mk.inj hrun).1, (Prod.mk.inj hrun).2⟩

theorem nodeFor_withoutRows (cache : Nat) (literal : Literal) (s : State) :
    (nodeFor cache literal).run s.withoutRows =
      (((nodeFor cache literal).run s).1, ((nodeFor cache literal).run s).2.withoutRows) := by
  cases h : (s.caches cache).lookup literal with
  | some node =>
      have h' : (s.withoutRows.caches cache).lookup literal = some node := h
      rw [run_nodeFor_some h, run_nodeFor_some h']
  | none =>
      have h' : (s.withoutRows.caches cache).lookup literal = none := h
      rw [run_nodeFor_none h, run_nodeFor_none h']
      rfl

theorem request_sameButRows (r : NodeRequest) : Related SameButRows (request r) (request r) := by
  have hgive : ∀ node, Related SameButRows
      (record (.given r node) >>= fun _ => (pure node : Eval BlankNode))
      (record (.given r node) >>= fun _ => pure node) := fun node =>
    related_bind (related_of_withoutRows fun _ => rfl) fun _ => related_pure node
  cases r with
  | own => exact related_bind (related_of_withoutRows fun _ => rfl) hgive
  | forLiteral cache literal =>
      exact related_bind (related_of_withoutRows (nodeFor_withoutRows cache literal)) hgive

end Eval

/-! ## Two sources -/

namespace Environment

open Eval (Related related_of_withoutRows request_sameButRows Keeps)

/-- The environment with another source of solutions. -/
def withSource (env : Environment) (source : PatternSource) : Environment :=
  { env with context := { env.context with patterns := some source } }

variable {env : Environment} {source source' : PatternSource}

/-- Items that are the same tell the same. -/
theorem found_eq {item item' : Option (EvalResult Bindings)} (h : SameItem item item') :
    found item = found item' := by
  cases h with
  | nothing | error _ => rfl
  | solution _ => rfl

/-- What EXISTS sees of two sources is the same if their first items are. -/
theorem hasSolution_sameFirst (h : source.SameFirst env.context source') (pattern : String) :
    Related SameButRows ((env.withSource source).hasSolution pattern)
      ((env.withSource source').hasSolution pattern) := by
  have hitem := h pattern env.context.thaw.toScope env.context.thaw_answersAs
  intro s t hst
  rw [hasSolution_run rfl, hasSolution_run rfl]
  refine ⟨found_eq hitem, ?_⟩
  -- without the rows, the same event comes before the same log
  have hrows : s.withoutRows = t.withoutRows := hst
  have hlog : s.log.map Event.withoutRows = t.log.map Event.withoutRows :=
    congrArg State.log hrows
  show ({ s.withoutRows with log := .pulled 0 pattern 0 :: s.log.map Event.withoutRows } : State) =
    { t.withoutRows with log := .pulled 0 pattern 0 :: t.log.map Event.withoutRows }
  rw [hrows, hlog]

theorem simulates_withSource
    (hscripts : env.registry.ActsAlike env.config (env.withSource source).context
      (env.withSource source').context) :
    Simulates SameButRows (env.withSource source) (env.withSource source') where
  registry := rfl
  config := rfl
  now := rfl
  base := rfl
  scripts := hscripts
  requestOwn := request_sameButRows .own
  requestFor := fun literal => request_sameButRows (.forLiteral env.context.cache literal)
  draw := related_of_withoutRows fun _ => rfl
  called := fun _ _ => related_of_withoutRows fun _ => rfl
  rawCalled := fun _ _ _ => related_of_withoutRows fun _ => rfl
  deeper := fun _ _ hst => congrArg State.deeper hst
  shallower := fun _ _ hst => congrArg State.shallower hst

/-- An expression runs alike with sources that begin alike. -/
theorem evaluateWithin_sameFirst (h : source.SameFirst env.context source')
    (hscripts : env.registry.ActsAlike env.config (env.withSource source).context
      (env.withSource source').context) (levels : Nat) (e : Expression) :
    Related SameButRows ((env.withSource source).evaluateWithin levels e)
      ((env.withSource source').evaluateWithin levels e) := by
  refine evaluateWithin_related_of_reads (simulates_withSource hscripts) ?_ levels e
  intro d
  refine readsAlike_of_lookup (fun _ => rfl) ?_
  intro _ pattern _
  exact hasSolution_sameFirst h pattern

end Environment

/-! ## Pulls -/

/-- What was pulled from sources of solutions, in its order. -/
def State.pulls (s : State) : List Event :=
  (s.log.filter fun
    | .pulled _ _ _ => true
    | _ => false).reverse

/-- The pattern of EXISTS and of NOT EXISTS. -/
def Expression.pattern? : Expression → Option String
  | .solvable _ pattern => some pattern
  | _ => none

/-- What every query adds to a list, the run of a plan adds in the order of its trace. -/
theorem Plan.run_adds {α β : Type} {answer : Query → Eval Term} {list : State → List β}
    {added : Query → State → List β}
    (h : ∀ query s, list ((answer query).run s).2 = list s ++ added query s) (p : Plan α)
    (s : State) :
    list (p.run answer s).2 =
      list s ++ (p.trace answer s).flatMap fun step => added step.query step.before := by
  induction p generalizing s with
  | done value => exact (List.append_nil _).symm
  | ask query next ih =>
      show list ((next (Step.ofAnswer answer query s).outcome).run answer
        (Step.ofAnswer answer query s).after).2 = list s ++ (added query s ++ _)
      rw [ih, ← List.append_assoc]
      exact congrArg (· ++ _) (h query s)

namespace Environment

open Eval (Keeps)

/-- The expressions that an evaluation performs, each after those that it asks for. -/
noncomputable def performances (env : Environment) : Nat → Expression → State → List Expression
  | 0, _, _ => []
  | levels + 1, e, s =>
    (((env.behaviour e).trace (answers (env.evaluateWithin levels) e)
      (env.opened e s.deeper)).flatMap fun step =>
        env.performances levels (e.asked step.query) step.before) ++ [e]

theorem request_pulls (r : NodeRequest) (s : State) :
    ((Eval.request r).run s).2.pulls = s.pulls := by
  cases r with
  | own => rfl
  | forLiteral cache literal =>
      unfold Eval.request
      cases h : (s.caches cache).lookup literal with
      | some node =>
          rw [Eval.run_bind, Eval.run_nodeFor_some h]
          rfl
      | none =>
          rw [Eval.run_bind, Eval.run_nodeFor_none h]
          rfl

/-- No effect but that of EXISTS pulls. -/
theorem effectsKeep_pulls (env : Environment) (pulls : List Event) :
    EffectsKeep (fun s => s.pulls = pulls) env where
  requestOwn := fun s hs => (request_pulls .own s).trans hs
  requestFor := fun literal s hs =>
    (request_pulls (.forLiteral env.context.cache literal) s).trans hs
  draw := fun _ hs => hs
  called := fun _ _ _ hs => hs
  rawCalled := fun _ _ _ _ hs => hs
  deeper := fun _ hs => hs
  shallower := fun _ hs => hs

/-- What a construct pulls by itself: one item if it is EXISTS and there is a source, and nothing
otherwise. -/
def ownPulls (env : Environment) (e : Expression) : List Event :=
  match env.context.patterns with
  | none => []
  | some source => (e.pattern?.map (env.pull source)).toList

theorem opened_pulls (env : Environment) (e : Expression) (s : State) :
    (env.opened e s).pulls = s.pulls := by
  unfold opened opening
  split
  · split <;> rfl
  · rfl

theorem hasSolution_pulls (env : Environment) (negated : Bool) (pattern : String) (s : State) :
    ((env.hasSolution pattern).run s).2.pulls =
      s.pulls ++ env.ownPulls (.solvable negated pattern) := by
  unfold ownPulls
  cases hpatterns : env.context.patterns with
  | none =>
      rw [hasSolution_run_none hpatterns]
      exact (List.append_nil _).symm
  | some source =>
      rw [hasSolution_run hpatterns]
      exact List.reverse_cons

/-- After its queries, a construct pulls what it pulls by itself. -/
theorem end_pulls {env : Environment} {answer : Query → Eval Term} (e : Expression) {s t : State}
    {own : Eval Term} (hend : (env.behaviour e).run answer s = (own, t)) :
    (own.run t).2.pulls = t.pulls ++ env.ownPulls e := by
  by_cases he : ∃ negated pattern, e = .solvable negated pattern
  · obtain ⟨negated, pattern, rfl⟩ := he
    obtain ⟨rfl, rfl⟩ := Prod.mk.inj hend
    -- to answer whether there was a solution does nothing more
    have hpulls := env.hasSolution_pulls negated pattern s
    show ((env.hasSolution pattern >>= fun found =>
      (pure (Term.ofBool (found != negated)) : Eval Term)).run s).2.pulls = _
    rw [Eval.run_bind]
    cases ((env.hasSolution pattern).run s).1 with
    | ok holds => exact hpulls
    | error x => exact hpulls
  · have hother : ∀ negated pattern, e ≠ .solvable negated pattern := by
      intro negated pattern heq
      exact he ⟨negated, pattern, heq⟩
    have hkeeps : Keeps (fun t' => t'.pulls = t.pulls) ((env.behaviour e).run answer s).1 :=
      Plan.gives_run (behaviour_keeps (env.effectsKeep_pulls t.pulls) hother) s
    rw [hend] at hkeeps
    have hnone : env.ownPulls e = [] := by
      unfold ownPulls
      cases e with
      | solvable negated pattern => exact absurd rfl (hother negated pattern)
      | _ => cases env.context.patterns <;> rfl
    rw [hkeeps t rfl, hnone, List.append_nil]

/-- **PULLS**: an evaluation pulls one item for every EXISTS that it performs, in the order in which
it performs them, and no others. -/
theorem evaluateWithin_pulls (env : Environment) (levels : Nat) (e : Expression) (s : State) :
    ((env.evaluateWithin levels e).run s).2.pulls =
      s.pulls ++ (env.performances levels e s).flatMap env.ownPulls := by
  induction levels generalizing e s with
  | zero => exact (List.append_nil _).symm
  | succ levels ih =>
      have hanswers : ∀ query t, ((answers (env.evaluateWithin levels) e query).run t).2.pulls =
          t.pulls ++ (env.performances levels (e.asked query) t).flatMap env.ownPulls := by
        intro query t
        rw [answers_eq]
        exact ih (e.asked query) t
      have hqueries := Plan.run_adds hanswers (env.behaviour e) (env.opened e s.deeper)
      -- first what is asked for pulls, from the state in which the construct starts to ask
      rw [opened_pulls] at hqueries
      show ((env.node (env.evaluateWithin levels) e).run s.deeper).2.pulls = _
      rw [node_run, end_pulls e rfl, hqueries]
      show s.pulls ++ _ ++ _ = s.pulls ++ (List.flatMap _ (_ ++ [e]))
      rw [List.flatMap_append, List.flatMap_assoc, List.append_assoc, List.flatMap_singleton]

variable {env : Environment} {source source' : PatternSource}

/-- **FIRST SOLUTIONS**: if two sources give the same first item in every scope that answers as the
context does, then every expression has the same outcome with both and leaves the same state but for
the rows that they passed over; only a raw function could tell them apart, by looking at the source
itself.  One item is pulled for every EXISTS that is performed, in the order in which they are.  The
scope of a pattern answers as the context does. -/
theorem evaluate_sameFirst (h : source.SameFirst env.context source')
    (hscripts : env.registry.ActsAlike env.config (env.withSource source).context
      (env.withSource source').context) (e : Expression) (s : State) :
    (((env.withSource source).evaluate e).run s).1 =
        (((env.withSource source').evaluate e).run s).1 ∧
      SameButRows (((env.withSource source).evaluate e).run s).2
        (((env.withSource source').evaluate e).run s).2 ∧
      (((env.withSource source).evaluate e).run s).2.pulls =
        s.pulls ++ (((env.withSource source).performances env.config.maxDepth e s).filterMap
          Expression.pattern?).map (env.pull source) ∧
      env.context.thaw.toScope.AnswersAs env.context := by
  obtain ⟨hvalue, hstate⟩ :=
    evaluateWithin_sameFirst h hscripts env.config.maxDepth e s s rfl
  have hpulls := (env.withSource source).evaluateWithin_pulls env.config.maxDepth e s
  refine ⟨hvalue, hstate, ?_, env.context.thaw_answersAs⟩
  rw [List.map_filterMap, List.filterMap_eq_flatMap_toList]
  exact hpulls

/-- A source with one solution, which nothing follows, and one whose solution errors follow without
end: EXISTS sees no difference. -/
theorem exists_ignores_errors_after_solution :
    let once : PatternSource := ⟨0, fun _ _ k => if k = 0 then ⟨some (.ok []), 1⟩ else ⟨none, 0⟩⟩
    let failing : PatternSource := ⟨0, fun _ _ k =>
      if k = 0 then ⟨some (.ok []), 1⟩ else ⟨some (.error (.unbound "x")), 1⟩⟩
    let env := bare Registry.casts 2
    let e : Expression := .not (.solvable false "p")
    once.SameFirst env.context failing ∧
      env.registry.ActsAlike env.config (env.withSource once).context
        (env.withSource failing).context ∧
      (((env.withSource once).evaluate e).run State.initial).1 =
        (((env.withSource failing).evaluate e).run State.initial).1 := by
  intro once failing env e
  have hsame : once.SameFirst env.context failing := fun _ _ _ => .solution fun _ => rfl
  have hscripts : env.registry.ActsAlike env.config (env.withSource once).context
      (env.withSource failing).context := Registry.isTransparent_casts.actsAlike _ _ _
  exact ⟨hsame, hscripts, (evaluate_sameFirst hsame hscripts e State.initial).1⟩

end Environment

end SparqlScalar
