import SparqlScalar.Proofs.Visits
import SparqlScalar.Proofs.WellFormedTerms

/-!
# Evaluation keeps terms well-formed

    Given well-formed constants, bindings and functions, evaluation ends in a well-formed term,
    unless it comes to a call of STRDT that attaches the datatype of strings with a language to a
    text (`evaluateWithin_wellFormed`).  The route has two steps.

      one construct  -- its plan is SOUND: as long as the outcomes that it gets are well-formed, it
                        asks for expressions with well-formed constants, and what it ends in makes
                        a well-formed term (`plan_sound`)
      runs           -- by induction on the levels, the outcomes that a construct gets are
                        well-formed, since an evaluation comes to all that is asked for

    STRDT alone has no sound plan: what a call of it makes is ill-formed exactly if it attaches that
    datatype (`yields_strDt_iff`).  Raw functions are free to finish with any literal, so of them it
    is asked that they do not.
-/

namespace SparqlScalar

open EvalResult (Yields yields_bind yields_bind_iff)

/-! ## What evaluation is given -/

/-- The constants in an expression are well-formed. -/
def Expression.HasWellFormedConstants (e : Expression) : Prop :=
  ∀ t, e.Contains (.constant t) → t.WellFormed

/-- The bindings of a context are well-formed. -/
def Context.HasWellFormedBindings (context : Context) : Prop :=
  ∀ name t, context.lookup name = some t → t.WellFormed

/-- As long as outcomes are well-formed, a script evaluates expressions with well-formed constants
and finishes with a well-formed term. -/
def Script.KeepsWellFormed : Script → Prop
  | .finish outcome => Yields Term.WellFormed outcome
  | .evaluate e next =>
    e.HasWellFormedConstants ∧
      ∀ outcome, Yields Term.WellFormed outcome → (next outcome).KeepsWellFormed

/-- A function called by value makes well-formed terms from well-formed arguments, and a raw one has
scripts that keep terms well-formed where its call and its context do. -/
def CustomFunction.KeepsWellFormed : CustomFunction → Prop
  | .byValue _ _ apply =>
    ∀ args : List Term, (∀ t ∈ args, t.WellFormed) → Yields Term.WellFormed (apply args)
  | .raw _ script =>
    ∀ (call : FunctionCall) (context : Context) (config : Config),
      (∀ e ∈ call.arguments, e.HasWellFormedConstants) → context.HasWellFormedBindings →
        (script call context config).KeepsWellFormed

/-- All functions of a registry keep terms well-formed. -/
def Registry.KeepsWellFormed (registry : Registry) : Prop :=
  ∀ iri function, registry.get? iri = some function → function.KeepsWellFormed

/-- The functions of a registry that are called by value keep terms well-formed. -/
def Registry.KeepsWellFormedByValue (registry : Registry) : Prop :=
  ∀ iri function, registry.get? iri = some function → function.isRaw = false →
    function.KeepsWellFormed

namespace Expression

/-- Operands have the constants of the expression. -/
theorem HasWellFormedConstants.operand {e : Expression} (h : e.HasWellFormedConstants)
    (place : Nat) : (e.operand place).HasWellFormedConstants := by
  intro t ht
  by_cases hlt : place < e.operands.length
  · exact h t (.operand (operand_mem hlt) ht)
  · -- there is no such operand, and then the expression stands for it
    have hself : e.operand place = e := by
      unfold Expression.operand
      rw [List.getD_eq_getElem?_getD, List.getElem?_eq_none (Nat.le_of_not_lt hlt)]
      rfl
    rw [hself] at ht
    exact h t ht

end Expression

/-- Casts keep terms well-formed. -/
theorem CustomFunction.keepsWellFormed_ofCast (target : CastTarget) :
    (ofCast target).KeepsWellFormed := by
  intro call context config hcall _
  obtain ⟨iri, arguments⟩ := call
  match arguments, hcall with
  | [], _ => exact trivial
  | [argument], hcall =>
      refine ⟨hcall argument List.mem_cons_self, fun outcome _ => ?_⟩
      exact yields_bind fun t _ => target.wellFormed_apply t
  | _ :: _ :: _, _ => exact trivial

theorem Registry.keepsWellFormed_casts : casts.KeepsWellFormed := by
  intro iri function hget
  obtain ⟨target, rfl⟩ := eq_ofCast_of_get?_casts hget
  exact CustomFunction.keepsWellFormed_ofCast target

/-! ## Sound plans -/

namespace Plan

variable {α β : Type} {A : Query → Prop} {P : α → Prop} {Q : β → Prop}

/-- As long as outcomes are well-formed, a plan asks for what it may ask for and ends in a value
with a property. -/
def Sound (A : Query → Prop) (P : α → Prop) : Plan α → Prop
  | .done value => P value
  | .ask query next =>
    A query ∧ ∀ outcome, Yields Term.WellFormed outcome → (next outcome).Sound A P

/-- A sound plan runs to a value with the property if its queries get well-formed outcomes. -/
theorem Sound.run {answer : Query → Eval Term} {p : Plan α} (h : p.Sound A P) {s : State}
    (houtcomes : ∀ step ∈ p.trace answer s, A step.query → Yields Term.WellFormed step.outcome) :
    P (p.run answer s).1 := by
  induction p generalizing s with
  | done value => exact h
  | ask query next ih =>
      obtain ⟨hquery, hnext⟩ := h
      have hhead := houtcomes _ List.mem_cons_self hquery
      exact ih _ (hnext _ hhead) fun step hstep => houtcomes step (List.mem_cons_of_mem _ hstep)

theorem Sound.bind {p : Plan α} {f : α → Plan β} (hp : p.Sound A P)
    (hf : ∀ a, P a → (f a).Sound A Q) : (p >>= f).Sound A Q := by
  induction p with
  | done value => exact hf value hp
  | ask query next ih =>
      refine ⟨hp.1, fun outcome houtcome => ?_⟩
      exact ih outcome (hp.2 outcome houtcome)

theorem sound_of_asks {p : Plan α} (h : p.Asks A) (hP : ∀ a, P a) : p.Sound A P := by
  induction p with
  | done value => exact hP value
  | ask query next ih => exact ⟨h.1, fun outcome _ => ih outcome (h.2 outcome)⟩

/-- A plan that may fail is sound if the values that it has are as they should be. -/
def SoundTo (A : Query → Prop) (P : α → Prop) (p : ExceptT EvalError Plan α) : Prop :=
  p.run.Sound A (Yields P)

theorem soundTo_pure {a : α} (h : P a) : SoundTo A P (pure a) := h

theorem soundTo_bind {p : ExceptT EvalError Plan α} {f : α → ExceptT EvalError Plan β}
    (hp : SoundTo A P p) (hf : ∀ a, P a → SoundTo A Q (f a)) : SoundTo A Q (p >>= f) := by
  refine Sound.bind hp fun r hr => ?_
  cases r with
  | ok a => exact hf a hr
  | error e => exact trivial

/-- A plan of which only the queries are known is sound to any value. -/
theorem soundTo_of_asks {p : Plan (EvalResult α)} (h : p.Asks A) :
    SoundTo A (fun _ => True) (ExceptT.mk p) := by
  refine sound_of_asks h fun r => ?_
  cases r <;> exact trivial

variable (hplaces : ∀ place, A (.operand place))
include hplaces

theorem soundTo_value (place : Nat) : SoundTo A Term.WellFormed (value place) :=
  ⟨hplaces place, fun _ houtcome => houtcome⟩

theorem soundTo_values (start count : Nat) :
    SoundTo A (fun terms : List Term => ∀ t ∈ terms, t.WellFormed) (values start count) := by
  induction count generalizing start with
  | zero => exact soundTo_pure (List.forall_mem_nil _)
  | succ count ih =>
      refine soundTo_bind (soundTo_value hplaces start) fun t ht => ?_
      refine soundTo_bind (ih (start + 1)) fun terms hterms => ?_
      exact soundTo_pure (List.forall_mem_cons.mpr ⟨ht, hterms⟩)

theorem asks_questions (start count : Nat) : ∀ p ∈ questions start count, p.Asks A := by
  intro p hp
  refine asks_mono (questions_asks start count p hp) ?_
  rintro query ⟨place, rfl, -⟩
  exact hplaces place

/-- A choice of the first value chooses among outcomes. -/
theorem sound_firstValueFrom (found : Option Term) (hfound : ∀ t, found = some t → t.WellFormed)
    (start count : Nat) :
    (firstValueFrom found (questions start count)).Sound A (Yields Term.WellFormed) := by
  induction count generalizing start found with
  | zero =>
      cases found with
      | none => exact trivial
      | some t => exact hfound t rfl
  | succ count ih =>
      refine ⟨hplaces start, fun outcome houtcome => ?_⟩
      cases outcome with
      | error e => exact ih found hfound (start + 1)
      | ok t =>
          refine ih _ ?_ (start + 1)
          -- what was found before is kept
          cases found with
          | none =>
              intro first hfirst
              obtain rfl := Option.some.inj hfirst
              exact houtcome
          | some first => exact hfound

end Plan

/-- What a raw function asks for is sound if its script keeps terms well-formed. -/
theorem Script.KeepsWellFormed.sound {script : Script} (h : script.KeepsWellFormed)
    {A : Query → Prop} (hothers : ∀ e : Expression, e.HasWellFormedConstants → A (.other e)) :
    (Plan.ofScript script).Sound A (Yields Term.WellFormed) := by
  induction script with
  | finish outcome => exact h
  | evaluate e next ih =>
      obtain ⟨hconstants, hnext⟩ := h
      exact ⟨hothers e hconstants, fun outcome houtcome => ih outcome (hnext outcome houtcome)⟩

/-! ## Constructs -/

namespace Environment

open Plan (value values questions SoundTo soundTo_pure soundTo_bind soundTo_value soundTo_values
  soundTo_of_asks asks_questions)

variable {env : Environment}

/-- What a computation makes is well-formed, from any state. -/
def MakesWellFormed (own : Eval Term) : Prop := ∀ s, Yields Term.WellFormed (own.run s).1

/-- What is asked for has well-formed constants. -/
def AsksWellFormed (e : Expression) (query : Query) : Prop :=
  (e.asked query).HasWellFormedConstants

theorem asksWellFormed_operand {e : Expression} (he : e.HasWellFormedConstants) (place : Nat) :
    AsksWellFormed e (.operand place) := he.operand place

theorem makesWellFormed_ofResult {r : EvalResult Term} (h : Yields Term.WellFormed r) :
    MakesWellFormed (Eval.ofResult r) := fun _ => h

theorem makesWellFormed_truth {x : Eval Bool} {f : Bool → Bool} :
    MakesWellFormed (x >>= fun b => pure (Term.ofBool (f b))) := by
  intro s
  rw [Eval.run_bind]
  cases (x.run s).1 with
  | ok b => exact Term.wellFormed_ofBool (f b)
  | error e => exact trivial

/-- A construct that works out its term from a value makes a well-formed term. -/
theorem soundTo_ofResult {α : Type} {A : Query → Prop} {P : α → Prop}
    {p : ExceptT EvalError Plan α} {finish : α → EvalResult Term} (hp : SoundTo A P p)
    (hfinish : ∀ a, P a → Yields Term.WellFormed (finish a)) :
    SoundTo A MakesWellFormed (p >>= fun a => pure (Eval.ofResult (finish a))) :=
  soundTo_bind hp fun a ha => soundTo_pure (makesWellFormed_ofResult (hfinish a ha))

/-- A construct that ends in a truth value makes a well-formed term. -/
theorem soundTo_truth {A : Query → Prop} {p : Plan (EvalResult Bool)} (hp : p.Asks A)
    (f : Bool → Bool) :
    SoundTo A MakesWellFormed (ExceptT.mk p >>= fun b => pure (pure (Term.ofBool (f b)))) :=
  soundTo_ofResult (soundTo_of_asks hp) fun b _ => Term.wellFormed_ofBool (f b)

/-- A construct that hands a value on makes a well-formed term. -/
theorem soundTo_handedOn {A : Query → Prop} {p : ExceptT EvalError Plan Term}
    (hp : SoundTo A Term.WellFormed p) :
    SoundTo A MakesWellFormed (p >>= fun t => pure (pure t)) :=
  soundTo_ofResult hp fun _ ht => ht

theorem callPlan_sound {iri : Iri} {arguments : List Expression} {function : CustomFunction}
    (hfunction : function.KeepsWellFormed) (hbindings : env.context.HasWellFormedBindings)
    (he : (Expression.call iri arguments).HasWellFormedConstants) :
    SoundTo (AsksWellFormed (.call iri arguments)) MakesWellFormed
      (env.callPlan iri arguments function) := by
  cases function with
  | byValue id arity apply =>
      simp only [callPlan]
      split
      · refine soundTo_bind (soundTo_values (asksWellFormed_operand he) 0 _) fun terms hterms => ?_
        exact soundTo_pure fun _ => hfunction terms hterms
      · exact soundTo_pure (makesWellFormed_ofResult trivial)
  | raw id script =>
      have harguments : ∀ d ∈ arguments, d.HasWellFormedConstants := fun d hd t ht =>
        he t (.operand hd ht)
      have hscript := hfunction ⟨iri, arguments⟩ env.context env.config harguments hbindings
      exact soundTo_handedOn (hscript.sound fun _ hconstants => hconstants)

theorem castPlan_sound (target : CastTarget) {e : Expression} (he : e.HasWellFormedConstants)
    (count : Nat) :
    SoundTo (AsksWellFormed e) MakesWellFormed (castPlan target count) := by
  match count with
  | 0 => exact soundTo_pure (makesWellFormed_ofResult trivial)
  | 1 =>
      exact soundTo_ofResult (soundTo_value (asksWellFormed_operand he) 0) fun t _ =>
        target.wellFormed_apply t
  | _ + 2 => exact soundTo_pure (makesWellFormed_ofResult trivial)

/-- The plan of every construct but STRDT is sound. -/
theorem plan_sound (hregistry : env.registry.KeepsWellFormed)
    (hbindings : env.context.HasWellFormedBindings) {e : Expression}
    (he : e.HasWellFormedConstants) (hstrDt : ∀ arguments, e ≠ .builtin .strDt arguments) :
    SoundTo (AsksWellFormed e) MakesWellFormed (env.plan e) := by
  have hplaces := asksWellFormed_operand he
  cases e with
  | constant t => exact soundTo_pure (makesWellFormed_ofResult (he t (.self _)))
  | var name =>
      refine soundTo_pure ?_
      cases hlookup : env.context.lookup name with
      | none => exact makesWellFormed_ofResult trivial
      | some t => exact makesWellFormed_ofResult (hbindings name t hlookup)
  | bound name => exact soundTo_pure (makesWellFormed_ofResult (Term.wellFormed_ofBool _))
  | lone _ _ => exact soundTo_handedOn (soundTo_value hplaces 0)
  | or _ rest => exact soundTo_truth (Plan.anyFrom_asks _ _ (asks_questions hplaces 0 _)) id
  | and _ rest => exact soundTo_truth (Plan.allFrom_asks _ _ _ (asks_questions hplaces 0 _)) id
  | compare operator _ _ =>
      refine soundTo_bind (soundTo_value hplaces 0) fun a _ => ?_
      exact soundTo_ofResult (soundTo_value hplaces 1) fun b _ => wellFormed_comparison operator a b
  | isIn negated _ candidates =>
      refine soundTo_bind (soundTo_value hplaces 0) fun a _ => ?_
      exact soundTo_truth (Plan.anyFrom_asks _ _ (asks_questions hplaces 1 _)) (· != negated)
  | additive _ rest =>
      -- a chain may hand its first operand on
      refine soundTo_bind (soundTo_value hplaces 0) fun a ha => ?_
      exact soundTo_ofResult (soundTo_values hplaces 1 rest.length) fun others _ =>
        wellFormed_additiveChain ha _
  | multiplicative _ rest =>
      refine soundTo_bind (soundTo_value hplaces 0) fun a ha => ?_
      exact soundTo_ofResult (soundTo_values hplaces 1 rest.length) fun others _ =>
        wellFormed_multiplicativeChain ha _
  | not _ => exact soundTo_ofResult (soundTo_value hplaces 0) fun t _ => wellFormed_negation t
  | negate _ => exact soundTo_ofResult (soundTo_value hplaces 0) fun t _ => wellFormed_minus t
  | plus _ => exact soundTo_ofResult (soundTo_value hplaces 0) fun t _ => wellFormed_plus t
  | conditional _ _ _ =>
      refine soundTo_bind (soundTo_value hplaces 0) fun a _ => ?_
      split
      · exact soundTo_handedOn (soundTo_value hplaces 1)
      · exact soundTo_handedOn (soundTo_value hplaces 2)
      · exact soundTo_pure (makesWellFormed_ofResult trivial)
  | coalesce candidates =>
      exact soundTo_handedOn (Plan.sound_firstValueFrom hplaces none nofun 0 _)
  | builtin function arguments =>
      have hfunction : function ≠ .strDt := by
        rintro rfl
        exact hstrDt arguments rfl
      simp only [plan]
      split
      · refine soundTo_bind (soundTo_values hplaces 0 arguments.length) fun terms _ => ?_
        exact soundTo_pure (Builtin.wellFormed_apply hfunction env terms)
      · exact soundTo_pure (makesWellFormed_ofResult trivial)
  | solvable negated pattern => exact soundTo_pure makesWellFormed_truth
  | call iri arguments =>
      cases hget : env.registry.get? iri with
      | none =>
          simp only [plan, hget]
          exact soundTo_pure (makesWellFormed_ofResult trivial)
      | some function =>
          cases hcast : function.castTarget? with
          | some target =>
              simp only [plan, hget, hcast]
              exact castPlan_sound target he arguments.length
          | none =>
              simp only [plan, hget, hcast]
              exact callPlan_sound (hregistry iri function hget) hbindings he

/-- So a construct makes a well-formed term if what it asks for gives well-formed terms. -/
theorem node_wellFormed (hregistry : env.registry.KeepsWellFormed)
    (hbindings : env.context.HasWellFormedBindings) {e : Expression}
    (he : e.HasWellFormedConstants) (hstrDt : ∀ arguments, e ≠ .builtin .strDt arguments)
    {eval : Expression → Eval Term} {s : State}
    (houtcomes : ∀ step ∈ (env.behaviour e).trace (answers eval e) (env.opened e s),
      (e.asked step.query).HasWellFormedConstants → Yields Term.WellFormed step.outcome) :
    Yields Term.WellFormed ((env.node eval e).run s).1 := by
  have hsound : (env.behaviour e).Sound (AsksWellFormed e) MakesWellFormed := by
    refine Plan.Sound.bind (plan_sound hregistry hbindings he hstrDt) fun r hr => ?_
    cases r with
    | ok own => exact hr
    | error x => exact makesWellFormed_ofResult trivial
  rw [node_run]
  exact hsound.run houtcomes _

/-! ## STRDT -/

/-- A call of STRDT attaches the datatype of strings with a language to a plain text. -/
def AttachesLangString (eval : Expression → Eval Term) (e : Expression) (s : State) : Prop :=
  ∃ text datatype t lexical, e = .builtin .strDt [text, datatype] ∧
    ((eval text).run s).1 = .ok t ∧ t.simpleText = .ok lexical ∧
      ((eval datatype).run ((eval text).run s).2).1 = .ok (.iri langStringIri)

/-- STRDT evaluates its two arguments and attaches the second to the first. -/
theorem node_strDt_run (env : Environment) (eval : Expression → Eval Term)
    (text datatype : Expression) (s : State) :
    ((env.node eval (.builtin .strDt [text, datatype])).run s).1 =
      ((eval text).run s).1 >>= fun a =>
        ((eval datatype).run ((eval text).run s).2).1 >>= fun b => withDatatype a b := by
  have hnode : env.node eval (.builtin .strDt [text, datatype]) =
      eval text >>= fun a => eval datatype >>= fun b => Eval.ofResult (withDatatype a b) := by
    show ([text, datatype].mapM eval >>= fun args => Builtin.strDt.apply env args) = _
    simp only [List.mapM_cons, List.mapM_nil, bind_assoc, pure_bind]
    rfl
  rw [hnode, Eval.run_bind]
  cases (eval text).run s with
  | mk outcome t =>
      cases outcome with
      | error x => rfl
      | ok a =>
          show ((eval datatype >>= fun b => Eval.ofResult (withDatatype a b)).run t).1 = _
          rw [Eval.run_bind]
          cases (eval datatype).run t with
          | mk outcome u => cases outcome <;> rfl

theorem attachesLangString_strDt_iff {eval : Expression → Eval Term} {text datatype : Expression}
    {s : State} :
    AttachesLangString eval (.builtin .strDt [text, datatype]) s ↔ ∃ t lexical,
      ((eval text).run s).1 = .ok t ∧ t.simpleText = .ok lexical ∧
        ((eval datatype).run ((eval text).run s).2).1 = .ok (.iri langStringIri) := by
  constructor
  · rintro ⟨_, _, t, lexical, heq, ht, hlexical, hdatatype⟩
    obtain ⟨-, hlist⟩ := Expression.builtin.inj heq
    obtain ⟨rfl, hrest⟩ := List.cons.inj hlist
    obtain ⟨rfl, -⟩ := List.cons.inj hrest
    exact ⟨t, lexical, ht, hlexical, hdatatype⟩
  · rintro ⟨t, lexical, ht, hlexical, hdatatype⟩
    exact ⟨text, datatype, t, lexical, rfl, ht, hlexical, hdatatype⟩

/-- A call of STRDT makes an ill-formed term exactly if it attaches the datatype of strings with a
language. -/
theorem yields_strDt_iff (eval : Expression → Eval Term) (arguments : List Expression) (s : State) :
    Yields Term.WellFormed ((env.node eval (.builtin .strDt arguments)).run s).1 ↔
      ¬ AttachesLangString eval (.builtin .strDt arguments) s := by
  by_cases hlen : arguments.length = 2
  · obtain ⟨text, datatype, rfl⟩ := List.length_eq_two.mp hlen
    rw [node_strDt_run, attachesLangString_strDt_iff]
    simp only [yields_bind_iff, yields_withDatatype_iff]
    constructor
    · rintro hclear ⟨t, lexical, ht, hlexical, hdatatype⟩
      exact hclear t ht _ hdatatype ⟨lexical, hlexical, rfl⟩
    · rintro hclear a ha b hb ⟨lexical, hlexical, rfl⟩
      exact hclear ⟨a, lexical, ha, hlexical, hb⟩
  · -- any other number of arguments is refused
    have hrefused : (Builtin.arity .strDt).accepts arguments.length = false := by
      show (arguments.length == 2) = false
      exact beq_false_of_ne hlen
    have hnode : env.node eval (.builtin .strDt arguments) =
        Eval.ofResult (Builtin.refuse .strDt arguments.length) := by
      simp only [node, hrefused, Bool.false_eq_true, if_false]
    rw [hnode]
    constructor
    · rintro _ ⟨_, _, _, _, heq, -⟩
      obtain ⟨-, rfl⟩ := Expression.builtin.inj heq
      exact hlen rfl
    · intro _
      exact trivial

/-! ## Runs -/

/-- What a run within some levels makes is well-formed, unless the run comes to a call of STRDT that
attaches the datatype of strings with a language. -/
theorem evaluateWithin_wellFormed (hregistry : env.registry.KeepsWellFormed)
    (hbindings : env.context.HasWellFormedBindings) {levels : Nat} {e : Expression} {s : State}
    (he : e.HasWellFormedConstants) (hclear : ¬ env.ComesTo AttachesLangString levels e s) :
    Yields Term.WellFormed ((env.evaluateWithin levels e).run s).1 := by
  induction levels generalizing e s with
  | zero => exact trivial
  | succ levels ih =>
      show Yields _ ((env.node (env.evaluateWithin levels) e).run s.deeper).1
      by_cases hstrDt : ∃ arguments, e = .builtin .strDt arguments
      · obtain ⟨arguments, rfl⟩ := hstrDt
        exact (yields_strDt_iff _ _ _).mpr fun hattaches => hclear (Or.inl hattaches)
      · have hother : ∀ arguments, e ≠ .builtin .strDt arguments := fun arguments heq =>
          hstrDt ⟨arguments, heq⟩
        refine node_wellFormed hregistry hbindings he hother fun step hstep hasked => ?_
        -- what is asked for is evaluated within one level less, from the state before it
        rw [Plan.mem_trace hstep]
        show Yields _ ((answers (env.evaluateWithin levels) e step.query).run step.before).1
        rw [answers_eq]
        exact ih hasked fun hbelow => hclear (Or.inr ⟨step, hstep, hbelow⟩)

/-- **WELL-FORMED TERMS STAY WELL-FORMED**: if constants, bindings and functions keep terms
well-formed and an evaluation succeeds, it ends in a well-formed term, unless it comes to a call of
STRDT that attaches the datatype of strings with a language to a plain text. -/
theorem evaluate_wellFormed (hregistry : env.registry.KeepsWellFormed)
    (hbindings : env.context.HasWellFormedBindings) {e : Expression} {s : State} {t : Term}
    (he : e.HasWellFormedConstants)
    (hclear : ¬ env.ComesTo AttachesLangString env.config.maxDepth e s)
    (hresult : ((env.evaluate e).run s).1 = .ok t) : t.WellFormed := by
  have hyields := evaluateWithin_wellFormed hregistry hbindings he hclear
  rw [show ((env.evaluateWithin env.config.maxDepth e).run s).1 = .ok t from hresult] at hyields
  exact hyields

theorem bare_hasWellFormedBindings (registry : Registry) (limit : Nat) :
    (bare registry limit).context.HasWellFormedBindings := fun _ _ hlookup => nomatch hlookup

/-- Nothing is attached on the way to a constant. -/
theorem not_comesTo_constant (levels : Nat) (t : Term) (s : State) :
    ¬ env.ComesTo AttachesLangString levels (.constant t) s := by
  cases levels with
  | zero => exact id
  | succ levels =>
      rintro (⟨_, _, _, _, heq, -⟩ | ⟨_, hstep, -⟩)
      · exact nomatch heq
      · exact nomatch hstep

/-- The operands of an operator on two constants are all the constants that it has. -/
theorem hasWellFormedConstants_strDt {a b : Term} (ha : a.WellFormed) (hb : b.WellFormed) :
    (Expression.builtin .strDt [.constant a, .constant b]).HasWellFormedConstants := by
  intro t ht
  cases ht with
  | operand hmem hinner =>
      rcases List.mem_cons.mp hmem with rfl | hmem
      · cases hinner with
        | self => exact ha
        | operand hnone _ => exact nomatch hnone
      · obtain rfl := List.mem_singleton.mp hmem
        cases hinner with
        | self => exact hb
        | operand hnone _ => exact nomatch hnone

/-- STRDT may attach the datatype of decimals to a text. -/
theorem attached_decimal_is_wellFormed :
    let env := bare Registry.casts 2
    let e : Expression :=
      .builtin .strDt [.constant (Term.simple "5"), .constant (.iri Datatype.decimal.iri)]
    let t : Term := .literal (.typed "5" Datatype.decimal.iri)
    env.registry.KeepsWellFormed ∧ env.context.HasWellFormedBindings ∧
      e.HasWellFormedConstants ∧
      ¬ env.ComesTo AttachesLangString env.config.maxDepth e State.initial ∧
      ((env.evaluate e).run State.initial).1 = .ok t ∧ t.WellFormed := by
  intro env e t
  have hbindings : env.context.HasWellFormedBindings := bare_hasWellFormedBindings _ 2
  have hconstants : e.HasWellFormedConstants :=
    hasWellFormedConstants_strDt (Term.wellFormed_simple "5") trivial
  have hclear : ¬ env.ComesTo AttachesLangString env.config.maxDepth e State.initial := by
    rintro (hattaches | ⟨step, hstep, hbelow⟩)
    · obtain ⟨_, _, -, -, hdatatype⟩ := attachesLangString_strDt_iff.mp hattaches
      exact Datatype.decimal.iri_ne_langString (Term.iri.inj (Except.ok.inj hdatatype))
    · -- the two operands are constants
      rcases List.mem_cons.mp hstep with rfl | hstep
      · exact not_comesTo_constant _ _ _ hbelow
      · obtain rfl := List.mem_singleton.mp hstep
        exact not_comesTo_constant _ _ _ hbelow
  have hresult : ((env.evaluate e).run State.initial).1 = .ok t := rfl
  exact ⟨Registry.keepsWellFormed_casts, hbindings, hconstants, hclear, hresult,
    evaluate_wellFormed Registry.keepsWellFormed_casts hbindings hconstants hclear hresult⟩

/-- STRDT may as well attach the datatype of strings with a language, and a raw function may finish
with any literal: what is given is well-formed, and the result is not. -/
theorem attached_langString_is_kept :
    let ill : Term := .literal (.typed "x" langStringIri)
    let attaching : Expression :=
      .builtin .strDt [.constant (Term.simple "x"), .constant (.iri langStringIri)]
    let name : Iri := ⟨"urn:attach"⟩
    let raw : Registry :=
      ⟨[(name, .raw (.custom "attach" 0) fun _ _ _ => .finish (.ok ill))]⟩
    let calling : Expression := .call name []
    (Registry.casts.KeepsWellFormedByValue ∧
        (bare Registry.casts 2).context.HasWellFormedBindings ∧
        attaching.HasWellFormedConstants ∧
        (((bare Registry.casts 2).evaluate attaching).run State.initial).1 = .ok ill) ∧
      (raw.KeepsWellFormedByValue ∧ (bare raw 2).context.HasWellFormedBindings ∧
        calling.HasWellFormedConstants ∧
        (((bare raw 2).evaluate calling).run State.initial).1 = .ok ill) ∧
      ¬ ill.WellFormed := by
  intro ill attaching name raw calling
  refine ⟨⟨?_, bare_hasWellFormedBindings _ 2, ?_, rfl⟩,
    ⟨?_, bare_hasWellFormedBindings _ 2, ?_, rfl⟩, Term.not_wellFormed_iff.mpr ⟨"x", rfl⟩⟩
  · intro iri function hget _
    exact Registry.keepsWellFormed_casts iri function hget
  · exact hasWellFormedConstants_strDt (Term.wellFormed_simple "x") trivial
  · intro iri function hget hvalue
    -- the only function is a raw one
    obtain ⟨before, after, heq, -⟩ := List.lookup_eq_some_iff.mp hget
    have hmem : (iri, function) ∈ raw.entries := by
      rw [heq]
      exact List.mem_append_right _ List.mem_cons_self
    obtain rfl := congrArg Prod.snd (List.mem_singleton.mp hmem)
    exact nomatch hvalue
  · intro t ht
    change (Expression.call name []).Contains (.constant t) at ht
    cases ht with
    | operand hnone _ => exact nomatch hnone

end Environment

end SparqlScalar
