import SparqlScalar.Proofs.Coincidence

/-!
# What an evaluation comes to

    An evaluation COMES TO the expressions that it evaluates: to the one it is given, and to what
    the evaluations that this one asks for come to.  Raw functions and their scripts are included,
    so this is a fact about the run and not about the expression alone.  Without raw functions other
    than casts, an evaluation comes to nothing that does not occur in the expression
    (`contains_of_comesTo`).

    The first use is the registry.  Evaluation reads it by looking up the IRIs of the calls that it
    comes to, and in no other way, so registries in which all these lookups find the same give the
    same run (`evaluateWithin_withRegistry`).
-/

namespace SparqlScalar

theorem Expression.Contains.trans {e d x : Expression} (h : e.Contains d) (hx : d.Contains x) :
    e.Contains x := by
  induction h with
  | self e => exact hx
  | operand hmem _ ih => exact .operand hmem (ih hx)

namespace Environment

/-- The evaluation within some levels comes to an expression with a property, which may depend on
how operands are evaluated there and from which state. -/
def ComesTo (env : Environment) (P : (Expression → Eval Term) → Expression → State → Prop) :
    Nat → Expression → State → Prop
  | 0, _, _ => False
  | levels + 1, e, s =>
    P (env.evaluateWithin levels) e s.deeper ∨
      ∃ step ∈ (env.behaviour e).trace (answers (env.evaluateWithin levels) e)
          (env.opened e s.deeper),
        env.ComesTo P levels (e.asked step.query) step.before

variable {env : Environment}

/-- If functions are called by value or casts, what an evaluation comes to occurs in the
expression. -/
theorem contains_of_comesTo (h : env.registry.IsTransparent)
    {P : (Expression → Eval Term) → Expression → State → Prop} {levels : Nat} {e : Expression}
    {s : State} (hcomes : env.ComesTo P levels e s) :
    ∃ d, e.Contains d ∧ ∃ eval t, P eval d t := by
  induction levels generalizing e s with
  | zero => exact hcomes.elim
  | succ levels ih =>
      rcases hcomes with hhere | ⟨step, hstep, hbelow⟩
      · exact ⟨e, .self e, _, _, hhere⟩
      · obtain ⟨d, hcontains, hd⟩ := ih hbelow
        have hasked := Plan.asks_trace (asked_occurs h (.self e)) hstep
        exact ⟨d, hasked.trans hcontains, hd⟩

/-! ## Lookups -/

/-- The evaluation within some levels looks up an IRI: it comes to a call. -/
def LooksUp (env : Environment) (iri : Iri) : Nat → Expression → State → Prop :=
  env.ComesTo fun _ e _ => ∃ arguments, e = .call iri arguments

/-- The environment with other functions. -/
def withRegistry (env : Environment) (registry : Registry) : Environment :=
  { env with registry := registry }

/-- Only a call depends on what functions there are, and it depends on its own. -/
theorem behaviour_withRegistry {registry : Registry} {e : Expression}
    (h : ∀ iri arguments, e = .call iri arguments → registry.get? iri = env.registry.get? iri) :
    (env.withRegistry registry).behaviour e = env.behaviour e ∧
      (env.withRegistry registry).opening e = env.opening e := by
  cases e with
  | builtin function arguments => cases function <;> exact ⟨rfl, rfl⟩
  | call iri arguments =>
      have hget : (env.withRegistry registry).registry.get? iri = env.registry.get? iri :=
        h iri arguments rfl
      simp only [behaviour, plan, opening, hget, and_true]
      rfl
  | _ => exact ⟨rfl, rfl⟩

/-- **LOOKUPS ARE ALL THAT IS READ**: registries that agree on what an evaluation looks up give the
same run. -/
theorem evaluateWithin_withRegistry {registry : Registry} {levels : Nat} {e : Expression}
    {s : State}
    (h : ∀ iri, env.LooksUp iri levels e s → registry.get? iri = env.registry.get? iri) :
    ((env.withRegistry registry).evaluateWithin levels e).run s =
      (env.evaluateWithin levels e).run s := by
  induction levels generalizing e s with
  | zero => rfl
  | succ levels ih =>
      have hcall : ∀ iri arguments, e = .call iri arguments →
          registry.get? iri = env.registry.get? iri := fun iri arguments heq =>
        h iri (Or.inl ⟨arguments, heq⟩)
      obtain ⟨hbehaviour, hopening⟩ := behaviour_withRegistry hcall
      refine run_eq_of_behaviour hbehaviour hopening fun step hstep => ?_
      rw [answers_eq, answers_eq]
      exact ih fun iri hlooks => h iri (Or.inr ⟨step, hstep, hlooks⟩)

/-- If functions are called by value or casts, what is looked up is called somewhere in the
expression. -/
theorem contains_of_looksUp (h : env.registry.IsTransparent) {iri : Iri} {levels : Nat}
    {e : Expression} {s : State} (hlooks : env.LooksUp iri levels e s) :
    ∃ arguments, e.Contains (.call iri arguments) := by
  obtain ⟨_, hcontains, _, _, arguments, rfl⟩ := contains_of_comesTo h hlooks
  exact ⟨arguments, hcontains⟩

end Environment

end SparqlScalar
