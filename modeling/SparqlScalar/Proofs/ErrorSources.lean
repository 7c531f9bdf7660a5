import SparqlScalar.Proofs.ErrorPassing
import SparqlScalar.Proofs.OperatorErrors

/-!
# Where errors come from

    The error of a construct is its own or that of one of its operands.  Its own errors are listed
    by `Environment.RaisesItself`: operators raise ordinary ones, and some constructs one more of
    their kind.  Any other error was passed on by the construct (`error_source`).
-/

namespace SparqlScalar

open EvalResult

namespace Environment

variable {env : Environment} {answer : Query → Eval Term}

/-- The errors that a construct raises itself: those of its operator, and of what it looks up. -/
def RaisesItself (env : Environment) (e : Expression) (x : EvalError) : Prop :=
  Ordinary (.error x : EvalResult Term) ∨
    match e with
    | .var name => env.context.lookup name = none ∧ x = .unbound name
    | .builtin function arguments =>
      function.arity.accepts arguments.length = false ∧
        x = .arity function.name function.arity.text arguments.length
    | .solvable _ pattern =>
      ∃ source, env.context.patterns = some source ∧
        (source.solutions pattern env.context.thaw.toScope 0).item = some (.error x)
    | .call iri arguments =>
      ∃ id arity apply, env.registry.get? iri = some (.byValue id arity apply) ∧
        (arity.accepts arguments.length = false ∧
            x = .arity iri.display arity.text arguments.length ∨
          ∃ terms, apply terms = .error x)
    | _ => False

/-- The error is that of an operand, which the construct passes on. -/
def IsPassedOn (e : Expression) (rs : List (EvalResult Term)) (x : EvalError) : Prop :=
  ∃ before after, rs = before ++ .error x :: after ∧ e.PassesOn before after

/-- If an ordinary operation is applied to an outcome, an error is that of the outcome or ordinary. -/
theorem bind_error_cases {α β : Type} {r : EvalResult α} {f : α → EvalResult β} {x : EvalError}
    (hf : ∀ a, Ordinary (f a)) (h : r >>= f = .error x) :
    r = .error x ∨ Ordinary (.error x : EvalResult Term) := by
  cases r with
  | ok a =>
      have hordinary := hf a
      rw [show f a = .error x from h] at hordinary
      cases x <;> exact Or.inr hordinary
  | error y => exact Or.inl (congrArg Except.error (Except.error.inj h))

/-- The first value fails with an error of its own, and never with one of an operand. -/
theorem ordinary_firstValue (found : Option Term) (rs : List (EvalResult Term)) :
    Ordinary (firstValueFrom (m := Id) found rs) := by
  induction rs generalizing found with
  | nil => exact ordinary_ofOption (by trivial) found
  | cons r rest ih =>
      cases r with
      | ok a => exact ih _
      | error y => exact ih found

/-- A chain fails with the error of an operand, or with one of its own. -/
theorem chain_source {r : EvalResult Term} {rs : List (EvalResult Term)} {x : EvalError}
    {f : Term → List Term → EvalResult Term} (hf : ∀ a others, Ordinary (f a others))
    (h : (do
      let a ← r
      let others ← valuesOf rs
      f a others) = .error x) :
    Ordinary (.error x : EvalResult Term) ∨
      ∃ before after, r :: rs = before ++ .error x :: after ∧ ∀ q ∈ before, ∃ a, q = .ok a := by
  cases r with
  | error y =>
      obtain rfl := Except.error.inj h
      exact Or.inr ⟨[], rs, rfl, List.forall_mem_nil _⟩
  | ok a =>
      rcases bind_error_cases (hf a) h with hvalues | hordinary
      · obtain ⟨before, after, rfl, hbefore⟩ := (valuesOf_error_iff rs).mp hvalues
        exact Or.inr ⟨.ok a :: before, after, rfl, List.forall_mem_cons.mpr ⟨⟨a, rfl⟩, hbefore⟩⟩
      · exact Or.inl hordinary

/-- The values of arguments that are performed are as many as the arguments. -/
theorem length_of_valuesOf {start count : Nat} {s : State} {terms : List Term}
    (h : valuesOf ((Step.upTo Step.fails answer start count s).map Step.outcome) = .ok terms) :
    terms.length = count := by
  induction count generalizing start s terms with
  | zero =>
      obtain rfl := Except.ok.inj h
      rfl
  | succ count ih =>
      cases hout : (Step.ofAnswer answer (.operand start) s).outcome with
      | error y =>
          rw [Step.upTo_ended (by rw [hout]; rfl), List.map_singleton, hout] at h
          exact nomatch h
      | ok a =>
          rw [Step.upTo_next (by rw [hout]; rfl), List.map_cons, hout] at h
          cases hrest : valuesOf ((Step.upTo Step.fails answer (start + 1) count
              (Step.ofAnswer answer (.operand start) s).after).map Step.outcome) with
          | error y =>
              simp only [valuesOf, hrest] at h
              exact nomatch h
          | ok others =>
              simp only [valuesOf, hrest] at h
              obtain rfl := Except.ok.inj h
              exact congrArg (· + 1) (ih hrest)

/-- An operator of one operand fails with its own error or passes one on. -/
theorem single_source {e : Expression} {r : EvalResult Term} {x : EvalError}
    {f : Term → EvalResult Term} (hf : ∀ a, Ordinary (f a)) (hpass : e.PassesOn [] [])
    (h : r >>= f = .error x) : env.RaisesItself e x ∨ IsPassedOn e [r] x := by
  rcases bind_error_cases hf h with rfl | hordinary
  · exact Or.inr ⟨[], [], rfl, hpass⟩
  · exact Or.inl (Or.inl hordinary)

theorem isIn_source {negated : Bool} {needle : Expression} {candidates : List Expression}
    {r : EvalResult Term} {rs : List (EvalResult Term)} {x : EvalError}
    (h : (do
      let a ← r
      (membership (m := Id) a rs).map fun found => Term.ofBool (found != negated)) = .error x) :
    env.RaisesItself (.isIn negated needle candidates) x ∨
      IsPassedOn (.isIn negated needle candidates) (r :: rs) x := by
  cases r with
  | error y =>
      obtain rfl := Except.error.inj h
      exact Or.inr ⟨[], rs, rfl, List.forall_mem_nil _⟩
  | ok a =>
      have hfails : membership (m := Id) a rs = .error x := map_error_iff.mp h
      obtain ⟨before, q, after, rfl, htest, hbefore, hafter⟩ := (anyOf_error_iff rs).mp hfails
      rcases bind_error_cases (ordinary_equalTerms a) htest with rfl | hordinary
      · exact Or.inr ⟨.ok a :: before, after, rfl, a, rfl, hbefore, hafter⟩
      · exact Or.inl (Or.inl hordinary)

theorem compare_source {operator : ComparisonOperator} {left right : Expression}
    {rs : List (EvalResult Term)} {x : EvalError}
    (h : env.combine (.compare operator left right) rs = some (.error x)) :
    env.RaisesItself (.compare operator left right) x ∨
      IsPassedOn (.compare operator left right) rs x := by
  rcases rs with _ | ⟨r, _ | ⟨r', _ | ⟨_, _⟩⟩⟩
  · exact nomatch h
  · cases r with
    | ok a => exact nomatch h
    | error y =>
        obtain rfl := Except.error.inj (Option.some.inj h)
        exact Or.inr ⟨[], [], rfl, List.forall_mem_nil _⟩
  · cases r with
    | ok a =>
        have hfails : r' >>= comparison operator a = .error x := Option.some.inj h
        rcases bind_error_cases (ordinary_comparison operator a) hfails with rfl | hordinary
        · exact Or.inr ⟨[.ok a], [], rfl, List.forall_mem_singleton.mpr ⟨a, rfl⟩⟩
        · exact Or.inl (Or.inl hordinary)
    | error y =>
        obtain rfl := Except.error.inj (Option.some.inj h)
        exact Or.inr ⟨[], [r'], rfl, List.forall_mem_nil _⟩
  · cases r <;> exact nomatch h

theorem conditional_source {condition ifTrue ifFalse : Expression} {rs : List (EvalResult Term)}
    {x : EvalError} (h : env.combine (.conditional condition ifTrue ifFalse) rs = some (.error x)) :
    env.RaisesItself (.conditional condition ifTrue ifFalse) x ∨
      IsPassedOn (.conditional condition ifTrue ifFalse) rs x := by
  rcases rs with _ | ⟨c, _ | ⟨r, _ | ⟨_, _⟩⟩⟩
  · cases h
  · simp only [combine] at h
    split at h
    · cases h
    · rename_i y htest
      obtain rfl := Except.error.inj (Option.some.inj h)
      rcases bind_error_cases ordinary_effectiveBooleanValue htest with rfl | hordinary
      · exact Or.inr ⟨[], [], rfl, List.forall_mem_nil _⟩
      · exact Or.inl (Or.inl hordinary)
  · cases c with
    | ok a =>
        simp only [combine] at h
        split at h
        · obtain rfl := Option.some.inj h
          exact Or.inr ⟨[.ok a], [], rfl, List.forall_mem_singleton.mpr ⟨a, rfl⟩⟩
        · cases h
    | error y => cases h
  · cases h

/-- What an operator fails with is its own error or is passed on. -/
theorem combine_source {e : Expression} {rs : List (EvalResult Term)} {x : EvalError}
    (h : env.combine e rs = some (.error x)) : env.RaisesItself e x ∨ IsPassedOn e rs x := by
  cases e with
  | constant _ | bound _ => cases rs <;> cases h
  | solvable _ _ | builtin _ _ | call _ _ => cases h
  | var name =>
      cases rs with
      | cons r rs => cases h
      | nil =>
          cases hlookup : env.context.lookup name with
          | some term =>
              simp only [combine, hlookup] at h
              cases h
          | none =>
              simp only [combine, hlookup] at h
              exact Or.inl (Or.inr ⟨hlookup, (Except.error.inj (Option.some.inj h)).symm⟩)
  | lone _ _ =>
      rcases rs with _ | ⟨r, _ | ⟨_, _⟩⟩
      · cases h
      · obtain rfl := Option.some.inj h
        exact Or.inr ⟨[], [], rfl, List.forall_mem_nil _⟩
      · cases h
  | not _ =>
      rcases rs with _ | ⟨r, _ | ⟨_, _⟩⟩
      · cases h
      · exact single_source ordinary_negation (List.forall_mem_nil _) (Option.some.inj h)
      · cases h
  | negate _ =>
      rcases rs with _ | ⟨r, _ | ⟨_, _⟩⟩
      · cases h
      · exact single_source ordinary_minus (List.forall_mem_nil _) (Option.some.inj h)
      · cases h
  | plus _ =>
      rcases rs with _ | ⟨r, _ | ⟨_, _⟩⟩
      · cases h
      · exact single_source ordinary_plus (List.forall_mem_nil _) (Option.some.inj h)
      · cases h
  | or _ _ =>
      have hfails : disjunction (m := Id) rs = .error x := map_error_iff.mp (Option.some.inj h)
      obtain ⟨before, q, after, rfl, htest, hpass⟩ := (anyOf_error_iff rs).mp hfails
      rcases bind_error_cases ordinary_effectiveBooleanValue htest with rfl | hordinary
      · exact Or.inr ⟨before, after, rfl, hpass⟩
      · exact Or.inl (Or.inl hordinary)
  | and _ _ =>
      have hfails : conjunction (m := Id) rs = .error x := map_error_iff.mp (Option.some.inj h)
      obtain ⟨before, q, after, rfl, htest, hpass⟩ := (allOf_error_iff rs).mp hfails
      rcases bind_error_cases ordinary_effectiveBooleanValue htest with rfl | hordinary
      · exact Or.inr ⟨before, after, rfl, hpass⟩
      · exact Or.inl (Or.inl hordinary)
  | coalesce _ =>
      have hordinary := ordinary_firstValue none rs
      rw [show firstValueFrom (m := Id) none rs = .error x from Option.some.inj h] at hordinary
      exact Or.inl (Or.inl hordinary)
  | isIn _ _ _ =>
      cases rs with
      | nil => cases h
      | cons r rs => exact isIn_source (Option.some.inj h)
  | compare _ _ _ => exact compare_source h
  | conditional _ _ _ => exact conditional_source h
  | additive _ rest =>
      cases rs with
      | nil => cases h
      | cons r rs =>
          exact (chain_source (fun _ _ => ordinary_additiveChain _ _) (Option.some.inj h)).imp
            Or.inl id
  | multiplicative _ rest =>
      cases rs with
      | nil => cases h
      | cons r rs =>
          exact (chain_source (fun _ _ => ordinary_multiplicativeChain _ _)
            (Option.some.inj h)).imp Or.inl id

theorem hasSolution_source {pattern : String} {t : State} {x : EvalError}
    (h : ((env.hasSolution pattern).run t).1 = .error x) :
    Ordinary (.error x : EvalResult Term) ∨
      ∃ source, env.context.patterns = some source ∧
        (source.solutions pattern env.context.thaw.toScope 0).item = some (.error x) := by
  cases hpatterns : env.context.patterns with
  | none =>
      rw [hasSolution_run_none hpatterns] at h
      obtain rfl := Except.error.inj h
      exact Or.inl trivial
  | some source =>
      refine Or.inr ⟨source, rfl, ?_⟩
      rw [hasSolution_run hpatterns] at h
      cases hitem : (source.solutions pattern env.context.thaw.toScope 0).item with
      | none =>
          rw [hitem] at h
          exact nomatch h
      | some item =>
          rw [hitem] at h
          exact congrArg some (map_error_iff.mp h)

/-- A function whose arguments have no values passes on the error of the first that has none. -/
theorem values_source {e : Expression} {rs : List (EvalResult Term)} {own : List Term → Eval Term}
    {t : State} {x : EvalError}
    (hpass : ∀ before after, (∀ q ∈ before, ∃ a, q = .ok a) → e.PassesOn before after)
    (herror : ((Eval.ofResult (valuesOf rs) >>= own).run t).1 = .error x) :
    IsPassedOn e rs x ∨ ∃ terms, valuesOf rs = .ok terms ∧ ((own terms).run t).1 = .error x := by
  cases hvalues : valuesOf rs with
  | error y =>
      rw [hvalues] at herror
      obtain rfl := Except.error.inj herror
      obtain ⟨before, after, heq, hbefore⟩ := (valuesOf_error_iff rs).mp hvalues
      exact Or.inl ⟨before, after, heq, hpass before after hbefore⟩
  | ok terms =>
      rw [hvalues] at herror
      exact Or.inr ⟨terms, rfl, herror⟩

/-- A construct that refuses its operands for want of a result fails with an ordinary error. -/
theorem ordinary_refusal {cause : EvaluationCause} (hcause : cause.IsOwn) {own : Eval Term}
    {t : State} {x : EvalError} (hown : some (Eval.ofResult (evaluationError cause)) = some own)
    (herror : (own.run t).1 = .error x) : Ordinary (.error x : EvalResult Term) := by
  obtain rfl := Option.some.inj hown
  obtain rfl := Except.error.inj herror
  exact hcause

theorem builtin_source {function : Builtin} {arguments : List Expression} {s t : State}
    {own : Eval Term} {x : EvalError}
    (hown : env.conclude (.builtin function arguments)
      ((env.performed answer (.builtin function arguments) s).map Step.outcome) = some own)
    (herror : (own.run t).1 = .error x) :
    env.RaisesItself (.builtin function arguments) x ∨
      IsPassedOn (.builtin function arguments)
        ((env.performed answer (.builtin function arguments) s).map Step.outcome) x := by
  cases haccepts : function.arity.accepts arguments.length with
  | false =>
      simp only [conclude, haccepts] at hown
      obtain rfl := Option.some.inj hown
      exact Or.inl (Or.inr ⟨haccepts, (Except.error.inj herror).symm⟩)
  | true =>
      have hperformed : env.performed answer (.builtin function arguments) s =
          Step.upTo Step.fails answer 0 arguments.length s := by
        simp only [performed, haccepts, if_true]
      rw [hperformed] at hown ⊢
      simp only [conclude, haccepts, if_true] at hown
      obtain rfl := Option.some.inj hown
      rcases values_source (e := .builtin function arguments) (fun _ _ hbefore => hbefore) herror
        with hpassed | ⟨terms, hvalues, hfails⟩
      · exact Or.inr hpassed
      · -- all arguments were performed, so the function has as many values as it accepts
        have haccepts' : function.arity.accepts terms.length = true := by
          rw [length_of_valuesOf hvalues]
          exact haccepts
        have hordinary := function.ordinary_apply env haccepts' t
        rw [hfails] at hordinary
        exact Or.inl (Or.inl hordinary)

theorem call_source (h : env.registry.IsTransparent) {iri : Iri} {arguments : List Expression}
    {s t : State} {own : Eval Term} {x : EvalError}
    (hown : env.conclude (.call iri arguments)
      ((env.performed answer (.call iri arguments) s).map Step.outcome) = some own)
    (herror : (own.run t).1 = .error x) :
    env.RaisesItself (.call iri arguments) x ∨
      IsPassedOn (.call iri arguments)
        ((env.performed answer (.call iri arguments) s).map Step.outcome) x := by
  cases hget : env.registry.get? iri with
  | none =>
      simp only [conclude, hget] at hown
      exact Or.inl (Or.inl (ordinary_refusal (by trivial) hown herror))
  | some function =>
      rcases transparent_cases h hget with ⟨target, rfl⟩ | ⟨id, arity, apply, rfl⟩
      · rcases arguments with _ | ⟨argument, _ | ⟨_, _⟩⟩
        · simp only [conclude, performed, hget, CustomFunction.ofCast] at hown
          exact Or.inl (Or.inl (ordinary_refusal (by trivial) hown herror))
        · have hperformed : env.performed answer (.call iri [argument]) s =
              [Step.ofAnswer answer (.operand 0) s] := by
            simp only [performed, hget, CustomFunction.ofCast]
            exact Step.upTo_one 0 s
          rw [hperformed] at hown ⊢
          simp only [conclude, hget, CustomFunction.ofCast, List.map_singleton] at hown
          obtain rfl := Option.some.inj hown
          exact single_source target.ordinary_apply (List.forall_mem_nil _) herror
        · simp only [conclude, performed, hget, CustomFunction.ofCast] at hown
          exact Or.inl (Or.inl (ordinary_refusal (by trivial) hown herror))
      · cases haccepts : arity.accepts arguments.length with
        | false =>
            simp only [conclude, hget, haccepts] at hown
            obtain rfl := Option.some.inj hown
            exact Or.inl (Or.inr ⟨id, arity, apply, hget,
              Or.inl ⟨haccepts, (Except.error.inj herror).symm⟩⟩)
        | true =>
            simp only [conclude, hget, haccepts, if_true] at hown
            obtain rfl := Option.some.inj hown
            rcases values_source (e := .call iri arguments) (fun _ _ hbefore => hbefore) herror
              with hpassed | ⟨terms, -, hfails⟩
            · exact Or.inr hpassed
            · exact Or.inl (Or.inr ⟨id, arity, apply, hget, Or.inr ⟨terms, hfails⟩⟩)

/-- What a construct fails with is its own error or is passed on. -/
theorem error_source (h : env.registry.IsTransparent) {e : Expression} {s t : State}
    {own : Eval Term} {x : EvalError}
    (hown : env.conclude e ((env.performed answer e s).map Step.outcome) = some own)
    (herror : (own.run t).1 = .error x) :
    env.RaisesItself e x ∨ IsPassedOn e ((env.performed answer e s).map Step.outcome) x := by
  -- operators have no effects: what they do is the outcome that they combine
  have hoperator : env.conclude e ((env.performed answer e s).map Step.outcome) =
      (env.combine e ((env.performed answer e s).map Step.outcome)).map Eval.ofResult →
      env.RaisesItself e x ∨ IsPassedOn e ((env.performed answer e s).map Step.outcome) x := by
    intro heq
    rw [heq] at hown
    obtain ⟨r, hr, rfl⟩ := Option.map_eq_some_iff.mp hown
    rw [show r = .error x from herror] at hr
    exact combine_source hr
  cases e with
  | builtin function arguments => exact builtin_source hown herror
  | call iri arguments => exact call_source h hown herror
  | solvable negated pattern =>
      obtain rfl := Option.some.inj hown
      cases hsolution : ((env.hasSolution pattern).run t).1 with
      | ok found =>
          rw [Eval.run_bind_ok hsolution] at herror
          exact nomatch herror
      | error y =>
          rw [Eval.run_bind_error hsolution] at herror
          obtain rfl := Except.error.inj herror
          exact Or.inl (hasSolution_source hsolution)
  | _ => exact hoperator rfl

end Environment

end SparqlScalar
