import SparqlScalar.Proofs.Performed

/-!
# Errors that are passed on

    The error of an operand is PASSED ON if its construct lets it through:

      OR          -- all operands before it are false and none after it is true
      AND         -- all operands before it are true and none after it is false
      IN, NOT IN  -- the needle's always; a candidate's if none equals the needle, and the
                     ones before it are decided
      COALESCE    -- never
      others      -- all operands before it have values

    An error that is passed on is the error of the construct (`own_of_passesOn`).  The last line is
    no condition at all: the others stop at the first failure, so that an operand is performed only
    after values (`passesOn_of_not_absorbing`).
-/

namespace SparqlScalar

/-- A construct passes on the error of an operand, given the outcomes before it and after it. -/
def Expression.PassesOn : Expression → List (EvalResult Term) → List (EvalResult Term) → Prop
  | .or _ _, before, after =>
    (∀ q ∈ before, q >>= effectiveBooleanValue = .ok false) ∧
      ∀ q ∈ after, q >>= effectiveBooleanValue ≠ .ok true
  | .and _ _, before, after =>
    (∀ q ∈ before, q >>= effectiveBooleanValue = .ok true) ∧
      ∀ q ∈ after, q >>= effectiveBooleanValue ≠ .ok false
  | .isIn _ _ _, needle :: before, after =>
    ∃ a, needle = .ok a ∧ (∀ q ∈ before, q >>= equalTerms a = .ok false) ∧
      ∀ q ∈ after, q >>= equalTerms a ≠ .ok true
  | .coalesce _, _, _ => False
  | _, before, _ => ∀ q ∈ before, ∃ a, q = .ok a

/-- A construct that may put another outcome in the place of an operand's error. -/
def Expression.IsAbsorbing : Expression → Prop
  | .or _ _ | .and _ _ | .isIn _ _ _ | .coalesce _ => True
  | _ => False

/-- An expression in which no construct absorbs errors. -/
inductive Expression.NeverAbsorbs : Expression → Prop where
  | construct {e : Expression} (hself : ¬ e.IsAbsorbing)
      (hoperands : ∀ d ∈ e.operands, NeverAbsorbs d) : NeverAbsorbs e

namespace Environment

variable {env : Environment} {answer : Query → Eval Term}

/-- A chain passes on the error of its first operand, and of a later one after values. -/
theorem chain_passesOn {before after rs : List (EvalResult Term)} {r : EvalResult Term}
    {x : EvalError} (hsplit : r :: rs = before ++ .error x :: after)
    (hbefore : ∀ q ∈ before, ∃ a, q = .ok a) (f : Term → List Term → EvalResult Term) :
    (do
      let a ← r
      let others ← valuesOf rs
      f a others) = .error x := by
  cases before with
  | nil =>
      obtain ⟨rfl, -⟩ := List.cons.inj hsplit
      rfl
  | cons q before =>
      obtain ⟨rfl, hrs⟩ := List.cons.inj hsplit
      obtain ⟨⟨a, rfl⟩, hrest⟩ := List.forall_mem_cons.mp hbefore
      -- the first operand has a value, so the error is the first among the others
      have hvalues : valuesOf rs = .error x := by
        rw [hrs]
        exact valuesOf_split hrest
      rw [hvalues]
      rfl

theorem compare_passesOn {operator : ComparisonOperator} {left right : Expression}
    {before after : List (EvalResult Term)} {x : EvalError} {own : Eval Term}
    (hbefore : ∀ q ∈ before, ∃ a, q = .ok a)
    (hown : env.conclude (.compare operator left right) (before ++ .error x :: after) = some own) :
    own = Eval.ofResult (.error x) := by
  match before, after, hbefore, hown with
  | [], [], _, hown => exact (Option.some.inj hown).symm
  | [], [_], _, hown => exact (Option.some.inj hown).symm
  | [], _ :: _ :: _, _, hown => exact nomatch hown
  | q :: rest, after, hbefore, hown =>
      obtain ⟨⟨a, rfl⟩, hrest⟩ := List.forall_mem_cons.mp hbefore
      match rest, after, hown with
      | [], [], hown => exact (Option.some.inj hown).symm
      | [], _ :: _, hown => exact nomatch hown
      | [_], _, hown => exact nomatch hown
      | _ :: _ :: _, _, hown => exact nomatch hown

theorem conditional_passesOn {condition ifTrue ifFalse : Expression}
    {before after : List (EvalResult Term)} {x : EvalError} {own : Eval Term}
    (hown : env.conclude (.conditional condition ifTrue ifFalse) (before ++ .error x :: after) =
      some own) : own = Eval.ofResult (.error x) := by
  rcases before with _ | ⟨q, _ | ⟨q', before⟩⟩
  · rcases after with _ | ⟨r, _ | ⟨r', after⟩⟩
    · exact (Option.some.inj hown).symm
    · cases hown
    · cases hown
  · rcases after with _ | ⟨r, after⟩
    · simp only [conclude, combine, List.cons_append, List.nil_append] at hown
      split at hown
      · exact (Option.some.inj hown).symm
      · cases hown
    · cases hown
  · rcases before with _ | ⟨q'', before⟩ <;> cases hown

theorem call_passesOn (h : env.registry.IsTransparent) {iri : Iri} {arguments : List Expression}
    {s : State} {before after : List (EvalResult Term)} {x : EvalError} {own : Eval Term}
    (hsplit : (env.performed answer (.call iri arguments) s).map Step.outcome =
      before ++ .error x :: after)
    (hbefore : ∀ q ∈ before, ∃ a, q = .ok a)
    (hown : env.conclude (.call iri arguments) (before ++ .error x :: after) = some own) :
    own = Eval.ofResult (.error x) := by
  cases hget : env.registry.get? iri with
  | none =>
      simp only [performed, hget] at hsplit
      exact absurd hsplit nil_ne_split
  | some function =>
      rcases transparent_cases h hget with ⟨target, rfl⟩ | ⟨id, arity, apply, rfl⟩
      · simp only [performed, hget, CustomFunction.ofCast] at hsplit
        rcases arguments with _ | ⟨argument, _ | ⟨second, rest⟩⟩
        · exact absurd hsplit nil_ne_split
        · obtain ⟨rfl, -, rfl⟩ := singleton_split hsplit
          simp only [conclude, hget, CustomFunction.ofCast, List.nil_append] at hown
          exact (Option.some.inj hown).symm
        · exact absurd hsplit nil_ne_split
      · cases haccepts : arity.accepts arguments.length with
        | false =>
            simp only [performed, hget, haccepts] at hsplit
            exact absurd hsplit nil_ne_split
        | true =>
            simp only [conclude, hget, haccepts, if_true, valuesOf_split hbefore] at hown
            exact (Option.some.inj hown).symm

/-- What a construct does is to fail, where it passes on the error of an operand. -/
theorem own_of_passesOn (h : env.registry.IsTransparent) {e : Expression} {s : State}
    {before after : List (EvalResult Term)} {x : EvalError} {own : Eval Term}
    (hsplit : (env.performed answer e s).map Step.outcome = before ++ .error x :: after)
    (hpass : e.PassesOn before after)
    (hown : env.conclude e ((env.performed answer e s).map Step.outcome) = some own) :
    own = Eval.ofResult (.error x) := by
  cases e with
  | constant _ | var _ | bound _ | solvable _ _ => exact absurd hsplit nil_ne_split
  | lone _ _ | not _ | negate _ | plus _ =>
      -- there is one operand, so it is the one that failed
      obtain ⟨rfl, -, rfl⟩ := singleton_split hsplit
      rw [hsplit] at hown
      exact (Option.some.inj hown).symm
  | or first rest =>
      have hfails : disjunction (m := Id) _ = .error x :=
        (anyOf_error_iff _).mpr ⟨before, .error x, after, rfl, rfl, hpass⟩
      rw [hsplit] at hown
      rw [← Option.some.inj hown, hfails]
      rfl
  | and first rest =>
      have hfails : conjunction (m := Id) _ = .error x :=
        (allOf_error_iff _).mpr ⟨before, .error x, after, rfl, rfl, hpass⟩
      rw [hsplit] at hown
      rw [← Option.some.inj hown, hfails]
      rfl
  | coalesce _ => exact hpass.elim
  | isIn negated needle candidates =>
      rw [hsplit] at hown
      -- the needle fails at the head of the list, a candidate after it
      cases before with
      | nil => exact (Option.some.inj hown).symm
      | cons q before =>
          obtain ⟨a, rfl, hbefore, hafter⟩ := hpass
          have hfails : membership (m := Id) a _ = .error x :=
            (anyOf_error_iff _).mpr ⟨before, .error x, after, rfl, rfl, hbefore, hafter⟩
          have hown' : Eval.ofResult ((membership (m := Id) a (before ++ .error x :: after)).map
            fun found => Term.ofBool (found != negated)) = own := Option.some.inj hown
          rw [← hown', hfails]
          rfl
  | additive first rest | multiplicative first rest =>
      obtain ⟨r, rs, hcons⟩ := exists_cons_of_split before (.error x) after
      rw [hsplit, hcons] at hown
      rw [← Option.some.inj hown]
      exact congrArg Eval.ofResult (chain_passesOn hcons.symm hpass _)
  | compare operator _ _ =>
      rw [hsplit] at hown
      exact compare_passesOn hpass hown
  | conditional _ _ _ =>
      rw [hsplit] at hown
      exact conditional_passesOn hown
  | builtin function arguments =>
      cases haccepts : function.arity.accepts arguments.length with
      | false =>
          -- a refused call performs nothing that could fail
          simp only [performed, haccepts] at hsplit
          exact absurd hsplit nil_ne_split
      | true =>
          rw [hsplit] at hown
          simp only [conclude, haccepts, if_true, valuesOf_split hpass] at hown
          exact (Option.some.inj hown).symm
  | call iri arguments =>
      rw [hsplit] at hown
      exact call_passesOn h hsplit hpass hown

/-- What is performed before another operand has not ended it. -/
theorem not_ends_of_before {ends : EvalResult Term → Bool} {start count : Nat} {s : State}
    {before after : List Step} {step : Step}
    (hsplit : Step.upTo ends answer start count s = before ++ step :: after) :
    ∀ q ∈ before, ends q.outcome = false := by
  induction count generalizing start s before with
  | zero => exact absurd hsplit nil_ne_split
  | succ count ih =>
      cases hends : ends (Step.ofAnswer answer (.operand start) s).outcome with
      | true =>
          -- the operand that ends it is the last, and nothing is before it
          rw [Step.upTo_ended hends] at hsplit
          obtain ⟨rfl, -, -⟩ := singleton_split hsplit
          exact List.forall_mem_nil _
      | false =>
          rw [Step.upTo_next hends] at hsplit
          cases before with
          | nil => exact List.forall_mem_nil _
          | cons q before =>
              obtain ⟨rfl, hrest⟩ := List.cons.inj hsplit
              exact List.forall_mem_cons.mpr ⟨hends, ih hrest⟩

/-- What is performed up to the first failure has values before it. -/
theorem values_of_before {start count : Nat} {s : State} {before after : List Step} {step : Step}
    (hsplit : Step.upTo Step.fails answer start count s = before ++ step :: after) :
    ∀ q ∈ before.map Step.outcome, ∃ a, q = .ok a := by
  intro r hr
  obtain ⟨q, hq, rfl⟩ := List.mem_map.mp hr
  have hends := not_ends_of_before hsplit q hq
  cases hout : q.outcome with
  | ok a => exact ⟨a, rfl⟩
  | error y =>
      rw [hout] at hends
      exact nomatch hends

/-- All constructs but OR, AND, IN, NOT IN and COALESCE pass every error on. -/
theorem passesOn_of_not_absorbing (h : env.registry.IsTransparent) {e : Expression}
    (he : ¬ e.IsAbsorbing) {s : State} {before after : List Step} {step : Step}
    (hsplit : env.performed answer e s = before ++ step :: after) :
    e.PassesOn (before.map Step.outcome) (after.map Step.outcome) := by
  cases e with
  | or _ _ | and _ _ | isIn _ _ _ | coalesce _ => exact absurd trivial he
  | constant _ | var _ | bound _ | solvable _ _ => exact absurd hsplit nil_ne_split
  | lone _ _ | not _ | negate _ | plus _ =>
      obtain ⟨rfl, -, -⟩ := singleton_split hsplit
      exact List.forall_mem_nil _
  | compare _ _ _ | additive _ _ | multiplicative _ _ => exact values_of_before hsplit
  | conditional condition ifTrue ifFalse =>
      cases before with
      | nil => exact List.forall_mem_nil _
      | cons q before =>
          -- there is a second operand, so the condition has a truth value
          obtain ⟨rfl, hrest⟩ := List.cons.inj hsplit
          cases hout : (Step.ofAnswer answer (.operand 0) s).outcome with
          | error y =>
              simp only [hout] at hrest
              exact absurd hrest nil_ne_split
          | ok a =>
              have hlen : before = [] := by
                split at hrest
                · exact (singleton_split hrest).1
                · exact (singleton_split hrest).1
                · exact absurd hrest nil_ne_split
              rw [hlen, List.map_singleton, hout]
              exact List.forall_mem_singleton.mpr ⟨a, rfl⟩
  | builtin function arguments =>
      simp only [performed] at hsplit
      split at hsplit
      · exact values_of_before hsplit
      · exact absurd hsplit nil_ne_split
  | call iri arguments =>
      cases hget : env.registry.get? iri with
      | none =>
          simp only [performed, hget] at hsplit
          exact absurd hsplit nil_ne_split
      | some function =>
          rcases transparent_cases h hget with ⟨target, rfl⟩ | ⟨id, arity, apply, rfl⟩
          · simp only [performed, hget, CustomFunction.ofCast] at hsplit
            split at hsplit
            · obtain ⟨rfl, -, -⟩ := singleton_split hsplit
              exact List.forall_mem_nil _
            · exact absurd hsplit nil_ne_split
          · simp only [performed, hget] at hsplit
            split at hsplit
            · exact values_of_before hsplit
            · exact absurd hsplit nil_ne_split

end Environment

end SparqlScalar
