import SparqlScalar.Proofs.Outcomes
import SparqlScalar.Proofs.Transparent

/-!
# Which operands are performed

    An operand is PERFORMED if its construct evaluates it.  Which operands are, and in which order,
    is a rule of each construct (`Environment.performed`):

      AND, COALESCE                          -- all of them, whatever the earlier outcomes
      OR                                     -- up to and including the first true one
      IN, NOT IN                             -- the needle, then up to the first equal candidate
      IF                                     -- the condition, then the selected branch alone
      comparisons, chains, functions, calls  -- up to and including the first failing one
      refused and unknown functions          -- none

    `Environment.conclude` is what a construct does once its operands are performed; it sees their
    outcomes and nothing else.  The main lemma, `behaviour_performed`, says that the behaviour of a
    construct traces the performed operands and gives the conclusion.
-/

namespace SparqlScalar

/-! ## Steps from left to right -/

namespace Step

/-- The steps perform operands from left to right: each starts in the state which the one before
it left, and none is performed twice. -/
def LeftToRight (answer : Query → Eval Term) : Nat → State → List Step → Prop
  | _, _, [] => True
  | least, s, step :: rest =>
    ∃ place, least ≤ place ∧ step = ofAnswer answer (.operand place) s ∧
      LeftToRight answer (place + 1) step.after rest

/-- Performs a number of operands from a place on, up to and including the first with an outcome
that ends it. -/
def upTo (ends : EvalResult Term → Bool) (answer : Query → Eval Term) :
    Nat → Nat → State → List Step
  | _, 0, _ => []
  | start, count + 1, s =>
    let step := ofAnswer answer (.operand start) s
    if ends step.outcome then [step] else step :: upTo ends answer (start + 1) count step.after

/-- No outcome ends it. -/
def never (_ : EvalResult Term) : Bool := false

/-- An outcome is a failure. -/
def fails : EvalResult Term → Bool
  | .ok _ => false
  | .error _ => true

/-- An outcome passes a test. -/
def passes (test : Term → EvalResult Bool) (outcome : EvalResult Term) : Bool :=
  match outcome >>= test with
  | .ok holds => holds
  | .error _ => false

variable {answer : Query → Eval Term} {ends : EvalResult Term → Bool}

/-- An outcome that ends a loop is the last step. -/
theorem upTo_ended {start count : Nat} {s : State}
    (h : ends (ofAnswer answer (.operand start) s).outcome = true) :
    upTo ends answer start (count + 1) s = [ofAnswer answer (.operand start) s] := if_pos h

/-- Any other outcome is followed by the next operand, in the state that it left. -/
theorem upTo_next {start count : Nat} {s : State}
    (h : ends (ofAnswer answer (.operand start) s).outcome = false) :
    upTo ends answer start (count + 1) s = ofAnswer answer (.operand start) s ::
      upTo ends answer (start + 1) count (ofAnswer answer (.operand start) s).after :=
  if_neg (Bool.eq_false_iff.mp h)

theorem upTo_one (start : Nat) (s : State) :
    upTo ends answer start 1 s = [ofAnswer answer (.operand start) s] := by
  cases h : ends (ofAnswer answer (.operand start) s).outcome with
  | true => exact upTo_ended h
  | false => exact upTo_next h

/-- A loop goes from left to right. -/
theorem leftToRight_upTo {least start : Nat} (hle : least ≤ start) (count : Nat) (s : State) :
    LeftToRight answer least s (upTo ends answer start count s) := by
  induction count generalizing least start s with
  | zero => exact trivial
  | succ count ih =>
      cases h : ends (ofAnswer answer (.operand start) s).outcome with
      | true =>
          rw [upTo_ended h]
          exact ⟨start, hle, rfl, trivial⟩
      | false =>
          rw [upTo_next h]
          exact ⟨start, hle, rfl, ih (Nat.le_refl _) _⟩

end Step

open Step (upTo never fails passes)

/-! ## Traces of plans -/

namespace Plan

variable {α β : Type} {answer : Query → Eval Term}

/-- A plan runs through some steps to a value. -/
def Follows (answer : Query → Eval Term) (p : Plan α) (s : State) (steps : List Step)
    (value : α) : Prop :=
  p.trace answer s = steps ∧ (p.run answer s).1 = value

/-- The steps of a sequence are those of its parts, one after the other. -/
theorem follows_bind {p : Plan α} {f : α → Plan β} {s : State} {first second : List Step} {a : α}
    {b : β} (hp : Follows answer p s first a)
    (hf : Follows answer (f a) (Step.finalState s first) second b) :
    Follows answer (p >>= f) s (first ++ second) b := by
  obtain ⟨htrace, hvalue⟩ := hp
  -- the second part starts in the state that the steps of the first left
  have hstate : (p.run answer s).2 = Step.finalState s first := by rw [run_state, htrace]
  refine ⟨?_, ?_⟩
  · rw [trace_bind, htrace, hvalue, hstate, hf.1]
  · rw [run_bind, hvalue, hstate, hf.2]

/-- A plan that asks for an operand performs it first. -/
theorem follows_ask {place : Nat} {f : EvalResult Term → Plan α} {s : State} {rest : List Step}
    {value : α}
    (h : Follows answer (f (Step.ofAnswer answer (.operand place) s).outcome)
      (Step.ofAnswer answer (.operand place) s).after rest value) :
    Follows answer (.ask (.operand place) .done >>= f) s
      (Step.ofAnswer answer (.operand place) s :: rest) value :=
  ⟨congrArg (List.cons _) h.1, h.2⟩

/-- A disjunction runs up to the first operand that passes the test. -/
theorem anyFrom_follows (test : Term → EvalResult Bool) (firstError : Option EvalError)
    (start count : Nat) (s : State) :
    Follows answer (anyFrom test firstError (questions start count)) s
      (upTo (passes test) answer start count s)
      (anyFrom (m := Id) test firstError
        ((upTo (passes test) answer start count s).map Step.outcome)) := by
  induction count generalizing start s firstError with
  | zero => exact ⟨rfl, rfl⟩
  | succ count ih =>
      -- a disjunction ends at a true operand and holds the first error meanwhile
      cases h : (Step.ofAnswer answer (.operand start) s).outcome >>= test with
      | error e =>
          rw [Step.upTo_next (by simp only [passes, h])]
          refine follows_ask ?_
          rw [List.map_cons, anyFrom_error h]
          simp only [h]
          exact ih (firstError <|> some e) _ _
      | ok holds =>
          cases holds with
          | false =>
              rw [Step.upTo_next (by simp only [passes, h])]
              refine follows_ask ?_
              rw [List.map_cons, anyFrom_false h]
              simp only [h]
              exact ih firstError _ _
          | true =>
              rw [Step.upTo_ended (by simp only [passes, h])]
              refine follows_ask ?_
              rw [List.map_cons, anyFrom_true h]
              simp only [h]
              exact ⟨rfl, rfl⟩

/-- A conjunction runs all operands. -/
theorem allFrom_follows (test : Term → EvalResult Bool) (holds : Bool)
    (firstError : Option EvalError) (start count : Nat) (s : State) :
    Follows answer (allFrom test holds firstError (questions start count)) s
      (upTo never answer start count s)
      (allFrom (m := Id) test holds firstError
        ((upTo never answer start count s).map Step.outcome)) := by
  induction count generalizing start s holds firstError with
  | zero => exact ⟨rfl, rfl⟩
  | succ count ih =>
      -- a conjunction goes on whatever the outcome is
      rw [Step.upTo_next rfl]
      refine follows_ask ?_
      cases h : (Step.ofAnswer answer (.operand start) s).outcome >>= test with
      | error e =>
          rw [List.map_cons, allFrom_error h]
          exact ih holds (firstError <|> some e) _ _
      | ok passed =>
          cases passed with
          | false =>
              rw [List.map_cons, allFrom_false h]
              exact ih false firstError _ _
          | true =>
              rw [List.map_cons, allFrom_true h]
              exact ih holds firstError _ _

/-- A choice of the first value runs all operands. -/
theorem firstValueFrom_follows (found : Option Term) (start count : Nat) (s : State) :
    Follows answer (firstValueFrom found (questions start count)) s
      (upTo never answer start count s)
      (firstValueFrom (m := Id) found ((upTo never answer start count s).map Step.outcome)) := by
  induction count generalizing start s found with
  | zero => exact ⟨rfl, rfl⟩
  | succ count ih =>
      rw [Step.upTo_next rfl]
      refine follows_ask ?_
      cases h : (Step.ofAnswer answer (.operand start) s).outcome with
      | error e =>
          rw [List.map_cons, h]
          exact ih found _ _
      | ok term =>
          rw [List.map_cons, h]
          exact ih (found <|> some term) _ _

/-- A value is followed by the steps of what comes next. -/
theorem follows_bindOk {p : ExceptT EvalError Plan α} {f : α → ExceptT EvalError Plan β}
    {s : State} {first second : List Step} {a : α} {r : EvalResult β}
    (hp : Follows answer p.run s first (.ok a))
    (hf : Follows answer (f a).run (Step.finalState s first) second r) :
    Follows answer (p >>= f).run s (first ++ second) r := by
  have hnext : Follows answer (ExceptT.bindCont f (.ok a)) (Step.finalState s first) second r := hf
  exact follows_bind hp hnext

/-- A failure is followed by nothing. -/
theorem follows_bindError {p : ExceptT EvalError Plan α} {s : State} {steps : List Step}
    {e : EvalError} (hp : Follows answer p.run s steps (.error e))
    (f : α → ExceptT EvalError Plan β) :
    Follows answer (p >>= f).run s steps (.error e) := by
  -- nothing is asked after a failure
  have hnext : Follows answer (ExceptT.bindCont f (.error e)) (Step.finalState s steps) []
      (.error e) := ⟨rfl, rfl⟩
  have hbind := follows_bind hp hnext
  rw [List.append_nil] at hbind
  exact hbind

/-- A plan that ends in a function of a value runs through the same steps. -/
theorem follows_map {p : ExceptT EvalError Plan α} {s : State} {steps : List Step}
    {r : EvalResult α} (hp : Follows answer p.run s steps r) (g : α → β) :
    Follows answer (p >>= fun a => pure (g a)).run s steps (r.map g) := by
  cases r with
  | error e => exact follows_bindError hp _
  | ok a =>
      -- a function of the value asks for nothing more
      have hend : Follows answer (pure (g a) : ExceptT EvalError Plan β).run
          (Step.finalState s steps) [] (.ok (g a)) := ⟨rfl, rfl⟩
      have hbind := follows_bindOk (f := fun a => pure (g a)) hp hend
      rw [List.append_nil] at hbind
      exact hbind

theorem follows_value (place : Nat) (s : State) :
    Follows answer (value place).run s [Step.ofAnswer answer (.operand place) s]
      (Step.ofAnswer answer (.operand place) s).outcome := ⟨rfl, rfl⟩

/-- To ask for an operand that has a value is the first step. -/
theorem follows_value_ok {place : Nat} {f : Term → ExceptT EvalError Plan β} {s : State} {a : Term}
    {rest : List Step} {r : EvalResult β}
    (hout : (Step.ofAnswer answer (.operand place) s).outcome = .ok a)
    (h : Follows answer (f a).run (Step.ofAnswer answer (.operand place) s).after rest r) :
    Follows answer (value place >>= f).run s (Step.ofAnswer answer (.operand place) s :: rest) r := by
  have hhead : Follows answer (value place).run s _ _ := follows_value place s
  rw [hout] at hhead
  exact follows_bindOk hhead h

/-- To ask for one that fails is the only step. -/
theorem follows_value_error {place : Nat} {f : Term → ExceptT EvalError Plan β} {s : State}
    {x : EvalError} (hout : (Step.ofAnswer answer (.operand place) s).outcome = .error x) :
    Follows answer (value place >>= f).run s [Step.ofAnswer answer (.operand place) s]
      (.error x) := by
  have hhead : Follows answer (value place).run s _ _ := follows_value place s
  rw [hout] at hhead
  exact follows_bindError hhead f

/-- The values of operands are asked for up to the first that has none. -/
theorem values_follows (start count : Nat) (s : State) :
    Follows answer (values start count).run s (upTo fails answer start count s)
      (valuesOf ((upTo fails answer start count s).map Step.outcome)) := by
  induction count generalizing start s with
  | zero => exact ⟨rfl, rfl⟩
  | succ count ih =>
      have hhead : Follows answer (value start).run s _ _ := follows_value start s
      cases h : (Step.ofAnswer answer (.operand start) s).outcome with
      | error e =>
          -- this operand is the last that is asked for
          rw [Step.upTo_ended (by rw [h]; rfl), List.map_singleton, h]
          rw [h] at hhead
          exact follows_bindError hhead _
      | ok term =>
          rw [Step.upTo_next (by rw [h]; rfl), List.map_cons, h]
          rw [h] at hhead
          exact follows_bindOk hhead (follows_map (ih _ _) (term :: ·))

end Plan

/-! ## The rule of each construct -/

namespace Environment

open Plan (Follows value values follows_bindOk follows_bindError follows_map follows_value
  follows_value_ok follows_value_error values_follows)

/-- The operands that a construct performs, from a state on. -/
def performed (env : Environment) (answer : Query → Eval Term) (e : Expression) (s : State) :
    List Step :=
  match e with
  | .constant _ | .var _ | .bound _ | .solvable _ _ => []
  | .lone _ _ | .not _ | .negate _ | .plus _ => upTo never answer 0 1 s
  | .or _ rest => upTo (passes effectiveBooleanValue) answer 0 (rest.length + 1) s
  | .and _ rest => upTo never answer 0 (rest.length + 1) s
  | .coalesce candidates => upTo never answer 0 candidates.length s
  | .compare _ _ _ => upTo fails answer 0 2 s
  | .additive _ rest => upTo fails answer 0 (rest.length + 1) s
  | .multiplicative _ rest => upTo fails answer 0 (rest.length + 1) s
  | .isIn _ _ candidates =>
    let needle := Step.ofAnswer answer (.operand 0) s
    needle :: match needle.outcome with
      | .ok a => upTo (passes (equalTerms a)) answer 1 candidates.length needle.after
      | .error _ => []
  | .conditional _ _ _ =>
    let condition := Step.ofAnswer answer (.operand 0) s
    condition :: match condition.outcome >>= effectiveBooleanValue with
      | .ok true => [Step.ofAnswer answer (.operand 1) condition.after]
      | .ok false => [Step.ofAnswer answer (.operand 2) condition.after]
      | .error _ => []
  | .builtin function arguments =>
    if function.arity.accepts arguments.length then
      upTo fails answer 0 arguments.length s
    else []
  | .call iri arguments =>
    match env.registry.get? iri with
    | none => []
    | some (.byValue _ arity _) =>
      if arity.accepts arguments.length then upTo fails answer 0 arguments.length s
      else []
    | some (.raw _ _) =>
      match arguments with
      | [_] => upTo never answer 0 1 s
      | _ => []

/-- What an operator gives for the outcomes of the operands that it performs; there is nothing for
outcomes that it cannot meet. -/
def combine (env : Environment) : Expression → List (EvalResult Term) → Option (EvalResult Term)
  | .constant term, [] => some (.ok term)
  | .var name, [] =>
    match env.context.lookup name with
    | some term => some (.ok term)
    | none => some (.error (.unbound name))
  | .bound name, [] => some (.ok (Term.ofBool (env.context.lookup name).isSome))
  | .lone _ _, [r] => some r
  | .not _, [r] => some (r >>= negation)
  | .negate _, [r] => some (r >>= minus)
  | .plus _, [r] => some (r >>= SparqlScalar.plus)
  | .or _ _, rs => some ((disjunction (m := Id) rs).map Term.ofBool)
  | .and _ _, rs => some ((conjunction (m := Id) rs).map Term.ofBool)
  | .coalesce _, rs => some (firstValue (m := Id) rs)
  | .isIn negated _ _, r :: rs => some (do
    let a ← r
    (membership (m := Id) a rs).map fun found => Term.ofBool (found != negated))
  | .conditional _ _ _, [r] =>
    match r >>= effectiveBooleanValue with
    | .ok _ => none
    | .error e => some (.error e)
  | .conditional _ _ _, [c, r] =>
    match c >>= effectiveBooleanValue with
    | .ok _ => some r
    | .error _ => none
  | .compare _ _ _, [.error e] => some (.error e)
  | .compare operator _ _, [r, r'] => some (do comparison operator (← r) (← r'))
  | .additive _ rest, r :: rs => some (do
    let a ← r
    let others ← valuesOf rs
    additiveChain a ((rest.map Prod.fst).zip others))
  | .multiplicative _ rest, r :: rs => some (do
    let a ← r
    let others ← valuesOf rs
    multiplicativeChain a ((rest.map Prod.fst).zip others))
  | _, _ => none

/-- What a construct does with the outcomes of the operands that it performs.  Functions and EXISTS
have effects of their own, and operators have none. -/
def conclude (env : Environment) : Expression → List (EvalResult Term) → Option (Eval Term)
  | .builtin function arguments, rs => some
    (if function.arity.accepts arguments.length then do
      let terms ← Eval.ofResult (valuesOf rs)
      function.apply env terms
    else Eval.ofResult (function.refuse arguments.length))
  | .solvable negated pattern, _ => some do
    return Term.ofBool ((← env.hasSolution pattern) != negated)
  | .call iri arguments, rs =>
    match env.registry.get? iri, rs with
    | none, _ => some (Eval.ofResult (evaluationError (.unknownFunction iri)))
    | some (.byValue id arity apply), rs => some
      (if arity.accepts arguments.length then do
        let terms ← Eval.ofResult (valuesOf rs)
        Eval.record (.called id terms)
        Eval.ofResult (apply terms)
      else Eval.ofResult (.error (.arity iri.display arity.text arguments.length)))
    | some (.raw (.cast target) _), [r] => some (Eval.ofResult (r >>= target.apply))
    | some (.raw (.cast _) _), _ =>
      if arguments.isEmpty then some (Eval.ofResult (evaluationError .castWithoutArgument))
      else some (Eval.ofResult (evaluationError .castWithManyArguments))
    | some (.raw (.custom _ _) _), _ => none
  | e, rs => (env.combine e rs).map Eval.ofResult

variable {env : Environment}

/-- A construct without effects of its own ends with an outcome. -/
theorem settle_map_ofResult {α : Type} (r : EvalResult α) (f : α → EvalResult Term) :
    Eval.settle (r.map fun a => Eval.ofResult (f a)) = Eval.ofResult (r >>= f) := by
  cases r with
  | ok a => rfl
  | error e => rfl

theorem settle_map_pure {α : Type} (r : EvalResult α) (f : α → Term) :
    Eval.settle (r.map fun a => pure (f a)) = Eval.ofResult (r.map f) := by
  cases r with
  | ok a => rfl
  | error e => rfl

theorem settle_pure (r : EvalResult Term) : Eval.settle (r.map pure) = Eval.ofResult r := by
  cases r with
  | ok a => rfl
  | error e => rfl

/-- What a construct does in the end is done if its operands have values. -/
theorem settle_map {α : Type} (r : EvalResult α) (f : α → Eval Term) :
    Eval.settle (r.map f) = Eval.ofResult r >>= f := by
  cases r with
  | ok a => rfl
  | error e => rfl

/-- The behaviour of a construct runs through the steps of its plan. -/
theorem follows_behaviour {answer : Query → Eval Term} {e : Expression} {s : State}
    {steps : List Step} {r : EvalResult (Eval Term)} (h : Follows answer (env.plan e).run s steps r) :
    Follows answer (env.behaviour e) s steps (Eval.settle r) := by
  have hend : Follows answer (.done (Eval.settle r)) (Step.finalState s steps) []
      (Eval.settle r) := ⟨rfl, rfl⟩
  have hbind := Plan.follows_bind (f := fun r => .done (Eval.settle r)) h hend
  rw [List.append_nil] at hbind
  exact hbind

/-- A construct runs through the operands of its rule, to what it concludes from them. -/
def Concludes (env : Environment) (answer : Query → Eval Term) (e : Expression) (s : State) : Prop :=
  ∃ own, env.conclude e ((env.performed answer e s).map Step.outcome) = some own ∧
    Follows answer (env.behaviour e) s (env.performed answer e s) own

variable {answer : Query → Eval Term}

/-- A construct concludes as its rule says if its plan runs through the operands of the rule. -/
theorem concludes_of_plan {e : Expression} {s : State} (steps : List Step)
    (r : EvalResult (Eval Term)) (hplan : Follows answer (env.plan e).run s steps r)
    (hsteps : env.performed answer e s = steps)
    (hconclude : env.conclude e (steps.map Step.outcome) = some (Eval.settle r)) :
    env.Concludes answer e s := by
  refine ⟨Eval.settle r, ?_, ?_⟩
  · rw [hsteps]
    exact hconclude
  · rw [hsteps]
    exact follows_behaviour hplan

/-- IF takes one of its branches. -/
theorem conditional_concludes (condition ifTrue ifFalse : Expression) (s : State) :
    env.Concludes answer (.conditional condition ifTrue ifFalse) s := by
  cases hfirst : (Step.ofAnswer answer (.operand 0) s).outcome with
  | error x =>
      refine concludes_of_plan [Step.ofAnswer answer (.operand 0) s] (.error x)
        (follows_value_error hfirst) ?_ ?_
      · simp only [performed, hfirst]
        rfl
      · simp only [List.map_cons, List.map_nil, hfirst]
        rfl
  | ok a =>
      cases htruth : effectiveBooleanValue a with
      | error x =>
          have htest : Except.ok a >>= effectiveBooleanValue = .error x := htruth
          refine concludes_of_plan [Step.ofAnswer answer (.operand 0) s]
            (.ok (Eval.ofResult (.error x))) (follows_value_ok hfirst ?_) ?_ ?_
          · simp only [htruth]
            exact ⟨rfl, rfl⟩
          · simp only [performed, hfirst, htest]
          · simp only [List.map_cons, List.map_nil, hfirst, conclude, combine, htest]
            rfl
      | ok holds =>
          have htest : Except.ok a >>= effectiveBooleanValue = .ok holds := htruth
          -- the branch runs as the condition left the state, and its outcome is the result
          let branch : Step := Step.ofAnswer answer (.operand (if holds then 1 else 2))
            (Step.ofAnswer answer (.operand 0) s).after
          refine concludes_of_plan [Step.ofAnswer answer (.operand 0) s, branch]
            (branch.outcome.map pure) (follows_value_ok hfirst ?_) ?_ ?_
          · simp only [htruth]
            cases holds <;> exact follows_map (follows_value _ _) pure
          · simp only [performed, hfirst, htest]
            cases holds <;> rfl
          · simp only [List.map_cons, List.map_nil, hfirst, conclude, combine, htest]
            exact congrArg some (settle_pure _).symm

/-- A comparison takes both operands, the right one if the left one has a value. -/
theorem compare_concludes (operator : ComparisonOperator) (left right : Expression) (s : State) :
    env.Concludes answer (.compare operator left right) s := by
  cases hfirst : (Step.ofAnswer answer (.operand 0) s).outcome with
  | error x =>
      refine concludes_of_plan [Step.ofAnswer answer (.operand 0) s] (.error x)
        (follows_value_error hfirst) (Step.upTo_ended (by rw [hfirst]; rfl)) ?_
      simp only [List.map_cons, List.map_nil, hfirst]
      rfl
  | ok a =>
      refine concludes_of_plan _ _ (follows_value_ok hfirst (follows_map (follows_value 1 _) _))
        ?_ ?_
      · show Step.upTo fails answer 0 2 s = _
        rw [Step.upTo_next (by rw [hfirst]; rfl), Step.upTo_one]
      · simp only [List.map_cons, List.map_nil, hfirst, conclude, combine]
        exact congrArg some (settle_map_ofResult _ (comparison operator a)).symm

/-- Chains of sums and of products are performed alike. -/
theorem chain_concludes {e : Expression} {count : Nat} {s : State}
    (chain : Term → List Term → EvalResult Term)
    (hplan : env.plan e = do
      let a ← value 0
      let others ← values 1 count
      return Eval.ofResult (chain a others))
    (hperformed : env.performed answer e s = upTo fails answer 0 (count + 1) s)
    (hconclude : ∀ r rs, env.conclude e (r :: rs) = some (Eval.ofResult (do
      let a ← r
      let others ← valuesOf rs
      chain a others))) :
    env.Concludes answer e s := by
  cases hfirst : (Step.ofAnswer answer (.operand 0) s).outcome with
  | error x =>
      refine concludes_of_plan [Step.ofAnswer answer (.operand 0) s] (.error x) ?_ ?_ ?_
      · rw [hplan]
        exact follows_value_error hfirst
      · rw [hperformed]
        exact Step.upTo_ended (by rw [hfirst]; rfl)
      · rw [List.map_cons, hconclude, hfirst]
        rfl
  | ok a =>
      -- the steps of the others follow the step of the first, as the rule for all of them says
      have hrest := follows_value_ok hfirst (f := fun a => do
        let others ← values 1 count
        return Eval.ofResult (chain a others))
        (follows_map (values_follows 1 count _) fun others => Eval.ofResult (chain a others))
      rw [← hplan] at hrest
      refine concludes_of_plan _ _ hrest ?_ ?_
      · rw [hperformed]
        exact Step.upTo_next (by rw [hfirst]; rfl)
      · rw [List.map_cons, hconclude, hfirst]
        exact congrArg some (settle_map_ofResult _ (chain a)).symm

/-- IN takes candidates until one is equal to the needle. -/
theorem isIn_concludes (negated : Bool) (needle : Expression) (candidates : List Expression)
    (s : State) : env.Concludes answer (.isIn negated needle candidates) s := by
  cases hfirst : (Step.ofAnswer answer (.operand 0) s).outcome with
  | error x =>
      refine concludes_of_plan [Step.ofAnswer answer (.operand 0) s] (.error x)
        (follows_value_error hfirst) ?_ ?_
      · simp only [performed, hfirst]
      · simp only [List.map_cons, List.map_nil, hfirst]
        rfl
  | ok a =>
      have hcandidates : Follows answer _ _ _ _ := Plan.anyFrom_follows (equalTerms a) none 1
        candidates.length (Step.ofAnswer answer (.operand 0) s).after
      refine concludes_of_plan _ _ (follows_value_ok hfirst (follows_map hcandidates _)) ?_ ?_
      · simp only [performed, hfirst]
      · simp only [List.map_cons, hfirst, conclude, combine]
        exact congrArg some (settle_map_pure _ _).symm

/-- A construct that refuses its operands performs none. -/
theorem refusal_concludes {e : Expression} {s : State} (refusal : EvalResult Term)
    (hplan : env.plan e = pure (Eval.ofResult refusal)) (hperformed : env.performed answer e s = [])
    (hconclude : env.conclude e [] = some (Eval.ofResult refusal)) : env.Concludes answer e s := by
  refine concludes_of_plan [] (.ok (Eval.ofResult refusal)) ?_ hperformed hconclude
  rw [hplan]
  exact ⟨rfl, rfl⟩

/-- Functions, called by name or by value, take the values of all arguments or none. -/
theorem arguments_conclude {e : Expression} {s : State} (count : Nat) (accepted : Bool)
    (own : List Term → Eval Term) (refusal : EvalResult Term)
    (hplan : env.plan e =
      if accepted then do return own (← values 0 count) else return Eval.ofResult refusal)
    (hperformed : env.performed answer e s =
      if accepted then upTo fails answer 0 count s else [])
    (hconclude : ∀ rs, env.conclude e rs = some
      (if accepted then do own (← Eval.ofResult (valuesOf rs)) else Eval.ofResult refusal)) :
    env.Concludes answer e s := by
  cases accepted with
  | true =>
      have hvalues : Follows answer _ s _ _ := follows_map (values_follows 0 count s) own
      rw [if_pos rfl] at hplan
      rw [← hplan] at hvalues
      refine concludes_of_plan _ _ hvalues hperformed ?_
      rw [hconclude]
      exact congrArg some (settle_map _ own).symm
  | false =>
      exact refusal_concludes refusal hplan hperformed (hconclude [])

/-- A call takes all its arguments if their number is accepted, and none otherwise. -/
theorem call_concludes (h : env.registry.IsTransparent) (iri : Iri) (arguments : List Expression)
    (s : State) : env.Concludes answer (.call iri arguments) s := by
  cases hget : env.registry.get? iri with
  | none =>
      refine refusal_concludes (evaluationError (.unknownFunction iri)) ?_ ?_ ?_
      · simp only [plan, hget]
      · simp only [performed, hget]
      · simp only [conclude, hget]
  | some function =>
      rcases transparent_cases h hget with ⟨target, rfl⟩ | ⟨id, arity, apply, rfl⟩
      · have hplan : env.plan (.call iri arguments) = castPlan target arguments.length := by
          simp only [plan, hget, CustomFunction.castTarget?_ofCast]
        rcases arguments with _ | ⟨argument, _ | ⟨second, rest⟩⟩
        · refine refusal_concludes (evaluationError .castWithoutArgument) hplan ?_ ?_
          · simp only [performed, hget, CustomFunction.ofCast]
          · simp only [conclude, hget, CustomFunction.ofCast]
            rfl
        · have hrun : Follows answer _ s _ _ := follows_map (follows_value 0 s) fun a =>
            Eval.ofResult (target.apply a)
          have hcast : castPlan target [argument].length =
            value 0 >>= fun a => pure (Eval.ofResult (target.apply a)) := rfl
          rw [← hcast, ← hplan] at hrun
          refine concludes_of_plan _ _ hrun ?_ ?_
          · simp only [performed, hget, CustomFunction.ofCast]
            rfl
          · simp only [conclude, hget, CustomFunction.ofCast]
            exact congrArg some (settle_map_ofResult _ _).symm
        · refine refusal_concludes (evaluationError .castWithManyArguments) hplan ?_ ?_
          · simp only [performed, hget, CustomFunction.ofCast]
          · simp only [conclude, hget, CustomFunction.ofCast]
            rfl
      · refine arguments_conclude arguments.length (arity.accepts arguments.length)
          (fun terms => Eval.record (.called id terms) >>= fun _ => Eval.ofResult (apply terms))
          (.error (.arity iri.display arity.text arguments.length)) ?_ ?_ ?_
        · simp only [plan, hget, CustomFunction.castTarget?_byValue, callPlan]
        · simp only [performed, hget]
        · intro rs
          simp only [conclude, hget]

/-- Every construct performs the operands of its rule, and concludes from their outcomes. -/
theorem behaviour_performed (h : env.registry.IsTransparent) (e : Expression) (s : State) :
    env.Concludes answer e s := by
  cases e with
  | constant _ | bound _ | solvable _ _ => exact concludes_of_plan [] _ ⟨rfl, rfl⟩ rfl rfl
  | var name =>
      refine concludes_of_plan [] _ ⟨rfl, rfl⟩ rfl ?_
      simp only [List.map_nil, conclude, combine, plan]
      cases env.context.lookup name <;> rfl
  | lone chain operand =>
      refine concludes_of_plan _ _ (follows_map (follows_value 0 s) _) rfl ?_
      exact congrArg some (settle_pure _).symm
  | not _ | negate _ | plus _ =>
      refine concludes_of_plan _ _ (follows_map (follows_value 0 s) _) rfl ?_
      exact congrArg some (settle_map_ofResult _ _).symm
  | or _ rest =>
      have hrun : Follows answer _ s _ _ := Plan.anyFrom_follows effectiveBooleanValue none 0
        (rest.length + 1) s
      refine concludes_of_plan _ _ (follows_map hrun _) rfl ?_
      exact congrArg some (settle_map_pure _ _).symm
  | and _ rest =>
      have hrun : Follows answer _ s _ _ := Plan.allFrom_follows effectiveBooleanValue true none 0
        (rest.length + 1) s
      refine concludes_of_plan _ _ (follows_map hrun _) rfl ?_
      exact congrArg some (settle_map_pure _ _).symm
  | coalesce candidates =>
      have hrun : Follows answer _ s _ _ := Plan.firstValueFrom_follows none 0 candidates.length s
      refine concludes_of_plan _ _ (follows_map hrun _) rfl ?_
      exact congrArg some (settle_pure _).symm
  | compare operator left right => exact compare_concludes operator left right s
  | isIn negated needle candidates => exact isIn_concludes negated needle candidates s
  | conditional condition ifTrue ifFalse => exact conditional_concludes condition ifTrue ifFalse s
  | additive _ rest => exact chain_concludes _ rfl rfl fun _ _ => rfl
  | multiplicative _ rest => exact chain_concludes _ rfl rfl fun _ _ => rfl
  | builtin function arguments =>
      exact arguments_conclude _ _ (function.apply env) _ rfl rfl fun _ => rfl
  | call iri arguments => exact call_concludes h iri arguments s

end Environment

end SparqlScalar
