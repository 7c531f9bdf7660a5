import SparqlScalar.Proofs.Run

/-!
# Plans

    A construct never looks at how its operands are evaluated: it asks for an operand, gets an
    outcome, and decides what to do next.  A PLAN is this behaviour as a tree, so that a property of
    all constructs is one induction over plans:

      done value        -- nothing more is asked
      ask query next    -- one query, and a plan for each of its outcomes

    A plan is RUN once it is known how queries are answered.  The TRACE of a run lists the queries
    that were asked, each with the state before it, its outcome and the state after it.  Runs are
    determined by their traces (`run_congr`), states are threaded through the trace (`run_state`),
    and what every answer keeps, the run keeps (`run_keeps`, `run_simulates`).
-/

namespace SparqlScalar

/-- What a construct can ask for: one of its operands by its place, or another expression, as raw
functions may. -/
inductive Query where
  | operand (place : Nat)
  | other (e : Expression)

/-- What is asked, as a tree over the outcomes. -/
inductive Plan (α : Type) where
  | done (value : α)
  | ask (query : Query) (next : EvalResult Term → Plan α)

/-- A query that was asked in a run. -/
structure Step where
  query : Query
  before : State
  outcome : EvalResult Term
  after : State

namespace Step

/-- The query as it is answered from a state. -/
def ofAnswer (answer : Query → Eval Term) (query : Query) (s : State) : Step :=
  ⟨query, s, ((answer query).run s).1, ((answer query).run s).2⟩

/-- The state after some steps that begin in a state. -/
def finalState : State → List Step → State
  | s, [] => s
  | _, step :: rest => finalState step.after rest

end Step

namespace Plan

variable {α β : Type}

/-- A plan that goes on with a plan for its value. -/
def bind : Plan α → (α → Plan β) → Plan β
  | done value, f => f value
  | ask query next, f => ask query fun outcome => (next outcome).bind f

instance : Monad Plan where
  pure := done
  bind := bind

/-- The value of a plan and the state it leaves, given how queries are answered. -/
def run (answer : Query → Eval Term) : Plan α → State → α × State
  | done value, s => (value, s)
  | ask query next, s =>
    (next (Step.ofAnswer answer query s).outcome).run answer (Step.ofAnswer answer query s).after

/-- The queries that are asked in a run. -/
def trace (answer : Query → Eval Term) : Plan α → State → List Step
  | done _, _ => []
  | ask query next, s =>
    Step.ofAnswer answer query s ::
      (next (Step.ofAnswer answer query s).outcome).trace answer
        (Step.ofAnswer answer query s).after

/-- All queries that a plan can ask have a property. -/
def Asks (P : Query → Prop) : Plan α → Prop
  | done _ => True
  | ask query next => P query ∧ ∀ outcome, (next outcome).Asks P

/-- All values that a plan can have satisfy a property. -/
def Gives (P : α → Prop) : Plan α → Prop
  | done value => P value
  | ask _ next => ∀ outcome, (next outcome).Gives P

variable {answer answer' : Query → Eval Term}

theorem run_bind (p : Plan α) (f : α → Plan β) (s : State) :
    (p >>= f).run answer s = (f (p.run answer s).1).run answer (p.run answer s).2 := by
  induction p generalizing s with
  | done value => rfl
  | ask query next ih => exact ih _ _

theorem trace_bind (p : Plan α) (f : α → Plan β) (s : State) :
    (p >>= f).trace answer s =
      p.trace answer s ++ (f (p.run answer s).1).trace answer (p.run answer s).2 := by
  induction p generalizing s with
  | done value => rfl
  | ask query next ih => exact congrArg (List.cons _) (ih _ _)

theorem asks_bind {P : Query → Prop} {p : Plan α} {f : α → Plan β} (hp : p.Asks P)
    (hf : ∀ a, (f a).Asks P) : (p >>= f).Asks P := by
  induction p with
  | done value => exact hf value
  | ask query next ih =>
      obtain ⟨hquery, hnext⟩ := hp
      refine ⟨hquery, ?_⟩
      intro outcome
      exact ih outcome (hnext outcome)

theorem gives_bind {P : β → Prop} (p : Plan α) {f : α → Plan β} (hf : ∀ a, (f a).Gives P) :
    (p >>= f).Gives P := by
  induction p with
  | done value => exact hf value
  | ask query next ih =>
      intro outcome
      exact ih outcome

theorem gives_run {P : α → Prop} {p : Plan α} (h : p.Gives P) (s : State) :
    P (p.run answer s).1 := by
  induction p generalizing s with
  | done value => exact h
  | ask query next ih => exact ih _ (h _) _

theorem gives_mono {P Q : α → Prop} {p : Plan α} (h : p.Gives P) (hPQ : ∀ a, P a → Q a) :
    p.Gives Q := by
  induction p with
  | done value => exact hPQ value h
  | ask query next ih =>
      intro outcome
      exact ih outcome (h outcome)

/-- The state that a run leaves is the one after its last step. -/
theorem run_state (p : Plan α) (s : State) :
    (p.run answer s).2 = Step.finalState s (p.trace answer s) := by
  induction p generalizing s with
  | done value => rfl
  | ask query next ih => exact ih _ _

/-- What holds of all queries of a plan holds of those of a run. -/
theorem asks_trace {P : Query → Prop} {p : Plan α} (h : p.Asks P) {s : State} {step : Step}
    (hstep : step ∈ p.trace answer s) : P step.query := by
  induction p generalizing s with
  | done value => exact nomatch hstep
  | ask query next ih =>
      rcases List.mem_cons.mp hstep with heq | hmem
      · rw [heq]
        exact h.1
      · exact ih _ (h.2 _) hmem

/-- Steps of a run are answers. -/
theorem mem_trace {p : Plan α} {s : State} {step : Step} (hstep : step ∈ p.trace answer s) :
    step = Step.ofAnswer answer step.query step.before := by
  induction p generalizing s with
  | done value => exact nomatch hstep
  | ask query next ih =>
      rcases List.mem_cons.mp hstep with heq | hmem
      · rw [heq]
        rfl
      · exact ih _ hmem

/-- Answers that agree on the steps of a run give the same run. -/
theorem run_congr {p : Plan α} {s : State}
    (h : ∀ step ∈ p.trace answer s,
      (answer' step.query).run step.before = (answer step.query).run step.before) :
    p.run answer' s = p.run answer s ∧ p.trace answer' s = p.trace answer s := by
  induction p generalizing s with
  | done value => exact ⟨rfl, rfl⟩
  | ask query next ih =>
      have hhead : (answer' query).run s = (answer query).run s := h _ List.mem_cons_self
      have hstep : Step.ofAnswer answer' query s = Step.ofAnswer answer query s := by
        unfold Step.ofAnswer
        rw [hhead]
      obtain ⟨hrun, htrace⟩ := ih (Step.ofAnswer answer query s).outcome
        (s := (Step.ofAnswer answer query s).after)
        fun step hmem => h step (List.mem_cons_of_mem _ hmem)
      -- the first step is the same in both runs, so they go on with one plan from one state
      constructor
      · show (next (Step.ofAnswer answer' query s).outcome).run answer' _ = _
        rw [hstep]
        exact hrun
      · show Step.ofAnswer answer' query s ::
          (next (Step.ofAnswer answer' query s).outcome).trace answer' _ = _
        rw [hstep, htrace]
        rfl

/-- What every answer keeps holds before and after every step, and at the end. -/
theorem run_keeps {I : State → Prop} (hanswer : ∀ query s, I s → I ((answer query).run s).2)
    (p : Plan α) {s : State} (hs : I s) :
    I (p.run answer s).2 ∧ ∀ step ∈ p.trace answer s, I step.before := by
  induction p generalizing s with
  | done value => exact ⟨hs, fun _ hmem => nomatch hmem⟩
  | ask query next ih =>
      obtain ⟨hrun, htrace⟩ := ih (Step.ofAnswer answer query s).outcome (hanswer query s hs)
      refine ⟨hrun, ?_⟩
      intro step hmem
      rcases List.mem_cons.mp hmem with heq | hrest
      · rw [heq]
        exact hs
      · exact htrace step hrest

/-- Answers with equal outcomes in related states give equal values in related states. -/
theorem run_simulates {R : State → State → Prop} {p : Plan α}
    (h : p.Asks fun query => ∀ s t, R s t →
      ((answer query).run s).1 = ((answer' query).run t).1 ∧
        R ((answer query).run s).2 ((answer' query).run t).2)
    {s t : State} (hst : R s t) :
    (p.run answer s).1 = (p.run answer' t).1 ∧ R (p.run answer s).2 (p.run answer' t).2 := by
  induction p generalizing s t with
  | done value => exact ⟨rfl, hst⟩
  | ask query next ih =>
      obtain ⟨hvalue, hstate⟩ := h.1 s t hst
      -- the states may differ, but the outcome alone selects what is asked next
      have hnext : next (Step.ofAnswer answer query s).outcome =
          next (Step.ofAnswer answer' query t).outcome := congrArg next hvalue
      show ((next (Step.ofAnswer answer query s).outcome).run answer _).1 = _ ∧
        R ((next (Step.ofAnswer answer query s).outcome).run answer _).2 _
      rw [hnext]
      exact ih _ (h.2 _) hstate

end Plan

end SparqlScalar
