import SparqlScalar.Proofs.Behaviour

/-!
# Transparent registries

    A raw function can do with its call what it likes: evaluate it again, look at the depth limit,
    or tell one argument from another by how it is written.  A registry is TRANSPARENT if it has no
    such functions, but for the casts, which are raw and evaluate their one argument.

    Under a transparent registry a construct asks for its operands only (`behaviour_asks`), and how
    it goes on depends neither on which expressions its operands are (`behaviour_withOperands`) nor
    on the depth limit (`behaviour_withMaxDepth`).
-/

namespace SparqlScalar

/-- The registry has functions called by value and casts only. -/
def Registry.IsTransparent (registry : Registry) : Prop :=
  ∀ iri function, registry.get? iri = some function →
    function.isRaw = false ∨ ∃ target, function = .ofCast target

/-- The registry of the casts has nothing but casts. -/
theorem Registry.eq_ofCast_of_get?_casts {iri : Iri} {function : CustomFunction}
    (h : Registry.casts.get? iri = some function) : ∃ target, function = .ofCast target := by
  -- an entry that is found is one of the list, and the list is made of casts
  obtain ⟨before, after, heq, -⟩ := List.lookup_eq_some_iff.mp h
  have hmem : (iri, function) ∈ CastTarget.all.map fun target =>
      (target.iri, CustomFunction.ofCast target) := by
    show (iri, function) ∈ Registry.casts.entries
    rw [heq]
    exact List.mem_append_right _ List.mem_cons_self
  obtain ⟨target, -, hpair⟩ := List.mem_map.mp hmem
  exact ⟨target, (congrArg Prod.snd hpair).symm⟩

/-- The casts are called by value. -/
theorem Registry.isTransparent_casts : Registry.casts.IsTransparent := by
  intro iri function hget
  exact Or.inr (eq_ofCast_of_get?_casts hget)

/-- A function that is called by value can be added. -/
theorem Registry.IsTransparent.insert {registry : Registry} (h : registry.IsTransparent)
    {function : CustomFunction} (hvalue : function.isRaw = false) (iri : Iri) :
    (registry.insert iri function).IsTransparent := by
  intro other added hget
  rw [Registry.get?_insert] at hget
  cases hsame : other == iri with
  | true =>
      rw [hsame, if_pos rfl] at hget
      obtain rfl := Option.some.inj hget
      exact Or.inl hvalue
  | false =>
      rw [hsame] at hget
      exact h other added hget

/-- A function that was registered by its user is no cast. -/
theorem CustomFunction.castTarget?_byValue (id : FunctionId) (arity : Arity)
    (apply : List Term → EvalResult Term) :
    (CustomFunction.byValue id arity apply).castTarget? = none := by
  cases hcast : (CustomFunction.byValue id arity apply).castTarget? with
  | none => rfl
  | some target => exact nomatch CustomFunction.eq_ofCast hcast

namespace Plan

variable {α : Type} {P : Query → Prop}

/-! ## What connectives ask for -/

/-- The loop of a disjunction asks what its plans ask. -/
theorem anyFrom_asks (test : Term → EvalResult Bool) (firstError : Option EvalError)
    {ps : List (Plan (EvalResult Term))} (h : ∀ p ∈ ps, p.Asks P) :
    (anyFrom test firstError ps).Asks P := by
  induction ps generalizing firstError with
  | nil => exact trivial
  | cons p rest ih =>
      have hrest := fun firstError => ih firstError fun q hq => h q (List.mem_cons_of_mem p hq)
      refine asks_bind (h p List.mem_cons_self) fun r => ?_
      split
      · exact trivial
      · exact hrest firstError
      · exact hrest _

/-- The loop of a conjunction asks what its plans ask. -/
theorem allFrom_asks (test : Term → EvalResult Bool) (holds : Bool) (firstError : Option EvalError)
    {ps : List (Plan (EvalResult Term))} (h : ∀ p ∈ ps, p.Asks P) :
    (allFrom test holds firstError ps).Asks P := by
  induction ps generalizing holds firstError with
  | nil => exact trivial
  | cons p rest ih =>
      have hrest := fun holds firstError =>
        ih holds firstError fun q hq => h q (List.mem_cons_of_mem p hq)
      refine asks_bind (h p List.mem_cons_self) fun r => ?_
      split
      · exact hrest holds firstError
      · exact hrest false firstError
      · exact hrest holds _

/-- The loop of COALESCE asks what its plans ask. -/
theorem firstValueFrom_asks (found : Option Term) {ps : List (Plan (EvalResult Term))}
    (h : ∀ p ∈ ps, p.Asks P) : (firstValueFrom found ps).Asks P := by
  induction ps generalizing found with
  | nil => exact trivial
  | cons p rest ih =>
      have hrest := fun found => ih found fun q hq => h q (List.mem_cons_of_mem p hq)
      refine asks_bind (h p List.mem_cons_self) fun r => ?_
      split
      · exact hrest _
      · exact hrest found

/-- Queries for the operands in the places from one on. -/
def IsPlace (start count : Nat) (query : Query) : Prop :=
  ∃ place, query = .operand place ∧ start ≤ place ∧ place < start + count

/-- A place among some operands is a place among more of them. -/
theorem IsPlace.mono {start count start' count' : Nat} {query : Query}
    (h : IsPlace start count query) (hstart : start' ≤ start)
    (hcount : start + count ≤ start' + count') : IsPlace start' count' query := by
  obtain ⟨place, heq, hle, hlt⟩ := h
  exact ⟨place, heq, Nat.le_trans hstart hle, Nat.lt_of_lt_of_le hlt hcount⟩

theorem isPlace_self {place start count : Nat} (hle : start ≤ place)
    (hlt : place < start + count) : IsPlace start count (.operand place) := ⟨place, rfl, hle, hlt⟩

/-- To ask within a set is to ask within a larger one. -/
theorem asks_mono {Q : Query → Prop} {p : Plan α} (h : p.Asks P) (hPQ : ∀ query, P query → Q query) :
    p.Asks Q := by
  induction p with
  | done value => exact trivial
  | ask query next ih =>
      obtain ⟨hquery, hnext⟩ := h
      refine ⟨hPQ query hquery, ?_⟩
      intro outcome
      exact ih outcome (hnext outcome)

/-- The questions for some operands ask for these operands. -/
theorem questions_asks (start count : Nat) :
    ∀ p ∈ questions start count, p.Asks (IsPlace start count) := by
  induction count generalizing start with
  | zero =>
      intro p hp
      exact nomatch hp
  | succ count ih =>
      intro p hp
      rcases List.mem_cons.mp hp with heq | hmem
      · rw [heq]
        exact ⟨isPlace_self (Nat.le_refl start) (by omega), fun _ => trivial⟩
      · exact asks_mono (ih (start + 1) p hmem) fun _ hq => hq.mono (by omega) (by omega)

/-- A plan that may fail asks for operands in places below a number. -/
def AsksBelow (count : Nat) (p : ExceptT EvalError Plan α) : Prop := p.run.Asks (IsPlace 0 count)

variable {β : Type} {count : Nat}

theorem asksBelow_pure (a : α) : AsksBelow count (pure a) := trivial

/-- What goes on with a value asks for operands if both parts do. -/
theorem asksBelow_bind {p : ExceptT EvalError Plan α} {f : α → ExceptT EvalError Plan β}
    (hp : AsksBelow count p) (hf : ∀ a, AsksBelow count (f a)) : AsksBelow count (p >>= f) := by
  refine asks_bind hp fun r => ?_
  cases r with
  | ok a => exact hf a
  | error e => exact trivial

theorem asksBelow_value {place : Nat} (h : place < count) : AsksBelow count (value place) :=
  ⟨isPlace_self (Nat.zero_le place) (by omega), fun _ => trivial⟩

/-- The values of some operands are asked for one by one. -/
theorem asksBelow_values {start number : Nat} (h : start + number ≤ count) :
    AsksBelow count (values start number) := by
  induction number generalizing start with
  | zero => exact asksBelow_pure _
  | succ number ih =>
      refine asksBelow_bind (asksBelow_value (by omega)) fun _ => ?_
      exact asksBelow_bind (ih (by omega)) fun _ => asksBelow_pure _

theorem questions_asksBelow {start number : Nat} (h : start + number ≤ count) :
    ∀ p ∈ questions start number, p.Asks (IsPlace 0 count) := by
  intro p hp
  refine asks_mono (questions_asks start number p hp) ?_
  intro query hquery
  exact hquery.mono (Nat.zero_le start) (by omega)

end Plan

/-- An environment that binds nothing, with some functions and a depth limit. -/
def Environment.bare (registry : Registry) (limit : Nat) : Environment where
  registry := registry
  config := { maxDepth := limit }
  context :=
    { bindings := []
      now := ⟨⟨Decimal.zero, none⟩⟩
      base := none
      cache := 0
      patterns := none }
  entropy := fun _ => 0

namespace Environment

open Plan (value values questions AsksBelow asksBelow_pure asksBelow_bind asksBelow_value
  asksBelow_values questions_asksBelow)

variable {env : Environment}

/-! ## Constructs under a transparent registry -/

/-- A function of a transparent registry is a cast or called by value. -/
theorem transparent_cases (h : env.registry.IsTransparent) {iri : Iri} {function : CustomFunction}
    (hget : env.registry.get? iri = some function) :
    (∃ target, function = .ofCast target) ∨ ∃ id arity apply, function = .byValue id arity apply := by
  rcases h iri function hget with hvalue | hcast
  · cases function with
    | byValue id arity apply => exact Or.inr ⟨id, arity, apply, rfl⟩
    | raw id script => exact nomatch hvalue
  · exact Or.inl hcast

/-- **PLANS ASK FOR OPERANDS**, and for nothing else, where no function is raw. -/
theorem plan_asks (h : env.registry.IsTransparent) (e : Expression) :
    AsksBelow e.operands.length (env.plan e) := by
  cases e with
  | constant _ | var _ | bound _ | solvable _ _ => exact asksBelow_pure _
  | lone _ _ | not _ | negate _ | plus _ =>
      exact asksBelow_bind (asksBelow_value Nat.one_pos) fun _ => asksBelow_pure _
  | compare _ _ _ =>
      refine asksBelow_bind (asksBelow_value Nat.two_pos) fun _ => ?_
      exact asksBelow_bind (asksBelow_value Nat.one_lt_two) fun _ => asksBelow_pure _
  | or _ rest =>
      refine asksBelow_bind ?_ fun _ => asksBelow_pure _
      exact Plan.anyFrom_asks _ _ (questions_asksBelow (Nat.le_of_eq (Nat.zero_add _)))
  | and _ rest =>
      refine asksBelow_bind ?_ fun _ => asksBelow_pure _
      exact Plan.allFrom_asks _ _ _ (questions_asksBelow (Nat.le_of_eq (Nat.zero_add _)))
  | coalesce candidates =>
      refine asksBelow_bind ?_ fun _ => asksBelow_pure _
      exact Plan.firstValueFrom_asks _ (questions_asksBelow (Nat.le_of_eq (Nat.zero_add _)))
  | isIn _ _ candidates =>
      refine asksBelow_bind (asksBelow_value (Nat.succ_pos _)) fun a => ?_
      refine asksBelow_bind ?_ fun _ => asksBelow_pure _
      exact Plan.anyFrom_asks _ _ (questions_asksBelow (Nat.le_of_eq (Nat.add_comm _ _)))
  | additive _ rest | multiplicative _ rest =>
      refine asksBelow_bind (asksBelow_value (Nat.succ_pos _)) fun a => ?_
      refine asksBelow_bind (asksBelow_values ?_) fun _ => asksBelow_pure _
      show 1 + rest.length ≤ (rest.map Prod.snd).length + 1
      rw [List.length_map]
      omega
  | conditional _ _ _ =>
      show AsksBelow 3 _
      refine asksBelow_bind (asksBelow_value (by decide)) fun a => ?_
      split
      · exact asksBelow_bind (asksBelow_value (by decide)) fun _ => asksBelow_pure _
      · exact asksBelow_bind (asksBelow_value (by decide)) fun _ => asksBelow_pure _
      · exact asksBelow_pure _
  | builtin function arguments =>
      simp only [plan]
      split
      · exact asksBelow_bind (asksBelow_values (Nat.le_of_eq (Nat.zero_add _))) fun _ =>
          asksBelow_pure _
      · exact asksBelow_pure _
  | call iri arguments =>
      simp only [plan]
      cases hget : env.registry.get? iri with
      | none => exact asksBelow_pure _
      | some function =>
          rcases transparent_cases h hget with ⟨target, rfl⟩ | ⟨id, arity, apply, rfl⟩
          · -- a cast asks for its argument if there is just one
            simp only [CustomFunction.castTarget?_ofCast]
            rcases arguments with _ | ⟨argument, _ | ⟨second, rest⟩⟩
            · exact asksBelow_pure _
            · exact asksBelow_bind (asksBelow_value Nat.one_pos) fun _ => asksBelow_pure _
            · exact asksBelow_pure _
          · simp only [CustomFunction.castTarget?_byValue, callPlan]
            split
            · exact asksBelow_bind (asksBelow_values (Nat.le_of_eq (Nat.zero_add _))) fun _ =>
                asksBelow_pure _
            · exact asksBelow_pure _

/-- A construct asks for its operands only. -/
theorem behaviour_asks (h : env.registry.IsTransparent) (e : Expression) :
    (env.behaviour e).Asks (Plan.IsPlace 0 e.operands.length) :=
  Plan.asks_bind (plan_asks h e) fun _ => trivial

/-- A construct with as many other operands opens and goes on in the same way. -/
theorem behaviour_withOperands (h : env.registry.IsTransparent) {e : Expression}
    {xs : List Expression} (hlen : xs.length = e.operands.length) :
    env.behaviour (e.withOperands xs) = env.behaviour e ∧
      env.opening (e.withOperands xs) = env.opening e := by
  cases e with
  | constant _ | var _ | bound _ | solvable _ _ => exact ⟨rfl, rfl⟩
  | lone _ _ | not _ | negate _ | plus _ =>
      obtain ⟨x, rfl⟩ := List.length_eq_one_iff.mp hlen
      exact ⟨rfl, rfl⟩
  | compare _ _ _ =>
      obtain ⟨x, y, rfl⟩ := List.length_eq_two.mp hlen
      exact ⟨rfl, rfl⟩
  | conditional _ _ _ =>
      obtain ⟨x, y, z, rfl⟩ := List.length_eq_three.mp hlen
      exact ⟨rfl, rfl⟩
  | or _ _ | and _ _ | isIn _ _ _ =>
      obtain ⟨x, rest, rfl⟩ := List.exists_cons_of_length_eq_add_one hlen
      have hrest := Nat.succ.inj hlen
      simp only [Expression.withOperands, behaviour, plan, opening, hrest, and_self]
  | additive _ old | multiplicative _ old =>
      obtain ⟨x, rest, rfl⟩ := List.exists_cons_of_length_eq_add_one hlen
      -- the plan reads the operators and their number, and both stay
      have hrest : (old.map Prod.fst).length = rest.length := by
        have hlen' : rest.length + 1 = (old.map Prod.snd).length + 1 := hlen
        rw [List.length_map] at hlen' ⊢
        omega
      have hzip : ((old.map Prod.fst).zip rest).length = old.length := by
        rw [List.length_zip, ← hrest, Nat.min_self, List.length_map]
      simp only [Expression.withOperands, behaviour, plan, opening, hzip,
        List.map_fst_zip (Nat.le_of_eq hrest), and_self]
  | coalesce _ | builtin _ _ =>
      have hlen' : xs.length = _ := hlen
      simp only [Expression.operands] at hlen'
      simp only [Expression.withOperands, behaviour, plan, opening, hlen', and_self]
  | call iri arguments =>
      have hlen' : xs.length = arguments.length := hlen
      simp only [Expression.withOperands, behaviour, plan, opening, hlen', and_true]
      cases hget : env.registry.get? iri with
      | none => rfl
      | some function =>
          rcases transparent_cases h hget with ⟨target, rfl⟩ | ⟨id, arity, apply, rfl⟩
          · simp only [CustomFunction.castTarget?_ofCast]
          · simp only [CustomFunction.castTarget?_byValue, callPlan, hlen']

/-- The environment with another depth limit. -/
def withMaxDepth (env : Environment) (limit : Nat) : Environment :=
  { env with config := { env.config with maxDepth := limit } }

/-- No construct looks at the depth limit. -/
theorem behaviour_withMaxDepth (h : env.registry.IsTransparent) (limit : Nat) (e : Expression) :
    (env.withMaxDepth limit).behaviour e = env.behaviour e ∧
      (env.withMaxDepth limit).opening e = env.opening e := by
  cases e with
  | builtin function arguments =>
      -- functions read the size limit of patterns from the configuration, and nothing else
      cases function <;> exact ⟨rfl, rfl⟩
  | call iri arguments =>
      have hget' : (env.withMaxDepth limit).registry.get? iri = env.registry.get? iri := rfl
      simp only [behaviour, plan, opening, hget', and_true]
      cases hget : env.registry.get? iri with
      | none => rfl
      | some function =>
          rcases transparent_cases h hget with ⟨target, rfl⟩ | ⟨id, arity, apply, rfl⟩
          · simp only [CustomFunction.castTarget?_ofCast]
          · simp only [CustomFunction.castTarget?_byValue, callPlan]
  | _ => exact ⟨rfl, rfl⟩

end Environment

end SparqlScalar
