import SparqlScalar.Proofs.Visits
import SparqlScalar.Session.Run

/-!
# Runs of a registry

    A registry is used by OPERATIONS: functions are registered and unregistered, IRIs are asked for,
    and calls are evaluated.  What a registry holds after any run of operations is told by the
    history of the run alone:

      one operation  -- changes at most its own IRI, and only if it succeeds (`get?_perform`)
      runs           -- so an IRI has what its last successful change left it with, and what it had
                        at the start if there was none (`get?_performAll`)

    The answer of an operation depends on the IRIs that it READS (`perform_congr`); for a call those
    are the lookups of its evaluation.  Two operations of which neither changes what the other reads
    can be exchanged, and nobody can tell which was first (`performAll_exchange`).

    Sessions run their commands as such operations (`Session.runAll_registry`).
-/

namespace SparqlScalar

/-- Who evaluates a call: the limits, the surroundings, the random numbers and the state. -/
structure Caller where
  config : Config
  context : Context
  entropy : Nat → Nat
  state : State

/-- Something done with a registry. -/
inductive Operation where
  | register (iri : Iri) (function : CustomFunction) (replace : Bool)
  | unregister (iri : Iri) (function : CustomFunction)
  | get (iri : Iri)
  | contains (iri : Iri)
  | call (iri : Iri) (arguments : List Expression) (caller : Caller)

/-- What an operation answers. -/
inductive Answer where
  | changed (refusal : Option RegistryError)
  | function (found : Option CustomFunction)
  | truth (value : Bool)
  | evaluated (outcome : EvalResult Term) (state : State)

/-- The surroundings of a call. -/
def Caller.environment (caller : Caller) (registry : Registry) : Environment :=
  ⟨registry, caller.config, caller.context, caller.entropy⟩

namespace Registry

/-- Takes over a change, if it was not refused. -/
def commit (registry : Registry) : Except RegistryError Registry → Answer × Registry
  | .ok changed => (.changed none, changed)
  | .error refusal => (.changed (some refusal), registry)

/-- Performs one operation. -/
def perform (registry : Registry) : Operation → Answer × Registry
  | .register iri function replace => registry.commit (registry.register iri function replace)
  | .unregister iri function => registry.commit (registry.unregister iri function)
  | .get iri => (.function (registry.get? iri), registry)
  | .contains iri => (.truth (registry.contains iri), registry)
  | .call iri arguments caller =>
    let run := ((caller.environment registry).evaluate (.call iri arguments)).run caller.state
    (.evaluated run.1 run.2, registry)

/-- Performs operations one after the other. -/
def performAll (registry : Registry) : List Operation → List Answer × Registry
  | [] => ([], registry)
  | operation :: rest =>
    let (answer, next) := registry.perform operation
    let (answers, last) := next.performAll rest
    (answer :: answers, last)

theorem performAll_cons (registry : Registry) (operation : Operation) (rest : List Operation) :
    registry.performAll (operation :: rest) =
      ((registry.perform operation).1 :: ((registry.perform operation).2.performAll rest).1,
        ((registry.perform operation).2.performAll rest).2) := rfl

end Registry

/-! ## Histories -/

namespace Operation

/-- What an operation leaves an IRI with, a function or none, if it changes the IRI and succeeds. -/
def change? (iri : Iri) : Operation × Answer → Option (Option CustomFunction)
  | (.register other function _, .changed none) =>
    if other = iri then some (some function) else none
  | (.unregister other _, .changed none) => if other = iri then some none else none
  | _ => none

/-- The IRI that an operation may change. -/
def changed? : Operation → Option Iri
  | .register iri _ _ => some iri
  | .unregister iri _ => some iri
  | _ => none

theorem changed?_of_change? {iri : Iri} {operation : Operation} {answer : Answer}
    {left : Option CustomFunction} (h : change? iri (operation, answer) = some left) :
    operation.changed? = some iri := by
  have hiri : ∀ {other : Iri} {value : Option CustomFunction},
      (if other = iri then some value else none) = some left → some other = some iri := by
    intro other value hif
    split at hif
    case isTrue heq => exact congrArg some heq
    case isFalse => exact nomatch hif
  cases operation with
  | get _ | contains _ | call _ _ _ => exact nomatch h
  | register _ _ _ | unregister _ _ =>
      cases answer with
      | function _ | truth _ | evaluated _ _ => exact nomatch h
      | changed refusal =>
          cases refusal with
          | none => exact hiri h
          | some _ => exact nomatch h

end Operation

open Operation (change?)

namespace Registry

/-- What the last successful change of an IRI left it with, if there was one. -/
def lastChange? (iri : Iri) (operations : List Operation) (answers : List Answer) :
    Option (Option CustomFunction) :=
  ((operations.zip answers).filterMap (change? iri)).getLast?

theorem performAll_append (registry : Registry) (first second : List Operation) :
    (registry.performAll (first ++ second)).2 =
      ((registry.performAll first).2.performAll second).2 := by
  induction first generalizing registry with
  | nil => rfl
  | cons operation rest ih =>
      rw [List.cons_append, performAll_cons, performAll_cons]
      exact ih _

theorem get?_register {registry changed : Registry} {iri : Iri} {function : CustomFunction}
    {replace : Bool} (h : registry.register iri function replace = .ok changed) (other : Iri) :
    changed.get? other = if iri = other then some function else registry.get? other := by
  unfold register at h
  split at h
  case isTrue => exact nomatch h
  case isFalse =>
    obtain rfl := Except.ok.inj h
    rw [get?_insert]
    exact if_congr (beq_iff_eq.trans eq_comm) rfl rfl

theorem get?_unregister {registry changed : Registry} {iri : Iri} {function : CustomFunction}
    (h : registry.unregister iri function = .ok changed) (other : Iri) :
    changed.get? other = if iri = other then none else registry.get? other := by
  unfold unregister at h
  split at h
  case isTrue =>
    obtain rfl := Except.ok.inj h
    rw [get?_erase]
    exact if_congr (beq_iff_eq.trans eq_comm) rfl rfl
  case isFalse => exact nomatch h

/-- **ONE OPERATION** changes at most its own IRI, and only if it succeeds. -/
theorem get?_perform (registry : Registry) (operation : Operation) (iri : Iri) :
    (registry.perform operation).2.get? iri =
      (change? iri (operation, (registry.perform operation).1)).getD (registry.get? iri) := by
  cases operation with
  | get _ | contains _ | call _ _ _ => rfl
  | register other function replace =>
      show (registry.commit (registry.register other function replace)).2.get? iri = (change? iri
        (_, (registry.commit (registry.register other function replace)).1)).getD _
      cases hchange : registry.register other function replace with
      | error refusal => rfl
      | ok changed =>
          show changed.get? iri = (if other = iri then some (some function) else none).getD _
          rw [get?_register hchange]
          split <;> rfl
  | unregister other function =>
      show (registry.commit (registry.unregister other function)).2.get? iri = (change? iri
        (_, (registry.commit (registry.unregister other function)).1)).getD _
      cases hchange : registry.unregister other function with
      | error refusal => rfl
      | ok changed =>
          show changed.get? iri = (if other = iri then some none else none).getD _
          rw [get?_unregister hchange]
          split <;> rfl

/-- **HISTORIES**: after a run, an IRI has what its last successful change left it with, and
otherwise what it had at the start. -/
theorem get?_performAll (start : Registry) (operations : List Operation) (iri : Iri) :
    (start.performAll operations).2.get? iri =
      (lastChange? iri operations (start.performAll operations).1).getD (start.get? iri) := by
  induction operations generalizing start with
  | nil => rfl
  | cons operation rest ih =>
      have hstep := start.get?_perform operation iri
      rw [performAll_cons, ih]
      unfold lastChange?
      rw [List.zip_cons_cons, List.filterMap_cons]
      cases hchange : change? iri (operation, (start.perform operation).1) with
      | none =>
          rw [hchange] at hstep
          rw [hstep]
          rfl
      | some left =>
          rw [hchange] at hstep
          rw [hstep, List.getLast?_cons]
          rfl

end Registry

/-! ## Single operations -/

namespace Registry

variable (registry : Registry)

/-- An operation that is refused changes nothing, and neither does one that only asks. -/
theorem perform_unchanged {operation : Operation}
    (h : ∀ answer, (registry.perform operation).1 = .changed answer → answer ≠ none) :
    (registry.perform operation).2 = registry := by
  have hcommit : ∀ result : Except RegistryError Registry,
      (∀ answer, (registry.commit result).1 = .changed answer → answer ≠ none) →
        (registry.commit result).2 = registry := by
    intro result hrefused
    cases result with
    | error refusal => rfl
    | ok changed => exact absurd rfl (hrefused none rfl)
  cases operation with
  | get _ | contains _ | call _ _ _ => rfl
  | register _ _ _ => exact hcommit _ h
  | unregister _ _ => exact hcommit _ h

/-- A function is refused exactly if the IRI has one and it may not be replaced. -/
theorem perform_register (iri : Iri) (function : CustomFunction) (replace : Bool) :
    (registry.perform (.register iri function replace)).1 =
      .changed (if !replace && registry.contains iri then some (.alreadyRegistered iri)
        else none) := by
  show (registry.commit (registry.register iri function replace)).1 = _
  unfold register
  split <;> rfl

/-- A function is unregistered exactly if it is the one that the IRI has, called in the same way. -/
theorem perform_unregister (iri : Iri) (function : CustomFunction) :
    (registry.perform (.unregister iri function)).1 =
      .changed (if (registry.get? iri).any (·.isSame function) then none
        else some (.notRegistered iri)) := by
  show (registry.commit (registry.unregister iri function)).1 = _
  unfold unregister
  split <;> rfl

theorem any_isSame_iff {found : Option CustomFunction} {function : CustomFunction} :
    found.any (·.isSame function) = true ↔
      ∃ f, found = some f ∧ f.id = function.id ∧ f.isRaw = function.isRaw := by
  cases found with
  | none =>
      constructor
      · intro h
        exact nomatch h
      · rintro ⟨f, heq, -⟩
        exact nomatch heq
  | some f =>
      show (f.isRaw == function.isRaw && f.id == function.id) = true ↔ _
      rw [Bool.and_eq_true, beq_iff_eq, beq_iff_eq]
      constructor
      · rintro ⟨hraw, hid⟩
        exact ⟨f, rfl, hid, hraw⟩
      · rintro ⟨g, heq, hid, hraw⟩
        obtain rfl := Option.some.inj heq
        exact ⟨hraw, hid⟩

/-- The functions that the registry of casts starts with. -/
theorem get?_casts {iri : Iri} {function : CustomFunction} :
    casts.get? iri = some function ↔
      ∃ target : CastTarget, target.iri = iri ∧ function = .ofCast target := by
  have hcast : ∀ target : CastTarget, casts.get? target.iri = some (.ofCast target) := by
    intro target
    cases target <;> rfl
  constructor
  · intro h
    obtain ⟨before, after, heq, -⟩ := List.lookup_eq_some_iff.mp h
    have hmem : (iri, function) ∈ casts.entries := by
      rw [heq]
      exact List.mem_append_right _ List.mem_cons_self
    obtain ⟨target, -, hpair⟩ := List.mem_map.mp hmem
    exact ⟨target, congrArg Prod.fst hpair, (congrArg Prod.snd hpair).symm⟩
  · rintro ⟨target, rfl, rfl⟩
    exact hcast target

end Registry

/-! ## Calls -/

/-- What a call does once its IRI was looked up, from the state in which its operands are
evaluated. -/
def Environment.invoke (env : Environment) (eval : Expression → Eval Term) (iri : Iri)
    (arguments : List Expression) (s : State) : Option CustomFunction → EvalResult Term × State
  | none => (.error (.evaluation (.unknownFunction iri)), s)
  | some (.byValue id arity apply) =>
    if arity.accepts arguments.length then
      match (arguments.mapM eval).run s with
      | (.ok values, t) => (apply values, { t with log := .called id values :: t.log })
      | (.error e, t) => (.error e, t)
    else (.error (.arity iri.display arity.text arguments.length), s)
  | some (.raw id script) =>
    (runScript eval (script ⟨iri, arguments⟩ env.context env.config)).run
      { s with log := .rawCalled id iri arguments.length :: s.log }

theorem Environment.call_run (env : Environment) (eval : Expression → Eval Term) (iri : Iri)
    (arguments : List Expression) (s : State) :
    (env.call eval iri arguments).run s =
      env.invoke eval iri arguments s (env.registry.get? iri) := by
  unfold call
  cases env.registry.get? iri with
  | none => rfl
  | some function =>
      cases function with
      | raw id script => rfl
      | byValue id arity apply =>
          unfold invoke
          dsimp only
          split
          case isTrue =>
            rw [Eval.run_bind]
            cases hrun : (arguments.mapM eval).run s with
            | mk outcome t => cases outcome <;> rfl
          case isFalse => rfl

/-- **CALLS FOLLOW THE REGISTRY**: where a level may be opened, the function that is found for the
IRI is the one that is called. -/
theorem Registry.perform_call (registry : Registry) (iri : Iri) (arguments : List Expression)
    (caller : Caller) {levels : Nat} (h : caller.config.maxDepth = levels + 1) :
    registry.perform (.call iri arguments caller) =
      let env := caller.environment registry
      let run := env.invoke (env.evaluateWithin levels) iri arguments caller.state.deeper
        (registry.get? iri)
      (.evaluated run.1 run.2.shallower, registry) := by
  have hlevels : (caller.environment registry).config.maxDepth = levels + 1 := h
  unfold perform Environment.evaluate
  simp only [hlevels]
  show (Answer.evaluated
    ((Eval.nested ((caller.environment registry).call _ iri arguments)).run caller.state).1
    ((Eval.nested ((caller.environment registry).call _ iri arguments)).run caller.state).2, _) = _
  rw [Eval.run_nested, Environment.call_run]
  rfl

/-! ## Exchange -/

namespace Operation

/-- The IRIs that an operation looks up. -/
def Reads (registry : Registry) (iri : Iri) : Operation → Prop
  | .register other _ _ | .unregister other _ | .get other | .contains other => other = iri
  | .call other arguments caller =>
    (caller.environment registry).LooksUp iri caller.config.maxDepth (.call other arguments)
      caller.state

/-- An operation reads what it may change. -/
theorem reads_of_changed? {registry : Registry} {iri : Iri} {operation : Operation}
    (h : operation.changed? = some iri) : operation.Reads registry iri := by
  cases operation with
  | register other _ _ | unregister other _ => exact Option.some.inj h
  | get _ | contains _ | call _ _ _ => exact nomatch h

end Operation

namespace Registry

/-- **ANSWERS DEPEND ON WHAT IS READ**. -/
theorem perform_congr {registry other : Registry} {operation : Operation}
    (h : ∀ iri, operation.Reads registry iri → other.get? iri = registry.get? iri) :
    (other.perform operation).1 = (registry.perform operation).1 := by
  cases operation with
  | register iri function replace =>
      rw [perform_register, perform_register, contains, contains, h iri rfl]
  | unregister iri function => rw [perform_unregister, perform_unregister, h iri rfl]
  | get iri => exact congrArg Answer.function (h iri rfl)
  | contains iri => exact congrArg (fun found => Answer.truth found.isSome) (h iri rfl)
  | call iri arguments caller =>
      have hlookups : ∀ wanted, (caller.environment registry).LooksUp wanted
          caller.config.maxDepth (.call iri arguments) caller.state →
            other.get? wanted = (caller.environment registry).registry.get? wanted := h
      have hrun : ((caller.environment other).evaluate (.call iri arguments)).run caller.state =
          ((caller.environment registry).evaluate (.call iri arguments)).run caller.state :=
        Environment.evaluateWithin_withRegistry hlookups
      unfold perform
      dsimp only
      rw [hrun]

/-- Two registries in which every lookup finds the same. -/
def Equivalent (registry other : Registry) : Prop := ∀ iri, other.get? iri = registry.get? iri

/-- Equivalent registries cannot be told apart by any run. -/
theorem performAll_equivalent {registry other : Registry} (h : registry.Equivalent other)
    (operations : List Operation) :
    (other.performAll operations).1 = (registry.performAll operations).1 ∧
      (registry.performAll operations).2.Equivalent (other.performAll operations).2 := by
  induction operations generalizing registry other with
  | nil => exact ⟨rfl, h⟩
  | cons operation rest ih =>
      have hanswer : (other.perform operation).1 = (registry.perform operation).1 :=
        perform_congr fun iri _ => h iri
      have hnext : (registry.perform operation).2.Equivalent (other.perform operation).2 := by
        intro iri
        rw [get?_perform, get?_perform, hanswer, h iri]
      obtain ⟨hanswers, hlast⟩ := ih hnext
      rw [performAll_cons, performAll_cons]
      exact ⟨by rw [hanswer, hanswers], hlast⟩

/-- Neither operation reads what the other may change. -/
def Independent (registry : Registry) (a b : Operation) : Prop :=
  (∀ iri, a.changed? = some iri → ¬ b.Reads registry iri) ∧
    ∀ iri, b.changed? = some iri → ¬ a.Reads registry iri

variable {registry : Registry} {a b : Operation}

/-- What is not read by an operation is not changed before it. -/
theorem get?_perform_of_independent
    (h : ∀ iri, a.changed? = some iri → ¬ b.Reads registry iri) (iri : Iri)
    (hreads : b.Reads registry iri) :
    (registry.perform a).2.get? iri = registry.get? iri := by
  rw [get?_perform]
  cases hchange : change? iri (a, (registry.perform a).1) with
  | none => rfl
  | some left => exact absurd hreads (h iri (Operation.changed?_of_change? hchange))

/-- Independent operations give the same answers in both orders, and leave equivalent registries. -/
theorem perform_exchange (h : registry.Independent a b) :
    ((registry.perform a).2.perform b).1 = (registry.perform b).1 ∧
      ((registry.perform b).2.perform a).1 = (registry.perform a).1 ∧
      ((registry.perform a).2.perform b).2.Equivalent ((registry.perform b).2.perform a).2 := by
  have hb := perform_congr (get?_perform_of_independent h.1)
  have ha := perform_congr (get?_perform_of_independent h.2)
  refine ⟨hb, ha, ?_⟩
  intro iri
  rw [get?_perform, get?_perform, get?_perform (registry.perform a).2, get?_perform registry a, hb,
    ha]
  -- at most one of the two changes the IRI, as what an operation changes it also reads
  cases hchange : change? iri (a, (registry.perform a).1) with
  | none => rfl
  | some left =>
      cases hother : change? iri (b, (registry.perform b).1) with
      | none => rfl
      | some right =>
          exact absurd (Operation.reads_of_changed? (Operation.changed?_of_change? hother))
            (h.1 iri (Operation.changed?_of_change? hchange))

/-- **EXCHANGE**: two independent operations can be performed in either order: all answers are the
same, those to later operations too, and the registries at the end are equivalent. -/
theorem performAll_exchange (h : registry.Independent a b) (rest : List Operation) :
    ∃ x y answers, (registry.performAll (a :: b :: rest)).1 = x :: y :: answers ∧
      (registry.performAll (b :: a :: rest)).1 = y :: x :: answers ∧
      (registry.performAll (a :: b :: rest)).2.Equivalent
        (registry.performAll (b :: a :: rest)).2 := by
  obtain ⟨hb, ha, hequivalent⟩ := perform_exchange h
  obtain ⟨hanswers, hlast⟩ := performAll_equivalent hequivalent rest
  refine ⟨(registry.perform a).1, (registry.perform b).1,
    (((registry.perform a).2.perform b).2.performAll rest).1, ?_, ?_, hlast⟩
  · rw [performAll_cons, performAll_cons, hb]
  · rw [performAll_cons, performAll_cons, ha, hanswers]

end Registry

namespace Operation

/-- The IRIs that an operation is about: its own, and for a call those of the calls within it. -/
def Mentions (iri : Iri) : Operation → Prop
  | .register other _ _ | .unregister other _ | .get other | .contains other => other = iri
  | .call other arguments _ => ∃ inner, (Expression.call other arguments).Contains (.call iri inner)

/-- Without raw functions other than casts, an operation reads only what it is about. -/
theorem mentions_of_reads {registry : Registry} (h : registry.IsTransparent) {iri : Iri}
    {operation : Operation} (hreads : operation.Reads registry iri) : operation.Mentions iri := by
  cases operation with
  | register _ _ _ | unregister _ _ | get _ | contains _ => exact hreads
  | call other arguments caller => exact Environment.contains_of_looksUp h hreads

/-- So operations that are about different IRIs are independent. -/
theorem independent_of_mentions {registry : Registry} (h : registry.IsTransparent)
    {a b : Operation} (hdisjoint : ∀ iri, a.Mentions iri → ¬ b.Mentions iri) :
    registry.Independent a b := by
  constructor
  · intro iri hchanged hreads
    have ha := mentions_of_reads h (reads_of_changed? hchanged)
    exact hdisjoint iri ha (mentions_of_reads h hreads)
  · intro iri hchanged hreads
    have hb := mentions_of_reads h (reads_of_changed? hchanged)
    exact hdisjoint iri (mentions_of_reads h hreads) hb

end Operation

/-- **RUNS OF A REGISTRY**: after any run from any start, what an IRI has is told by the history;
all ways to ask agree with that; a change is refused exactly where it has to be, and then nothing
changes; and operations that are about different IRIs can be exchanged. -/
theorem Registry.run_spec (start : Registry) (operations : List Operation) :
    let registry := (start.performAll operations).2
    (∀ iri, registry.get? iri =
        (lastChange? iri operations (start.performAll operations).1).getD (start.get? iri)) ∧
      (∀ iri, Registry.empty.get? iri = none) ∧
      (∀ iri function, Registry.casts.get? iri = some function ↔
        ∃ target : CastTarget, target.iri = iri ∧ function = .ofCast target) ∧
      (∀ iri, registry.perform (.get iri) = (.function (registry.get? iri), registry) ∧
        registry.perform (.contains iri) = (.truth (registry.get? iri).isSome, registry)) ∧
      (∀ iri arguments caller levels, caller.config.maxDepth = levels + 1 →
        registry.perform (.call iri arguments caller) =
          let env := caller.environment registry
          let run := env.invoke (env.evaluateWithin levels) iri arguments caller.state.deeper
            (registry.get? iri)
          (.evaluated run.1 run.2.shallower, registry)) ∧
      (∀ iri function,
        (registry.perform (.register iri function true)).1 = .changed none ∧
          ((registry.perform (.register iri function false)).1 =
              .changed (some (.alreadyRegistered iri)) ↔ (registry.get? iri).isSome) ∧
          ((registry.perform (.register iri function false)).1 = .changed none ↔
            registry.get? iri = none)) ∧
      (∀ iri function,
        ((registry.perform (.unregister iri function)).1 = .changed none ↔
          ∃ f, registry.get? iri = some f ∧ f.id = function.id ∧ f.isRaw = function.isRaw) ∧
        ((registry.perform (.unregister iri function)).1 = .changed none ∨
          (registry.perform (.unregister iri function)).1 =
            .changed (some (.notRegistered iri)))) ∧
      (∀ operation refusal, (registry.perform operation).1 = .changed (some refusal) →
        (registry.perform operation).2 = registry) ∧
      (∀ a b rest, registry.Independent a b →
        ∃ x y answers, (registry.performAll (a :: b :: rest)).1 = x :: y :: answers ∧
          (registry.performAll (b :: a :: rest)).1 = y :: x :: answers ∧
          (registry.performAll (a :: b :: rest)).2.Equivalent
            (registry.performAll (b :: a :: rest)).2) ∧
      (registry.IsTransparent → ∀ a b : Operation,
        (∀ iri, a.Mentions iri → ¬ b.Mentions iri) → registry.Independent a b) := by
  intro registry
  refine ⟨start.get?_performAll operations, fun _ => rfl, fun _ _ => get?_casts,
    fun _ => ⟨rfl, rfl⟩, fun _ _ _ _ => registry.perform_call _ _ _, ?_, ?_, ?_,
    fun _ _ rest h => performAll_exchange h rest, fun h _ _ => Operation.independent_of_mentions h⟩
  · intro iri function
    have hpresent := registry.perform_register iri function
    unfold contains at hpresent
    rw [hpresent, hpresent]
    cases registry.get? iri with
    | none => exact ⟨rfl, ⟨nofun, nofun⟩, ⟨fun _ => rfl, fun _ => rfl⟩⟩
    | some f => exact ⟨rfl, ⟨fun _ => rfl, fun _ => rfl⟩, ⟨nofun, nofun⟩⟩
  · intro iri function
    rw [registry.perform_unregister, ← any_isSame_iff]
    cases (registry.get? iri).any (·.isSame function) with
    | false => exact ⟨⟨nofun, nofun⟩, Or.inr rfl⟩
    | true => exact ⟨⟨fun _ => rfl, fun _ => rfl⟩, Or.inl rfl⟩
  · intro operation refusal hrefused
    refine registry.perform_unchanged fun answer hanswer => ?_
    rw [hrefused] at hanswer
    obtain rfl := Answer.changed.inj hanswer
    exact nofun

/-! ## Sessions -/

namespace Session

/-- The operation that a command performs on the registry of a session. -/
def operation? (s : Session) : Command → Option Operation
  | .register iri name replace => (s.functions.lookup name).map (.register iri · replace)
  | .unregister iri name => (s.functions.lookup name).map (.unregister iri ·)
  | .contains iri => some (.contains iri)
  | .get iri => some (.get iri)
  | _ => none

/-- The operations of commands that are run one after the other. -/
def operations (s : Session) : List Command → List Operation
  | [] => []
  | command :: rest => (s.operation? command).toList ++ (s.run command).2.operations rest

theorem changeRegistry_registry (s : Session) (result : Except RegistryError Registry) :
    (s.changeRegistry result).2.registry = (s.registry.commit result).2 := by
  cases result <;> rfl

theorem askNode_registry (s : Session) (cache : Nat) (literal : Literal) :
    (s.askNode cache literal).2.registry = s.registry := by
  unfold askNode
  split <;> rfl

/-- A command changes the registry by its operation alone. -/
theorem run_registry (s : Session) (command : Command) :
    (s.run command).2.registry =
      (s.registry.performAll (s.operation? command).toList).2 := by
  have hname : ∀ {α : Type} (table : List (String × α)) (name : String)
      (next : α → Reply × Session), (∀ value, (next value).2.registry = s.registry) →
      (s.withName table name next).2.registry = s.registry := by
    intro α table name next hnext
    unfold withName
    split
    · exact hnext _
    · rfl
  cases command with
  | newFunction _ _ | contains _ | get _ | newCache _ => rfl
  | take iri name =>
      unfold run
      dsimp only
      split <;> rfl
  | register iri name replace | unregister iri name =>
      show (s.withName s.functions name _).2.registry =
        (s.registry.performAll ((s.functions.lookup name).map _).toList).2
      unfold withName
      cases s.functions.lookup name with
      | none => rfl
      | some function => exact s.changeRegistry_registry _
  | newContext name cache body =>
      cases cache with
      | none => rfl
      | some shared => exact hname _ _ _ fun _ => rfl
  | cacheNode name literal => exact hname _ _ _ fun cache => s.askNode_registry cache literal
  | contextNode name literal | thawNode name literal =>
      exact hname _ _ _ fun context => s.askNode_registry _ literal
  | cacheSize _ | cloneContext _ _ | bind _ _ _ | lookup _ _ | thawLookup _ _
  | contextCacheSize _ | evaluate _ _ _ => exact hname _ _ _ fun _ => rfl

/-- **SESSIONS PERFORM OPERATIONS**: after any commands, the registry of a session is that of a run
of the operations of the commands. -/
theorem runAll_registry (s : Session) (commands : List Command) :
    (s.runAll commands).2.registry = (s.registry.performAll (s.operations commands)).2 := by
  induction commands generalizing s with
  | nil => rfl
  | cons command rest ih =>
      show ((s.run command).2.runAll rest).2.registry =
        (s.registry.performAll ((s.operation? command).toList ++ _)).2
      rw [ih, Registry.performAll_append, run_registry]

end Session

end SparqlScalar
