import SparqlScalar.Proofs.DepthErrors

/-!
# Where an evaluation found its error

    An evaluation fails with the error of a construct that occurs in the expression, or with that of
    the guard (`Environment.error_origin`).  So an error tells of the expression:

      arity      -- a function with as many arguments as the error says, which it does not take
      unbound    -- a variable for its value, which the context does not bind
      depth      -- a nesting deeper than the limit

    And no error says that a function has no case for its arguments: constructs refuse a list of
    arguments by the table of arities, and for the numbers in the table every function has a case.
    To say so of the TEXT of an error, the causes that operators give are shown to begin with
    something else.
-/

namespace SparqlScalar

/-! ## Texts -/

/-- What an error says, without its class. -/
def EvalError.text : EvalError → String
  | .type cause => cause.message
  | .evaluation cause => cause.message
  | x => x.message

/-- The text says that a function has no case for its arguments. -/
def SaysNoCase (text : String) : Prop := "unsupported argument list for".toList <+: text.toList

/-- The text begins with another letter than the one that says so. -/
def BeginsOtherwise (text : String) : Prop := ∃ c, text.toList.head? = some c ∧ c ≠ 'u'

namespace BeginsOtherwise

variable {text : String}

/-- What follows a text does not change how it begins. -/
theorem append (h : BeginsOtherwise text) (rest : String) : BeginsOtherwise (text ++ rest) := by
  obtain ⟨c, hc, hne⟩ := h
  refine ⟨c, ?_, hne⟩
  rw [String.toList_append, List.head?_append, hc]
  rfl

/-- A text that begins otherwise does not say that a function has no case. -/
theorem not_saysNoCase (h : BeginsOtherwise text) : ¬ SaysNoCase text := by
  rintro ⟨rest, heq⟩
  obtain ⟨c, hc, hne⟩ := h
  rw [← heq] at hc
  exact hne (Option.some.inj hc).symm

end BeginsOtherwise

/-- An IRI is shown in angle brackets. -/
theorem Iri.display_begins (i : Iri) : BeginsOtherwise i.display := by
  have hopen : BeginsOtherwise "<" := ⟨'<', rfl, by decide⟩
  exact (hopen.append i.text).append ">"

/-- A literal is shown in quotes. -/
theorem Literal.display_begins (l : Literal) : BeginsOtherwise l.display := by
  have hquoted : BeginsOtherwise (Quoted.quote l.lexical) := by
    refine ⟨'"', ?_, by decide⟩
    unfold Quoted.quote
    rw [String.toList_ofList]
    rfl
  unfold display
  split
  · exact (hquoted.append "@").append _
  · split
    · exact hquoted
    · exact (hquoted.append "^^").append _

theorem Term.display_begins (t : Term) : BeginsOtherwise t.display := by
  cases t with
  | iri value => exact value.display_begins
  | literal value => exact value.display_begins
  | blank node =>
      have hopen : BeginsOtherwise "_:" := ⟨'_', rfl, by decide⟩
      exact hopen.append node.label

/-- A date-time is written with a minus sign or a digit first. -/
theorem DateTime.text_begins (v : DateTime) : BeginsOtherwise (String.ofList v.text) := by
  have hday : ∃ c, (Instant.dayText v.instant.date).head? = some c ∧ c ≠ 'u' := by
    unfold Instant.dayText
    by_cases hsign : v.instant.date.year < 0
    · rw [if_pos hsign]
      exact ⟨'-', rfl, by decide⟩
    · rw [if_neg hsign]
      obtain ⟨c, rest, hyear⟩ := List.exists_cons_of_ne_nil
        (Digits.padded_ne_nil 4 v.instant.date.year.natAbs)
      have hmem : c ∈ Digits.padded 4 v.instant.date.year.natAbs := by
        rw [hyear]
        exact List.mem_cons_self
      have hdigit : c.isDigit = true := Digits.isDigit_of_mem_padded hmem
      rw [hyear]
      refine ⟨c, rfl, ?_⟩
      rintro rfl
      exact nomatch hdigit
  obtain ⟨c, hc, hne⟩ := hday
  refine ⟨c, ?_, hne⟩
  unfold text
  rw [String.toList_ofList, List.head?_append, List.head?_append, hc]
  rfl

/-- No text on an operand of the wrong sort begins like that. -/
theorem TypeCause.message_begins {cause : TypeCause} (h : cause.IsOwn) :
    BeginsOtherwise cause.message := by
  cases cause with
  | custom _ => exact absurd h id
  | notLiteral t | notNumeric t | notString t | notBoolean t | notDate t | notDateTime t | notIri t
  | noTruthValue t => exact t.display_begins.append _
  | notComparable left right =>
      exact ((left.display_begins.append _).append _).append _
  | simpleLiteralExpected => exact ⟨'e', rfl, by decide⟩
  | stringLiteralExpected => exact ⟨'e', rfl, by decide⟩
  | iriOrStringExpected => exact ⟨'I', rfl, by decide⟩
  | blankNodeNeedsLiteral => exact ⟨'B', rfl, by decide⟩
  | incompatibleTags left right =>
      have hopen : BeginsOtherwise "incompatible string arguments: language " :=
        ⟨'i', rfl, by decide⟩
      exact ((hopen.append _).append _).append _
  | literalsRequired operator left right =>
      have hopen : BeginsOtherwise "operator " := ⟨'o', rfl, by decide⟩
      exact ((((hopen.append _).append _).append _).append _).append _
  | equalityUndecided left right =>
      have hopen : BeginsOtherwise "cannot decide whether " := ⟨'c', rfl, by decide⟩
      exact (((hopen.append _).append _).append _).append _
  | blankNodeHasNoText t =>
      have hopen : BeginsOtherwise "STR is not defined for blank node " := ⟨'S', rfl, by decide⟩
      exact hopen.append _

/-- No text on an operation without a result says that a function has no case. -/
theorem EvaluationCause.not_saysNoCase {cause : EvaluationCause} (h : cause.IsOwn) :
    ¬ SaysNoCase cause.message := by
  have hcast : BeginsOtherwise "cannot cast " := ⟨'c', rfl, by decide⟩
  cases cause with
  | custom _ | unsupportedUnaryArguments | unsupportedBinaryArguments => exact absurd h id
  | unknownFunction iri =>
      -- the only other cause that begins with the same letter; the third one differs
      rintro ⟨rest, heq⟩
      have hmessage : (message (.unknownFunction iri)).toList =
          "unknown function ".toList ++ iri.display.toList := String.toList_append
      rw [hmessage] at heq
      have hthird : some 's' = some 'k' := congrArg (fun chars => chars[2]?) heq
      exact absurd (Option.some.inj hthird) (by decide)
  | noTimezone text =>
      obtain ⟨v, rfl⟩ := h
      exact (v.text_begins.append _).not_saysNoCase
  | invalidPattern pattern =>
      have hopen : BeginsOtherwise "invalid pattern " := ⟨'i', rfl, by decide⟩
      exact ((hopen.append _).append _).not_saysNoCase
  | operatorUndefined operator left right =>
      have hopen : BeginsOtherwise "operator " := ⟨'o', rfl, by decide⟩
      exact (((((hopen.append _).append _).append _).append _).append _).not_saysNoCase
  | castNeedsLiteral t target =>
      exact ((((hcast.append _).append _).append _).append _).not_saysNoCase
  | castImpossible literal target =>
      exact (((hcast.append _).append _).append _).not_saysNoCase
  | castFromBlankNode t => exact ((hcast.append _).append _).not_saysNoCase
  | castFromUnknownDatatype datatype =>
      have hopen : BeginsOtherwise "cannot cast literal with unknown datatype " :=
        ⟨'c', rfl, by decide⟩
      exact (hopen.append _).not_saysNoCase
  | malformed | outOfRange => exact BeginsOtherwise.not_saysNoCase ⟨'t', rfl, by decide⟩
  | castWithoutArgument | numericOverflow | nothingToCoalesce =>
      exact BeginsOtherwise.not_saysNoCase ⟨'n', rfl, by decide⟩
  | castWithManyArguments | repeatedDifference =>
      exact BeginsOtherwise.not_saysNoCase ⟨'c', rfl, by decide⟩
  | divideByZero | differenceOverflow | shiftOverflow =>
      exact BeginsOtherwise.not_saysNoCase ⟨'d', rfl, by decide⟩
  | incompatibleTemporalOperation => exact BeginsOtherwise.not_saysNoCase ⟨'i', rfl, by decide⟩
  | noPatternEvaluator => exact BeginsOtherwise.not_saysNoCase ⟨'E', rfl, by decide⟩

open EvalResult

/-- No ordinary error says that a function has no case. -/
theorem EvalError.not_saysNoCase_of_ordinary {x : EvalError}
    (h : Ordinary (.error x : EvalResult Term)) : ¬ SaysNoCase x.text := by
  cases x with
  | type cause => exact (TypeCause.message_begins h).not_saysNoCase
  | evaluation cause => exact EvaluationCause.not_saysNoCase h
  | arity _ _ _ | unbound _ | depthLimitExceeded _ => exact absurd h id

/-- The name of a function begins otherwise. -/
theorem Builtin.name_begins (f : Builtin) : BeginsOtherwise f.name := by
  cases f <;> exact ⟨_, rfl, by decide⟩

/-! ## Origins -/

namespace Environment

variable {env : Environment}

/-- **ORIGINS**: the error of an evaluation is one that a construct of the expression raises itself,
or that of the guard, which an expression has to be nested deeper than the levels to meet. -/
theorem error_origin (h : env.registry.IsTransparent) {levels : Nat} {e : Expression} {s : State}
    {x : EvalError} (herror : ((env.evaluateWithin levels e).run s).1 = .error x) :
    (∃ d, e.Contains d ∧ env.RaisesItself d x) ∨
      x = .depthLimitExceeded env.config.maxDepth ∧ levels < e.depth := by
  induction levels generalizing e s with
  | zero => exact Or.inr ⟨(Except.error.inj herror).symm, e.depth_pos⟩
  | succ levels ih =>
      rcases error_cases h herror with hraises | ⟨_, _, _, place, _, _, _, hlt, hdeeper⟩
      · exact Or.inl ⟨e, .self e, hraises⟩
      · have hmem := Expression.operand_mem hlt
        -- what occurs in the operand occurs in the expression, which is a level deeper
        rcases ih hdeeper with ⟨d, hd, hraises⟩ | ⟨hguard, hdepth⟩
        · exact Or.inl ⟨d, .operand hmem hd, hraises⟩
        · exact Or.inr ⟨hguard, Nat.lt_of_le_of_lt hdepth (Expression.depth_lt_of_mem hmem)⟩

/-- The sources of solutions give no errors. -/
def HasCleanPatterns (env : Environment) : Prop :=
  ∀ source, env.context.patterns = some source → ∀ pattern scope index x,
    (source.solutions pattern scope index).item ≠ some (.error x)

/-- What a construct raises itself where there are only casts and patterns give no errors: an
ordinary error, that of a variable or that of a number of arguments. -/
theorem raisesItself_cases (hcasts : env.registry = Registry.casts) (hclean : env.HasCleanPatterns)
    {d : Expression} {x : EvalError} (h : env.RaisesItself d x) :
    Ordinary (.error x : EvalResult Term) ∨
      (∃ name, d = .var name ∧ env.context.lookup name = none ∧ x = .unbound name) ∨
      ∃ f arguments, d = .builtin f arguments ∧ f.arity.accepts arguments.length = false ∧
        x = .arity f.name f.arity.text arguments.length := by
  rcases h with hordinary | hown
  · exact Or.inl hordinary
  · cases d with
    | var name => exact Or.inr (Or.inl ⟨name, rfl, hown⟩)
    | builtin f arguments => exact Or.inr (Or.inr ⟨f, arguments, rfl, hown⟩)
    | solvable negated pattern =>
        obtain ⟨source, hsource, hitem⟩ := hown
        exact absurd hitem (hclean source hsource pattern _ 0 x)
    | call iri arguments =>
        obtain ⟨id, arity, apply, hget, -⟩ := hown
        rw [hcasts] at hget
        obtain ⟨target, hcast⟩ := Registry.eq_ofCast_of_get?_casts hget
        exact nomatch hcast
    | _ => exact absurd hown id

/-- What an error says of the expression that failed with it, where there are only casts and
patterns give no errors. -/
inductive ErrorOrigin (env : Environment) (e : Expression) : EvalError → Prop where
  | operator {x : EvalError} (h : Ordinary (.error x : EvalResult Term)) : ErrorOrigin env e x
  | unboundVariable {name : String} (h : e.Contains (.var name))
      (hnone : env.context.lookup name = none) : ErrorOrigin env e (.unbound name)
  | refusedArguments {f : Builtin} {arguments : List Expression}
      (h : e.Contains (.builtin f arguments)) (hrefused : f.arity.accepts arguments.length = false) :
      ErrorOrigin env e (.arity f.name f.arity.text arguments.length)
  | guard (h : env.config.maxDepth < e.depth) :
      ErrorOrigin env e (.depthLimitExceeded env.config.maxDepth)

/-- **EVERY ERROR HAS AN ORIGIN** in the expression, or is that of the guard. -/
theorem errorOrigin (hcasts : env.registry = Registry.casts) (hclean : env.HasCleanPatterns)
    {e : Expression} {s : State} {x : EvalError} (herror : ((env.evaluate e).run s).1 = .error x) :
    env.ErrorOrigin e x := by
  have htransparent : env.registry.IsTransparent := hcasts ▸ Registry.isTransparent_casts
  rcases error_origin htransparent herror with ⟨d, hd, hraises⟩ | ⟨rfl, hdepth⟩
  · rcases raisesItself_cases hcasts hclean hraises with
      hordinary | ⟨name, rfl, hnone, rfl⟩ | ⟨f, arguments, rfl, hrefused, rfl⟩
    · exact .operator hordinary
    · exact .unboundVariable hd hnone
    · exact .refusedArguments hd hrefused
  · exact .guard hdepth

/-- No error with such an origin says that a function has no case. -/
theorem ErrorOrigin.not_saysNoCase {e : Expression} {x : EvalError} (h : env.ErrorOrigin e x) :
    ¬ SaysNoCase x.text := by
  cases h with
  | operator h => exact EvalError.not_saysNoCase_of_ordinary h
  | @unboundVariable name _ _ =>
      have hopen : BeginsOtherwise "variable ?" := ⟨'v', rfl, by decide⟩
      exact ((hopen.append name).append _).not_saysNoCase
  | @refusedArguments f arguments _ _ =>
      have hopen : BeginsOtherwise (f.name ++ " expects ") := f.name_begins.append _
      exact (((hopen.append f.arity.text).append _).append _).append _ |>.not_saysNoCase
  | guard _ =>
      have hopen : BeginsOtherwise "expression exceeds the maximum nesting depth of " :=
        ⟨'e', rfl, by decide⟩
      exact (hopen.append _).not_saysNoCase

/-- **ERROR PROVENANCE**: where there are only casts and patterns give no errors, an arity error is
that of a function which occurs with as many arguments and does not take them; an unbound variable
occurs, and the context does not bind it; the guard's error tells the limit, and the expression is
nested deeper.  No error says that a function has no case for its arguments: with a number of them
that it takes, a function refuses none. -/
theorem error_provenance (hcasts : env.registry = Registry.casts) (hclean : env.HasCleanPatterns)
    (e : Expression) (s : State) :
    (∀ name expected count, ((env.evaluate e).run s).1 = .error (.arity name expected count) →
      ∃ f arguments, e.Contains (.builtin f arguments) ∧
        f.arity.accepts arguments.length = false ∧
        name = f.name ∧ expected = f.arity.text ∧ count = arguments.length) ∧
      (∀ name, ((env.evaluate e).run s).1 = .error (.unbound name) →
        e.Contains (.var name) ∧ env.context.lookup name = none) ∧
      (∀ limit, ((env.evaluate e).run s).1 = .error (.depthLimitExceeded limit) →
        limit = env.config.maxDepth ∧ limit < e.depth) ∧
      (∀ x, ((env.evaluate e).run s).1 = .error x → ¬ SaysNoCase x.text) ∧
      ∀ (f : Builtin) (terms : List Term) (t : State) (x : EvalError),
        f.arity.accepts terms.length = true → ((f.apply env terms).run t).1 = .error x →
          ¬ SaysNoCase x.text ∧ ∀ name expected count, x ≠ .arity name expected count := by
  refine ⟨?_, ?_, ?_, ?_, ?_⟩
  · intro name expected count herror
    cases errorOrigin hcasts hclean herror with
    | operator hordinary => exact absurd hordinary id
    | refusedArguments hoccurs hrefused => exact ⟨_, _, hoccurs, hrefused, rfl, rfl, rfl⟩
  · intro name herror
    cases errorOrigin hcasts hclean herror with
    | operator hordinary => exact absurd hordinary id
    | unboundVariable hoccurs hnone => exact ⟨hoccurs, hnone⟩
  · intro limit herror
    cases errorOrigin hcasts hclean herror with
    | operator hordinary => exact absurd hordinary id
    | guard hdepth => exact ⟨rfl, hdepth⟩
  · intro x herror
    exact (errorOrigin hcasts hclean herror).not_saysNoCase
  · intro f terms t x haccepts herror
    have hordinary := f.ordinary_apply env haccepts t
    rw [herror] at hordinary
    refine ⟨EvalError.not_saysNoCase_of_ordinary hordinary, ?_⟩
    rintro name expected count rfl
    exact hordinary

/-- A negated call of STRLEN without an argument: the arity error is that of the call. -/
theorem strLen_without_argument_is_blamed :
    let env := bare Registry.casts 3
    let e : Expression := .not (.builtin .strLen [])
    env.registry = Registry.casts ∧ env.HasCleanPatterns ∧
      ((env.evaluate e).run State.initial).1 = .error (.arity "STRLEN" "1" 0) ∧
      ∃ f arguments, e.Contains (.builtin f arguments) ∧
        f.arity.accepts arguments.length = false ∧
        "STRLEN" = f.name ∧ "1" = f.arity.text ∧ 0 = arguments.length := by
  intro env e
  have hclean : env.HasCleanPatterns := fun _ hpatterns => nomatch hpatterns
  have herror : ((env.evaluate e).run State.initial).1 = .error (.arity "STRLEN" "1" 0) := rfl
  exact ⟨rfl, hclean, herror, (error_provenance rfl hclean e State.initial).1 _ _ _ herror⟩

end Environment

end SparqlScalar
