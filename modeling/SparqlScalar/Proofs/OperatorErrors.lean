import Mathlib.Data.List.Basic
import SparqlScalar.Proofs.Run

/-!
# The errors of operators

    An operator fails for one of two reasons: an operand has the wrong sort, or the operation has no
    result.  Such outcomes are ORDINARY.  The other errors come from elsewhere: a wrong number of
    arguments is found by the construct, an unbound variable by the context, and too deep a nesting
    by the guard.  An ordinary error has one of the operator's own causes: not the text of a custom
    function, and not the refusal of a list of arguments of the wrong length, since every function
    has a case for each number of arguments that it takes (`Builtin.ordinary_apply`).

    Ordinary outcomes are closed under sequencing, so that an operator is ordinary because what it
    asks of its operands is.
-/

namespace SparqlScalar

/-- A cause that operators give, and not the text of a custom function. -/
def TypeCause.IsOwn : TypeCause → Prop
  | .custom _ => False
  | _ => True

/-- A cause that operators give: not the text of a custom function or of a pattern, and not the
refusal of a list of arguments.  The one that begins with a text begins with that of a date-time. -/
def EvaluationCause.IsOwn : EvaluationCause → Prop
  | .unsupportedUnaryArguments | .unsupportedBinaryArguments | .custom _ => False
  | .noTimezone text => ∃ v : DateTime, text = String.ofList v.text
  | _ => True

namespace EvalResult

variable {α β : Type}

/-- A value, or a failure for an operand of the wrong sort or for want of a result. -/
def Ordinary : EvalResult α → Prop
  | .ok _ => True
  | .error (.type cause) => cause.IsOwn
  | .error (.evaluation cause) => cause.IsOwn
  | .error _ => False

/-- Where a value may be missing, the failure is ordinary if its cause is an operator's own. -/
theorem ordinary_ofOption {cause : EvaluationCause} (h : cause.IsOwn) (option : Option α) :
    Ordinary (ofOption cause option) := by
  cases option with
  | some a => exact trivial
  | none => exact h

/-- What goes on with a value is ordinary if both steps are. Operators are put together like that. -/
theorem ordinary_bind {r : EvalResult α} {f : α → EvalResult β} (hr : Ordinary r)
    (hf : ∀ a, Ordinary (f a)) : Ordinary (r >>= f) := by
  cases r with
  | ok a => exact hf a
  | error e => cases e <;> exact hr

/-- To change the value changes no failure. -/
theorem ordinary_map {r : EvalResult α} (hr : Ordinary r) (f : α → β) : Ordinary (r.map f) := by
  cases r with
  | ok a => exact trivial
  | error e => cases e <;> exact hr

end EvalResult

open EvalResult

/-! ## What operators ask of their operands -/

namespace Term

/-- An operand that has to be a literal is one, or has the wrong sort. -/
theorem ordinary_literalOperand (t : Term) : Ordinary t.literalOperand := by
  cases t <;> exact trivial

theorem ordinary_iriOperand (t : Term) : Ordinary t.iriOperand := by
  cases t <;> exact trivial

/-- A literal that is no number has the wrong sort too. -/
theorem ordinary_numericOperand (t : Term) : Ordinary t.numericOperand := by
  refine ordinary_bind t.ordinary_literalOperand fun literal => ?_
  split
  · exact trivial
  · exact trivial

theorem ordinary_numeric (t : Term) : Ordinary t.numeric :=
  ordinary_bind t.ordinary_numericOperand fun _ => trivial

/-- A literal that is no string has the wrong sort, and so has every other term. -/
theorem ordinary_string (t : Term) : Ordinary t.string := by
  unfold string
  split <;> exact trivial

theorem ordinary_simpleText (t : Term) : Ordinary t.simpleText := by
  unfold simpleText
  split <;> exact trivial

/-- A date-time is read as its date, which may lie out of range. -/
theorem ordinary_date (t : Term) : Ordinary t.date := by
  unfold date
  split
  · exact trivial
  · exact ordinary_ofOption (by trivial) _
  · exact trivial

theorem ordinary_dateTime (t : Term) : Ordinary t.dateTime := by
  unfold dateTime
  split <;> exact trivial

end Term

/-! ## Truth and comparison -/

/-- A term has a truth value, or has the wrong sort. -/
theorem ordinary_effectiveBooleanValue (t : Term) : Ordinary (effectiveBooleanValue t) := by
  unfold effectiveBooleanValue
  split
  case h_5 =>
    split <;> exact trivial
  all_goals exact trivial

theorem ordinary_negation (t : Term) : Ordinary (negation t) :=
  ordinary_bind (ordinary_effectiveBooleanValue t) fun _ => trivial

/-- Two terms are equal or not, or it cannot be decided, which is a matter of their sorts. -/
theorem ordinary_equalTerms (left right : Term) : Ordinary (equalTerms left right) := by
  unfold equalTerms
  split
  · split
    · exact trivial
    · split <;> exact trivial
  · split <;> exact trivial

/-- Two terms that have no order have the wrong sorts or leave the operator without a result. -/
theorem ordinary_orderTerms (operator : ComparisonOperator) (left right : Term) :
    Ordinary (orderTerms operator left right) := by
  unfold orderTerms
  split
  · split
    · exact trivial
    · split <;> exact trivial
  · exact trivial

/-- All six comparisons are made from the equality and from the order. -/
theorem ordinary_comparison (operator : ComparisonOperator) (left right : Term) :
    Ordinary (comparison operator left right) := by
  refine ordinary_map ?_ Term.ofBool
  cases operator with
  | equal => exact ordinary_equalTerms left right
  | notEqual => exact ordinary_map (ordinary_equalTerms left right) _
  | _ => exact ordinary_orderTerms _ left right

/-! ## Arithmetic -/

/-- An operation on two numbers fails for its operands first, and then by itself. -/
theorem ordinary_withNumbers {f : Numeric → Numeric → EvalResult Numeric}
    (hf : ∀ a b, Ordinary (f a b)) (left right : Term) : Ordinary (withNumbers f left right) := by
  refine ordinary_bind left.ordinary_numeric fun a => ?_
  refine ordinary_bind right.ordinary_numeric fun b => ?_
  exact ordinary_bind (hf a b) fun _ => trivial

/-- Sums and differences of numbers overflow, and that is all. -/
theorem ordinary_additiveStep (operator : AdditiveOperator) (left right : Term) :
    Ordinary (operator.apply left right) := by
  cases operator <;>
    exact ordinary_withNumbers (fun _ _ => ordinary_ofOption (by trivial) _) left right

/-- Products overflow; quotients overflow or are refused before, where the divisor is zero. -/
theorem ordinary_multiplicativeStep (operator : MultiplicativeOperator) (left right : Term) :
    Ordinary (operator.apply left right) := by
  cases operator with
  | multiply => exact ordinary_withNumbers (fun _ _ => ordinary_ofOption (by trivial) _) left right
  | divide =>
      refine ordinary_withNumbers (fun a b => ?_) left right
      split
      · exact trivial
      · exact ordinary_ofOption (by trivial) _

/-- A chain is ordinary if its steps are; without steps its operand still has to be a number. -/
theorem ordinary_numericChain {Op : Type} {apply : Op → Term → Term → EvalResult Term}
    (hstep : ∀ operator a b, Ordinary (apply operator a b)) (first : Term)
    (rest : List (Op × Term)) : Ordinary (numericChain apply first rest) := by
  -- every value on the way is the left operand of the next step
  have hchain : ∀ current, Ordinary (chain apply current rest) := by
    induction rest with
    | nil =>
        intro current
        exact trivial
    | cons pair rest ih =>
        intro current
        exact ordinary_bind (hstep _ _ _) fun next => ih next
  cases rest with
  | nil => exact ordinary_bind first.ordinary_numeric fun _ => trivial
  | cons pair rest => exact hchain first

/-- A term is decoded to a point in time or to a duration, or there is no result. -/
theorem ordinary_temporalOperand (t : Term) : Ordinary (TemporalOperand.ofTerm t) := by
  unfold TemporalOperand.ofTerm
  split
  · split <;> exact trivial
  · exact trivial

/-- A duration that does not suit a point is refused, and one that does may lead out of range. -/
theorem ordinary_shiftPoint (p : TimePoint) (operator : AdditiveOperator) (s : SpanOperand) :
    Ordinary (shiftPoint p operator s) := by
  unfold shiftPoint
  split
  · exact ordinary_ofOption (by trivial) _
  · exact trivial

/-- A step joins a point and a duration, and refuses all other pairs. -/
theorem ordinary_temporalStep (current : TemporalOperand) (operator : AdditiveOperator)
    (next : TemporalOperand) : Ordinary (temporalStep current operator next) := by
  unfold temporalStep
  split
  · split <;> exact trivial
  · exact ordinary_map (ordinary_shiftPoint _ _ _) _
  · exact ordinary_map (ordinary_shiftPoint _ _ _) _
  · exact trivial

/-- The operands of a chain are decoded on the way, each before it is joined. -/
theorem ordinary_temporalSteps (current : TemporalOperand)
    (rest : List (AdditiveOperator × Term)) : Ordinary (temporalSteps current rest) := by
  induction rest generalizing current with
  | nil => exact trivial
  | cons pair rest ih =>
      refine ordinary_bind (ordinary_temporalOperand pair.2) fun next => ?_
      exact ordinary_bind (ordinary_temporalStep current pair.1 next) fun moved => ih moved

theorem ordinary_result (operand : TemporalOperand) : Ordinary operand.toTerm := by
  cases operand <;> exact trivial

/-- A chain of points and durations decodes its operands and makes its steps, or takes one
difference. -/
theorem ordinary_temporalChain (first : Term) (rest : List (AdditiveOperator × Term)) :
    Ordinary (temporalChain first rest) := by
  have hsteps : ∀ start, Ordinary (temporalSteps start rest >>= TemporalOperand.toTerm) :=
    fun start => ordinary_bind (ordinary_temporalSteps start rest) ordinary_result
  unfold temporalChain
  -- two points in time have a difference of their own, before any step is made
  split
  · exact trivial
  · refine ordinary_bind (ordinary_temporalOperand first) fun start => ?_
    split
    · refine ordinary_bind (ordinary_temporalOperand _) fun next => ?_
      split
      · refine ordinary_bind (ordinary_ofOption (by trivial) _) fun _ => ?_
        exact ordinary_bind (ordinary_ofOption (by trivial) _) fun _ => trivial
      · exact ordinary_bind (ordinary_temporalStep _ _ _) ordinary_result
    · exact hsteps start

/-- Sums are ordinary, of numbers and of points in time. -/
theorem ordinary_additiveChain (first : Term) (rest : List (AdditiveOperator × Term)) :
    Ordinary (additiveChain first rest) := by
  unfold additiveChain
  split
  · exact ordinary_temporalChain first rest
  · exact ordinary_numericChain ordinary_additiveStep first rest

theorem ordinary_multiplicativeChain (first : Term)
    (rest : List (MultiplicativeOperator × Term)) :
    Ordinary (multiplicativeChain first rest) :=
  ordinary_numericChain ordinary_multiplicativeStep first rest

/-- The opposite of a number may overflow. -/
theorem ordinary_minus (t : Term) : Ordinary (minus t) := by
  refine ordinary_bind t.ordinary_numeric fun a => ?_
  exact ordinary_bind (ordinary_ofOption (by trivial) _) fun _ => trivial

theorem ordinary_plus (t : Term) : Ordinary (plus t) :=
  ordinary_bind t.ordinary_numeric fun _ => trivial

/-- ABS, ROUND, CEIL and FLOOR take numbers, and may overflow. -/
theorem ordinary_keepingDatatype (f : Numeric → Option Numeric) (t : Term) :
    Ordinary (keepingDatatype f t) := by
  refine ordinary_bind t.ordinary_numericOperand fun operand => ?_
  exact ordinary_bind (ordinary_ofOption (by trivial) _) fun _ => trivial

/-! ## Functions -/

/-- STR fails for blank nodes alone. -/
theorem ordinary_textOf (t : Term) : Ordinary (textOf t) := by
  cases t <;> exact trivial

/-- IRI fails for a text that is no IRI, and for what is neither a text nor an IRI. -/
theorem ordinary_iriOf (base : Option String) (t : Term) : Ordinary (iriOf base t) := by
  have hresolve : ∀ text, Ordinary (resolveIri base text) := fun text =>
    ordinary_bind (ordinary_ofOption (by trivial) _) fun _ => trivial
  unfold iriOf
  split
  · exact trivial
  · exact hresolve _
  · exact hresolve _
  · exact trivial

/-- STRDT takes a plain text and an IRI, and then has a result. -/
theorem ordinary_withDatatype (text datatype : Term) : Ordinary (withDatatype text datatype) := by
  refine ordinary_bind text.ordinary_simpleText fun _ => ?_
  exact ordinary_bind datatype.ordinary_iriOperand fun _ => trivial

/-- STRLANG takes two plain texts, of which the second has to be a language tag. -/
theorem ordinary_withLanguage (text tag : Term) : Ordinary (withLanguage text tag) := by
  refine ordinary_bind text.ordinary_simpleText fun _ => ?_
  refine ordinary_bind tag.ordinary_simpleText fun _ => ?_
  show Ordinary (if _ then _ else _)
  split <;> exact trivial

/-- Two strings may have tags that do not go together. -/
theorem ordinary_compatible (left right : Term) : Ordinary (compatible left right) := by
  refine ordinary_bind left.ordinary_string fun a => ?_
  refine ordinary_bind right.ordinary_string fun b => ?_
  show Ordinary (if _ then _ else _)
  split <;> exact trivial

/-- STRBEFORE and STRAFTER fail for their operands alone. -/
theorem ordinary_partAround (part : List Char × List Char → List Char) (text needle : Term) :
    Ordinary (partAround part text needle) := by
  refine ordinary_bind (ordinary_compatible text needle) fun pair => ?_
  dsimp only
  split <;> exact trivial

/-- SUBSTR asks for a string and numbers, and takes every place in the string or outside. -/
theorem ordinary_substringOf (text start length : Term) :
    Ordinary (substringOf text start length) := by
  refine ordinary_bind text.ordinary_string fun _ => ?_
  refine ordinary_bind start.ordinary_numeric fun _ => ?_
  exact ordinary_bind length.ordinary_numeric fun _ => trivial

theorem ordinary_substringFrom (text start : Term) : Ordinary (substringFrom text start) := by
  refine ordinary_bind text.ordinary_string fun _ => ?_
  exact ordinary_bind start.ordinary_numeric fun _ => trivial

/-- CONCAT fails for the first term that is no string. -/
theorem ordinary_concat (terms : List Term) : Ordinary (concat terms) := by
  have hstrings : Ordinary (terms.mapM Term.string) := by
    induction terms with
    | nil => exact trivial
    | cons t rest ih =>
        rw [List.mapM_cons]
        refine ordinary_bind t.ordinary_string fun _ => ?_
        exact ordinary_bind ih fun _ => trivial
  exact ordinary_bind hstrings fun _ => trivial

theorem ordinary_languageMatches (tag range : Term) : Ordinary (languageMatches tag range) := by
  refine ordinary_bind tag.ordinary_simpleText fun _ => ?_
  exact ordinary_bind range.ordinary_simpleText fun _ => trivial

/-- REGEX fails for its operands, and then for a pattern that does not compile. -/
theorem ordinary_matchesPattern (limit : Nat) (text pattern : Term) :
    Ordinary (matchesPattern limit text pattern) := by
  refine ordinary_bind text.ordinary_string fun _ => ?_
  refine ordinary_bind pattern.ordinary_simpleText fun _ => ?_
  exact ordinary_bind (ordinary_ofOption (by trivial) _) fun _ => trivial

theorem ordinary_matchesFlaggedPattern (limit : Nat) (text pattern flags : Term) :
    Ordinary (matchesFlaggedPattern limit text pattern flags) := by
  refine ordinary_bind text.ordinary_string fun _ => ?_
  refine ordinary_bind pattern.ordinary_simpleText fun _ => ?_
  refine ordinary_bind flags.ordinary_simpleText fun _ => ?_
  exact ordinary_bind (ordinary_ofOption (by trivial) _) fun _ => trivial

/-- REPLACE fails as REGEX does: what is put in for a match is never refused. -/
theorem ordinary_replacePattern (limit : Nat) (text pattern replacement : Term) :
    Ordinary (replacePattern limit text pattern replacement) := by
  refine ordinary_bind text.ordinary_string fun _ => ?_
  refine ordinary_bind pattern.ordinary_simpleText fun _ => ?_
  refine ordinary_bind replacement.ordinary_simpleText fun _ => ?_
  exact ordinary_bind (ordinary_ofOption (by trivial) _) fun _ => trivial

theorem ordinary_replaceFlaggedPattern (limit : Nat) (text pattern replacement flags : Term) :
    Ordinary (replaceFlaggedPattern limit text pattern replacement flags) := by
  refine ordinary_bind text.ordinary_string fun _ => ?_
  refine ordinary_bind pattern.ordinary_simpleText fun _ => ?_
  refine ordinary_bind replacement.ordinary_simpleText fun _ => ?_
  refine ordinary_bind flags.ordinary_simpleText fun _ => ?_
  exact ordinary_bind (ordinary_ofOption (by trivial) _) fun _ => trivial

namespace Builtin

variable {args : List Term}

/-- A function of one argument has a case for one argument. -/
theorem ordinary_unary {f : Term → EvalResult Term} (hf : ∀ a, Ordinary (f a))
    (h : (Arity.fixed 1).accepts args.length = true) : Ordinary (unary f args) := by
  obtain ⟨a, rfl⟩ := List.length_eq_one_iff.mp (beq_iff_eq.mp h)
  exact hf a

/-- A function of two arguments has a case for two arguments. -/
theorem ordinary_binary {f : Term → Term → EvalResult Term} (hf : ∀ a b, Ordinary (f a b))
    (h : (Arity.fixed 2).accepts args.length = true) : Ordinary (binary f args) := by
  obtain ⟨a, b, rfl⟩ := List.length_eq_two.mp (beq_iff_eq.mp h)
  exact hf a b

/-- Lists of two numbers of members. -/
theorem two_lengths {m n : Nat} {args : List Term}
    (h : (Arity.oneOf [.fixed m, .fixed n]).accepts args.length = true) :
    args.length = m ∨ args.length = n := by
  simp only [Arity.accepts, Arity.acceptsAny, Bool.or_false, Bool.or_eq_true, beq_iff_eq] at h
  exact h

/-- With a number of arguments that it takes, a function is ordinary. -/
theorem ordinary_value (f : Builtin) (config : Config) (scope : Scope) {args : List Term}
    (h : f.arity.accepts args.length = true)
    (hvalue : f ≠ .bnode ∧ f ≠ .uuid ∧ f ≠ .strUuid ∧ f ≠ .rand) :
    Ordinary (f.value config scope args) := by
  cases f with
  | isIri | isBlank | isLiteral | isNumeric =>
      refine ordinary_unary (fun t => ?_) h
      exact trivial
  | str => exact ordinary_unary ordinary_textOf h
  | lang | datatype =>
      refine ordinary_unary (fun t => ?_) h
      exact ordinary_bind t.ordinary_literalOperand fun _ => trivial
  | iri => exact ordinary_unary (ordinary_iriOf scope.base) h
  | strDt => exact ordinary_binary ordinary_withDatatype h
  | strLang => exact ordinary_binary ordinary_withLanguage h
  | sameTerm =>
      refine ordinary_binary (fun a b => ?_) h
      exact trivial
  | strLen | uCase | lCase | md5 | sha1 | sha256 | sha384 | sha512 =>
      refine ordinary_unary (fun t => ?_) h
      exact ordinary_bind t.ordinary_string fun _ => trivial
  | encodeForUri =>
      refine ordinary_unary (fun t => ?_) h
      refine ordinary_bind t.ordinary_string fun _ => ?_
      exact ordinary_bind (ordinary_ofOption (by trivial) _) fun _ => trivial
  | strStarts | strEnds | contains =>
      refine ordinary_binary (fun a b => ?_) h
      exact ordinary_bind (ordinary_compatible a b) fun _ => trivial
  | strBefore | strAfter => exact ordinary_binary (ordinary_partAround _) h
  | langMatches => exact ordinary_binary ordinary_languageMatches h
  | concat => exact ordinary_concat args
  | abs | round | ceil | floor => exact ordinary_unary (ordinary_keepingDatatype _) h
  | now => exact trivial
  | year | month | day =>
      refine ordinary_unary (fun t => ?_) h
      exact ordinary_bind t.ordinary_date fun _ => trivial
  | hours | minutes | seconds | tz =>
      refine ordinary_unary (fun t => ?_) h
      exact ordinary_bind t.ordinary_dateTime fun _ => trivial
  | timezone =>
      refine ordinary_unary (fun t => ?_) h
      refine ordinary_bind t.ordinary_dateTime fun v => ?_
      have hcause : (EvaluationCause.noTimezone (String.ofList v.text)).IsOwn := ⟨v, rfl⟩
      exact ordinary_bind (ordinary_ofOption hcause _) fun _ => trivial
  | subStr =>
      -- the number of arguments selects the form of the function
      rcases two_lengths h with h2 | h3
      · obtain ⟨a, b, rfl⟩ := List.length_eq_two.mp h2
        exact ordinary_substringFrom a b
      · obtain ⟨a, b, c, rfl⟩ := List.length_eq_three.mp h3
        exact ordinary_substringOf a b c
  | regex =>
      rcases two_lengths h with h2 | h3
      · obtain ⟨a, b, rfl⟩ := List.length_eq_two.mp h2
        exact ordinary_matchesPattern _ a b
      · obtain ⟨a, b, c, rfl⟩ := List.length_eq_three.mp h3
        exact ordinary_matchesFlaggedPattern _ a b c
  | replace =>
      rcases two_lengths h with h3 | h4
      · obtain ⟨a, b, c, rfl⟩ := List.length_eq_three.mp h3
        exact ordinary_replacePattern _ a b c
      · match args, h4 with
        | [a, b, c, d], _ => exact ordinary_replaceFlaggedPattern _ a b c d
  | bnode => exact absurd rfl hvalue.1
  | uuid => exact absurd rfl hvalue.2.1
  | strUuid => exact absurd rfl hvalue.2.2.1
  | rand => exact absurd rfl hvalue.2.2.2

/-- With a number of arguments that it takes, a function has an ordinary outcome. -/
theorem ordinary_apply (f : Builtin) (env : Environment) {args : List Term}
    (h : f.arity.accepts args.length = true) (s : State) :
    Ordinary ((f.apply env args).run s).1 := by
  cases f with
  | bnode =>
      match args with
      | [] => exact trivial
      | [.literal l] =>
          obtain ⟨node, hnode, -⟩ := Eval.run_request (.forLiteral env.context.cache l) s
          have hrun : ((Builtin.bnode.apply env [.literal l]).run s).1 = .ok (.blank node) :=
            congrArg Prod.fst (Eval.run_bind_ok hnode)
          rw [hrun]
          exact trivial
      | [.iri _] | [.blank _] => exact trivial
      | _ :: _ :: _ => exact nomatch h
  | uuid | strUuid | rand => exact trivial
  | _ =>
      -- no other function has an effect, so what it does is its value
      refine ordinary_value _ env.config env.context.toScope h ?_
      exact ⟨nofun, nofun, nofun, nofun⟩

end Builtin

/-! ## Casts -/

namespace CastTarget

/-- A cast takes literals with a tag or a known datatype, and date-times only to date-times. -/
theorem ordinary_source (target : CastTarget) (t : Term) : Ordinary (target.source t) := by
  unfold source
  split
  · split
    · exact trivial
    · exact trivial
    · split <;> exact trivial
    · exact trivial
  · exact trivial

/-- A cast to a number reads a text or converts a value, and both may fail. -/
theorem ordinary_toNumber {α : Type} (target : CastTarget) (l : Literal) (ofBool : Bool → α)
    (parse : List Char → Option α) (convert : Numeric → Option α) :
    Ordinary (target.toNumber l ofBool parse convert) := by
  unfold toNumber
  split
  · exact trivial
  · exact ordinary_ofOption (by trivial) _
  · exact ordinary_ofOption (by trivial) _
  · exact trivial

/-- A cast to a truth value knows four words. -/
theorem ordinary_toBoolean (l : Literal) : Ordinary (toBoolean l) := by
  show Ordinary (if _ then _ else _)
  split
  · exact trivial
  · split <;> exact trivial

/-- A cast to a decimal refuses a text with an exponent before it is read. -/
theorem ordinary_toDecimal (l : Literal) : Ordinary (toDecimal l) := by
  unfold toDecimal
  split
  · exact trivial
  · split
    · exact trivial
    · exact ordinary_toNumber _ _ _ _ _

/-- A cast to a date-time reads the text of a string or of a date-time. -/
theorem ordinary_toDateTime (l : Literal) : Ordinary (toDateTime l) := by
  unfold toDateTime
  split
  · exact ordinary_ofOption (by trivial) _
  · exact ordinary_ofOption (by trivial) _
  · exact trivial

/-- Casts are ordinary. -/
theorem ordinary_apply (target : CastTarget) (t : Term) : Ordinary (target.apply t) := by
  cases target with
  | string =>
      refine ordinary_map ?_ Term.simple
      cases t <;> exact trivial
  | dateTime =>
      refine ordinary_bind (ordinary_source _ t) fun l => ?_
      exact ordinary_bind (ordinary_toDateTime l) fun _ => trivial
  | float | double | integer =>
      refine ordinary_bind (ordinary_source _ t) fun l => ?_
      exact ordinary_bind (ordinary_toNumber _ l _ _ _) fun _ => trivial
  | decimal =>
      refine ordinary_bind (ordinary_source _ t) fun l => ?_
      exact ordinary_bind (ordinary_toDecimal l) fun _ => trivial
  | boolean =>
      refine ordinary_bind (ordinary_source _ t) fun l => ?_
      exact ordinary_bind (ordinary_toBoolean l) fun _ => trivial

end CastTarget

end SparqlScalar
