import SparqlScalar.Proofs.OperatorErrors

/-!
# Well-formed terms

    The datatype of strings with a language is for literals with a language tag and for no others.
    A term is WELL-FORMED if it keeps to that; the only terms that do not are texts to which that
    datatype was attached by hand (`not_wellFormed_iff`).

    An operator makes a literal in one of four ways, whatever its operands are:

      a tag                                  -- STRLANG, and strings that keep the tag they have
      a datatype whose literals have values  -- numbers, truth values, points in time, plain strings
      the datatype of an operand             -- ABS, ROUND, CEIL, FLOOR: the operand is a number
      a datatype that is itself an operand   -- STRDT

    The first three make well-formed literals, and the last one does unless it is given the datatype
    of strings with a language (`yields_withDatatype_iff`).  A chain without continuations hands
    its operand on, so for chains the operand has to be well-formed.
-/

namespace SparqlScalar

/-- A literal has the datatype of strings with a language exactly if it has a language tag. -/
def Literal.WellFormed (l : Literal) : Prop := l.datatypeIri = langStringIri ↔ l.language?.isSome

/-- A term that is no ill-formed literal. -/
def Term.WellFormed : Term → Prop
  | .literal l => l.WellFormed
  | _ => True

namespace EvalResult

variable {α β : Type} {P : α → Prop} {Q : β → Prop}

/-- A value, if there is one, has a property. -/
def Yields (P : α → Prop) : EvalResult α → Prop
  | .ok a => P a
  | .error _ => True

/-- A sequence has a property of values exactly if its last step has it, wherever the first one
leads. -/
theorem yields_bind_iff {r : EvalResult α} {f : α → EvalResult β} :
    Yields Q (r >>= f) ↔ ∀ a, r = .ok a → Yields Q (f a) := by
  cases r with
  | ok a =>
      constructor
      · intro h _ ha
        obtain rfl := Except.ok.inj ha
        exact h
      · exact fun h => h a rfl
  | error e =>
      constructor
      · intro _ _ ha
        cases ha
      · exact fun _ => trivial

/-- To show it, only the last step has to be looked at. -/
theorem yields_bind {r : EvalResult α} {f : α → EvalResult β}
    (h : ∀ a, r = .ok a → Yields Q (f a)) : Yields Q (r >>= f) := yields_bind_iff.mpr h

theorem yields_map {r : EvalResult α} {f : α → β} (h : ∀ a, Q (f a)) : Yields Q (r.map f) := by
  cases r with
  | ok a => exact h a
  | error e => exact trivial

end EvalResult

open EvalResult (Yields yields_bind yields_map)

/-! ## Literals -/

/-- The two vocabularies have different names. -/
theorem Datatype.iri_ne_langString (d : Datatype) : d.iri ≠ langStringIri := by
  intro heq
  have hplace := congrArg (fun i => i.text.toList[18]?) heq
  have hvocabulary : (vocabulary ++ d.localName).toList[18]? = vocabulary.toList[18]? := by
    rw [String.toList_append]
    exact List.getElem?_append_left (by decide)
  exact absurd (hvocabulary.symm.trans hplace) (by decide)

namespace Literal

/-- A literal with a tag has the datatype that it has to have. -/
theorem wellFormed_tagged (lexical tag : String) : (tagged lexical tag).WellFormed :=
  ⟨fun _ => rfl, fun _ => rfl⟩

/-- A literal without a tag is well-formed unless its datatype is the one for tags. -/
theorem wellFormed_typed_iff {lexical : String} {iri : Iri} :
    (typed lexical iri).WellFormed ↔ iri ≠ langStringIri := by
  constructor
  · intro h heq
    exact Bool.false_ne_true (h.mp heq)
  · intro hne
    exact ⟨fun heq => absurd heq hne, fun hsome => nomatch hsome⟩

/-- The datatypes whose literals have values are not the one for tags. -/
theorem wellFormed_typed (lexical : String) (d : Datatype) : (typed lexical d.iri).WellFormed :=
  wellFormed_typed_iff.mpr d.iri_ne_langString

/-- A text with a tag or without one is well-formed either way. -/
theorem wellFormed_ofString (lexical : String) (tag : Option String) :
    (ofString lexical tag).WellFormed := by
  cases tag with
  | some tag => exact wellFormed_tagged lexical tag
  | none => exact wellFormed_typed lexical .string

/-- A literal that stands for a number has the datatype of one. -/
theorem datatypeIri_ne_of_numeric {l : Literal} {n : Numeric} (h : l.value = .numeric n) :
    l.datatypeIri ≠ langStringIri := by
  obtain ⟨lexical, annotation⟩ := l
  cases annotation with
  | language tag => exact nomatch h
  | datatype iri =>
      rintro rfl
      -- the literals of that datatype have no values but themselves
      have hnone : Datatype.ofIri? langStringIri = none := by decide
      simp only [value, hnone, Option.bind_none, Option.getD_none] at h
      exact nomatch h

end Literal

namespace Term

theorem wellFormed_simple (text : String) : (simple text).WellFormed :=
  Literal.wellFormed_typed text .string

theorem wellFormed_ofBool (b : Bool) : (ofBool b).WellFormed := Literal.wellFormed_typed _ .boolean

/-- What is not well-formed is a text with the datatype of strings with a language and no tag. -/
theorem not_wellFormed_iff {t : Term} :
    ¬ t.WellFormed ↔ ∃ lexical, t = .literal (.typed lexical langStringIri) := by
  constructor
  · intro h
    match t, h with
    | .iri _, h | .blank _, h => exact absurd trivial h
    | .literal ⟨lexical, .language tag⟩, h => exact absurd (Literal.wellFormed_tagged lexical tag) h
    | .literal ⟨lexical, .datatype i⟩, h =>
        obtain rfl : i = langStringIri := by
          by_contra hne
          exact h (Literal.wellFormed_typed_iff.mpr hne)
        exact ⟨lexical, rfl⟩
  · rintro ⟨lexical, rfl⟩ h
    exact Literal.wellFormed_typed_iff.mp h rfl

end Term

/-- A value that is not an ill-formed literal itself is written as a well-formed term. -/
theorem Value.wellFormed_toTerm {v : Value} (h : ∀ l, v ≠ .other l) : v.toTerm.WellFormed := by
  cases v with
  | iri _ | blank _ => exact trivial
  | boolean b => exact Term.wellFormed_ofBool b
  | simple text => exact Term.wellFormed_simple text
  | tagged text tag => exact Literal.wellFormed_tagged text tag
  | numeric n => exact Literal.wellFormed_typed _ n.kind.datatype
  | dateTime v => exact Literal.wellFormed_typed _ .dateTime
  | time v => exact Literal.wellFormed_typed _ .time
  | date v => exact Literal.wellFormed_typed _ .date
  | duration v => exact Literal.wellFormed_typed _ .duration
  | yearMonthDuration v => exact Literal.wellFormed_typed _ .yearMonthDuration
  | dayTimeDuration v => exact Literal.wellFormed_typed _ .dayTimeDuration
  | other l => exact absurd rfl (h l)

theorem Value.wellFormed_numeric (n : Numeric) : (Value.numeric n).toTerm.WellFormed :=
  wellFormed_toTerm nofun

theorem StringValue.wellFormed_toTerm (s : StringValue) : s.toTerm.WellFormed :=
  Literal.wellFormed_ofString s.text s.tag

/-! ## Arithmetic -/

/-- An operation on two numbers makes a number, whatever the numbers are. -/
theorem wellFormed_withNumbers (f : Numeric → Numeric → EvalResult Numeric) (left right : Term) :
    Yields Term.WellFormed (withNumbers f left right) := by
  refine yields_bind fun a _ => yields_bind fun b _ => yields_bind fun result _ => ?_
  exact Value.wellFormed_numeric result

/-- A chain of steps that make well-formed terms hands its first operand on or makes one. -/
theorem wellFormed_numericChain {Op : Type} {apply : Op → Term → Term → EvalResult Term}
    (hstep : ∀ operator a b, Yields Term.WellFormed (apply operator a b)) {first : Term}
    (hfirst : first.WellFormed) (rest : List (Op × Term)) :
    Yields Term.WellFormed (numericChain apply first rest) := by
  have hchain : ∀ current : Term, current.WellFormed →
      Yields Term.WellFormed (chain apply current rest) := by
    induction rest with
    | nil =>
        intro current hcurrent
        exact hcurrent
    | cons pair rest ih =>
        intro current _
        refine yields_bind fun next hnext => ih next ?_
        -- whatever the operands are, a step makes a well-formed term
        have hmade := hstep pair.1 current pair.2
        rw [hnext] at hmade
        exact hmade
  cases rest with
  | nil => exact yields_bind fun _ _ => hfirst
  | cons pair rest => exact hchain first hfirst

/-- A point in time has a datatype of its own. -/
theorem TimePoint.wellFormed_toTerm (p : TimePoint) : p.toTerm.WellFormed := by
  cases p with
  | dateTime v => exact Literal.wellFormed_typed _ .dateTime
  | date v => exact Literal.wellFormed_typed _ .date
  | time v => exact Literal.wellFormed_typed _ .time

/-- The difference of two points is a duration. -/
theorem wellFormed_differenceTerm (p q : TimePoint) :
    Yields Term.WellFormed (differenceTerm p q) := by
  refine yields_bind fun difference _ => yields_bind fun seconds _ => ?_
  exact Literal.wellFormed_typed _ .duration

/-- A chain ends with a point, or fails with a duration. -/
theorem wellFormed_result (operand : TemporalOperand) : Yields Term.WellFormed operand.toTerm := by
  cases operand with
  | point p => exact p.wellFormed_toTerm
  | span s => exact trivial

/-- A lone operand is handed on; everything else is a point or a difference. -/
theorem wellFormed_temporalChain {first : Term} (hfirst : first.WellFormed)
    (rest : List (AdditiveOperator × Term)) :
    Yields Term.WellFormed (temporalChain first rest) := by
  unfold temporalChain
  split
  · exact hfirst
  · refine yields_bind fun start _ => ?_
    split
    · refine yields_bind fun next _ => ?_
      split
      · exact wellFormed_differenceTerm _ _
      · exact yields_bind fun result _ => wellFormed_result result
    · exact yields_bind fun result _ => wellFormed_result result

/-- Sums hand a well-formed operand on or make a well-formed term. -/
theorem wellFormed_additiveChain {first : Term} (hfirst : first.WellFormed)
    (rest : List (AdditiveOperator × Term)) :
    Yields Term.WellFormed (additiveChain first rest) := by
  unfold additiveChain
  split
  · exact wellFormed_temporalChain hfirst rest
  · refine wellFormed_numericChain (fun operator a b => ?_) hfirst rest
    cases operator <;> exact wellFormed_withNumbers _ a b

/-- Products hand a well-formed operand on or make a number. -/
theorem wellFormed_multiplicativeChain {first : Term} (hfirst : first.WellFormed)
    (rest : List (MultiplicativeOperator × Term)) :
    Yields Term.WellFormed (multiplicativeChain first rest) := by
  refine wellFormed_numericChain (fun operator a b => ?_) hfirst rest
  cases operator <;> exact wellFormed_withNumbers _ a b

theorem wellFormed_minus (t : Term) : Yields Term.WellFormed (minus t) :=
  yields_bind fun _ _ => yields_bind fun result _ => Value.wellFormed_numeric result

theorem wellFormed_plus (t : Term) : Yields Term.WellFormed (plus t) :=
  yields_bind fun a _ => Value.wellFormed_numeric a

/-- Comparisons make truth values. -/
theorem wellFormed_comparison (operator : ComparisonOperator) (left right : Term) :
    Yields Term.WellFormed (comparison operator left right) :=
  yields_map Term.wellFormed_ofBool

theorem wellFormed_negation (t : Term) : Yields Term.WellFormed (negation t) :=
  yields_bind fun value _ => Term.wellFormed_ofBool !value

/-- The datatype of a number is kept, and it is not that of strings with a language. -/
theorem wellFormed_keepingDatatype (f : Numeric → Option Numeric) (t : Term) :
    Yields Term.WellFormed (keepingDatatype f t) := by
  refine yields_bind fun operand hoperand => yields_bind fun result _ => ?_
  refine Literal.wellFormed_typed_iff.mpr ?_
  cases t with
  | iri _ | blank _ => exact nomatch hoperand
  | literal l =>
      unfold Term.numericOperand at hoperand
      simp only [Term.literalOperand, bind, Except.bind] at hoperand
      split at hoperand
      case h_1 n hvalue =>
        obtain rfl := Except.ok.inj hoperand
        exact Literal.datatypeIri_ne_of_numeric hvalue
      case h_2 => exact nomatch hoperand

/-! ## Functions -/

/-- STR makes plain texts. -/
theorem wellFormed_textOf (t : Term) : Yields Term.WellFormed (textOf t) := by
  cases t with
  | iri value => exact Term.wellFormed_simple value.text
  | literal l => exact Term.wellFormed_simple l.lexical
  | blank _ => exact trivial

/-- IRI makes IRIs, which are well-formed as they are. -/
theorem wellFormed_iriOf (base : Option String) (t : Term) :
    Yields Term.WellFormed (iriOf base t) := by
  have hresolve : ∀ text, Yields Term.WellFormed (resolveIri base text) := fun text =>
    yields_bind fun _ _ => trivial
  unfold iriOf
  split
  · exact trivial
  · exact hresolve _
  · exact hresolve _
  · exact trivial

/-- STRDT makes the literal of a plain text and a datatype. -/
theorem withDatatype_eq_ok_iff {text datatype t : Term} :
    withDatatype text datatype = .ok t ↔ ∃ lexical iri,
      text.simpleText = .ok lexical ∧ datatype = .iri iri ∧ t = .literal (.typed lexical iri) := by
  unfold withDatatype
  cases htext : text.simpleText with
  | error e =>
      constructor
      · intro h
        exact nomatch h
      · rintro ⟨_, _, h, -⟩
        exact nomatch h
  | ok lexical =>
      constructor
      · intro h
        cases datatype with
        | blank _ | literal _ => exact nomatch h
        | iri i => exact ⟨lexical, i, rfl, rfl, (Except.ok.inj h).symm⟩
      · rintro ⟨_, _, hlexical, rfl, rfl⟩
        obtain rfl := Except.ok.inj hlexical
        rfl

/-- What STRDT makes is well-formed exactly if it does not attach the datatype of strings with a
language to a plain text. -/
theorem yields_withDatatype_iff {text datatype : Term} :
    Yields Term.WellFormed (withDatatype text datatype) ↔
      ¬ ∃ lexical, text.simpleText = .ok lexical ∧ datatype = .iri langStringIri := by
  constructor
  · rintro h ⟨lexical, hlexical, rfl⟩
    rw [withDatatype_eq_ok_iff.mpr ⟨lexical, langStringIri, hlexical, rfl, rfl⟩] at h
    exact Literal.wellFormed_typed_iff.mp h rfl
  · intro hclear
    cases hmade : withDatatype text datatype with
    | error e => exact trivial
    | ok t =>
        obtain ⟨lexical, iri, hlexical, rfl, rfl⟩ := withDatatype_eq_ok_iff.mp hmade
        exact Literal.wellFormed_typed_iff.mpr fun heq =>
          hclear ⟨lexical, hlexical, congrArg Term.iri heq⟩

/-- STRLANG attaches a tag, and with it the datatype for tags. -/
theorem wellFormed_withLanguage (text tag : Term) :
    Yields Term.WellFormed (withLanguage text tag) := by
  refine yields_bind fun lexical _ => yields_bind fun tag _ => ?_
  show Yields _ (if _ then _ else _)
  split
  · exact Literal.wellFormed_tagged lexical _
  · exact trivial

/-- A part of a string keeps its tag; where nothing was found the text is plain. -/
theorem wellFormed_partAround (part : List Char × List Char → List Char) (text needle : Term) :
    Yields Term.WellFormed (partAround part text needle) := by
  refine yields_bind fun pair _ => ?_
  dsimp only
  split
  · exact StringValue.wellFormed_toTerm _
  · exact Term.wellFormed_simple ""

/-- The rest of a string keeps its tag. -/
theorem wellFormed_substringFrom (text start : Term) :
    Yields Term.WellFormed (substringFrom text start) :=
  yields_bind fun _ _ => yields_bind fun _ _ => StringValue.wellFormed_toTerm _

/-- A part of a string keeps its tag. -/
theorem wellFormed_substringOf (text start length : Term) :
    Yields Term.WellFormed (substringOf text start length) := by
  refine yields_bind fun _ _ => yields_bind fun _ _ => yields_bind fun _ _ => ?_
  exact StringValue.wellFormed_toTerm _

/-- REGEX makes truth values. -/
theorem wellFormed_matchesPattern (limit : Nat) (text pattern : Term) :
    Yields Term.WellFormed (matchesPattern limit text pattern) := by
  refine yields_bind fun _ _ => yields_bind fun _ _ => yields_bind fun _ _ => ?_
  exact Term.wellFormed_ofBool _

theorem wellFormed_matchesFlaggedPattern (limit : Nat) (text pattern flags : Term) :
    Yields Term.WellFormed (matchesFlaggedPattern limit text pattern flags) := by
  refine yields_bind fun _ _ => yields_bind fun _ _ => yields_bind fun _ _ => ?_
  exact yields_bind fun _ _ => Term.wellFormed_ofBool _

/-- REPLACE keeps the tag of its text. -/
theorem wellFormed_replacePattern (limit : Nat) (text pattern replacement : Term) :
    Yields Term.WellFormed (replacePattern limit text pattern replacement) := by
  refine yields_bind fun _ _ => yields_bind fun _ _ => yields_bind fun _ _ => ?_
  exact yields_bind fun _ _ => StringValue.wellFormed_toTerm _

theorem wellFormed_replaceFlaggedPattern (limit : Nat) (text pattern replacement flags : Term) :
    Yields Term.WellFormed (replaceFlaggedPattern limit text pattern replacement flags) := by
  refine yields_bind fun _ _ => yields_bind fun _ _ => yields_bind fun _ _ => ?_
  exact yields_bind fun _ _ => yields_bind fun _ _ => StringValue.wellFormed_toTerm _

/-- Digests are plain texts. -/
theorem wellFormed_digestOf (digest : List UInt8 → List UInt8) (t : Term) :
    Yields Term.WellFormed (digestOf digest t) :=
  yields_bind fun _ _ => Term.wellFormed_simple _

/-- Years, months and days are integers. -/
theorem wellFormed_ofDate (part : CivilDate → Int) (t : Term) :
    Yields Term.WellFormed (ofDate part t) :=
  yields_bind fun _ _ => Literal.wellFormed_typed _ (.integer .integer)

namespace Builtin

variable {args : List Term}

/-- With another number of arguments there is no value at all. -/
theorem wellFormed_unary {f : Term → EvalResult Term} (hf : ∀ a, Yields Term.WellFormed (f a)) :
    Yields Term.WellFormed (unary f args) := by
  unfold unary
  split
  · exact hf _
  · exact trivial

theorem wellFormed_binary {f : Term → Term → EvalResult Term}
    (hf : ∀ a b, Yields Term.WellFormed (f a b)) : Yields Term.WellFormed (binary f args) := by
  unfold binary
  split
  · exact hf _ _
  · exact trivial

/-- Every function but STRDT makes well-formed terms, whatever its arguments are. -/
theorem wellFormed_value {f : Builtin} (hf : f ≠ .strDt) (config : Config) (scope : Scope)
    (args : List Term) : Yields Term.WellFormed (f.value config scope args) := by
  cases f with
  | strDt => exact absurd rfl hf
  | isIri | isBlank | isLiteral | isNumeric =>
      exact wellFormed_unary fun _ => Term.wellFormed_ofBool _
  | str => exact wellFormed_unary wellFormed_textOf
  | lang => exact wellFormed_unary fun _ => yields_bind fun _ _ => Term.wellFormed_simple _
  | datatype => exact wellFormed_unary fun _ => yields_bind fun _ _ => trivial
  | iri => exact wellFormed_unary (wellFormed_iriOf scope.base)
  | strLang => exact wellFormed_binary wellFormed_withLanguage
  | sameTerm => exact wellFormed_binary fun _ _ => Term.wellFormed_ofBool _
  | strLen =>
      exact wellFormed_unary fun _ => yields_bind fun _ _ =>
        Literal.wellFormed_typed _ (.integer .integer)
  | uCase | lCase =>
      exact wellFormed_unary fun _ => yields_bind fun _ _ => StringValue.wellFormed_toTerm _
  | encodeForUri =>
      exact wellFormed_unary fun _ => yields_bind fun _ _ => yields_bind fun _ _ =>
        Term.wellFormed_simple _
  | md5 | sha1 | sha256 | sha384 | sha512 => exact wellFormed_unary (wellFormed_digestOf _)
  | strStarts | strEnds | contains =>
      exact wellFormed_binary fun _ _ => yields_bind fun _ _ => Term.wellFormed_ofBool _
  | strBefore | strAfter => exact wellFormed_binary (wellFormed_partAround _)
  | langMatches =>
      exact wellFormed_binary fun _ _ => yields_bind fun _ _ => yields_bind fun _ _ =>
        Term.wellFormed_ofBool _
  | concat => exact yields_bind fun strings _ => (concatenation strings).wellFormed_toTerm
  | abs | round | ceil | floor => exact wellFormed_unary (wellFormed_keepingDatatype _)
  | now => exact Literal.wellFormed_typed _ .dateTime
  | year | month | day => exact wellFormed_unary (wellFormed_ofDate _)
  | hours | minutes =>
      exact wellFormed_unary fun _ => yields_bind fun _ _ =>
        Literal.wellFormed_typed _ (.integer .integer)
  | seconds => exact wellFormed_unary fun _ => yields_bind fun _ _ => Value.wellFormed_numeric _
  | timezone =>
      exact wellFormed_unary fun _ => yields_bind fun _ _ => yields_bind fun _ _ =>
        Literal.wellFormed_typed _ .dayTimeDuration
  | tz => exact wellFormed_unary fun _ => yields_bind fun _ _ => Term.wellFormed_simple _
  | subStr =>
      match args with
      | [a, b] => exact wellFormed_substringFrom a b
      | [a, b, c] => exact wellFormed_substringOf a b c
      | [] | [_] | _ :: _ :: _ :: _ :: _ => exact trivial
  | regex =>
      match args with
      | [a, b] => exact wellFormed_matchesPattern _ a b
      | [a, b, c] => exact wellFormed_matchesFlaggedPattern _ a b c
      | [] | [_] | _ :: _ :: _ :: _ :: _ => exact trivial
  | replace =>
      match args with
      | [a, b, c] => exact wellFormed_replacePattern _ a b c
      | [a, b, c, d] => exact wellFormed_replaceFlaggedPattern _ a b c d
      | [] | [_] | [_, _] | _ :: _ :: _ :: _ :: _ :: _ => exact trivial
  | bnode | uuid | strUuid | rand => exact trivial

/-- Every function but STRDT makes well-formed terms from every state: nodes are no literals. -/
theorem wellFormed_apply {f : Builtin} (hf : f ≠ .strDt) (env : Environment) (args : List Term)
    (s : State) : Yields Term.WellFormed ((f.apply env args).run s).1 := by
  cases f with
  | bnode =>
      have hblank : ∀ r : NodeRequest, Yields Term.WellFormed
          ((Eval.request r >>= fun node => pure (Term.blank node) : Eval Term).run s).1 := by
        intro r
        obtain ⟨node, hnode, -⟩ := Eval.run_request r s
        rw [Eval.run_bind_ok hnode]
        exact trivial
      match args with
      | [] => exact hblank .own
      | [.literal l] => exact hblank (.forLiteral env.context.cache l)
      | [.iri _] | [.blank _] => exact trivial
      | .literal _ :: _ :: _ | .iri _ :: _ :: _ | .blank _ :: _ :: _ => exact trivial
  | uuid => exact trivial
  | strUuid => exact Term.wellFormed_simple _
  | rand => exact Value.wellFormed_numeric _
  | _ => exact wellFormed_value hf env.config env.context.toScope args

end Builtin

/-- Casts make well-formed terms. -/
theorem CastTarget.wellFormed_apply (target : CastTarget) (t : Term) :
    Yields Term.WellFormed (target.apply t) := by
  cases target with
  | string => exact yields_map Term.wellFormed_simple
  | dateTime =>
      exact yields_bind fun _ _ => yields_bind fun _ _ => Literal.wellFormed_typed _ .dateTime
  | float | double | decimal | integer =>
      exact yields_bind fun _ _ => yields_bind fun _ _ => Value.wellFormed_numeric _
  | boolean => exact yields_bind fun _ _ => yields_bind fun _ _ => Term.wellFormed_ofBool _

end SparqlScalar
