import SparqlScalar.Operator.Comparison
import SparqlScalar.Proofs.Orders

/-!
# Comparisons agree with one another

    Equality and the four ordering operators decide in two different ways, and differ in what they
    do with literals that stand for themselves.  Still there is one order behind all six operators:

      values    -- a literal that stands for itself has no tag, so its datatype and its text tell
                   which one it is (`Literal.eq_of_value_other`)
      order     -- the four operators read one order, or fail alike (`outcome_orderTerms`), and this
                   order is turned round with the terms (`termOrder_swap`)
      equality  -- it reads the same order where there is one (`equalTerms_of_termOrder`), and is the
                   same from both sides where there is none (`outcome_equalTerms_swap`)
-/

namespace SparqlScalar

/-! ## Values -/

/-- A text of a datatype is read as the value of a literal, and not as the literal itself. -/
theorem Datatype.decoded_of_parse? {d : Datatype} {lexical : String} {v : Value}
    (h : d.parse? lexical = some v) : v.isLiteral = true ∧ ∀ l, v ≠ .other l := by
  cases d with
  | string =>
      obtain rfl := Option.some.inj h
      exact ⟨rfl, fun l => nofun⟩
  | _ =>
      obtain ⟨w, -, rfl⟩ := Option.map_eq_some_iff.mp h
      exact ⟨rfl, fun l => nofun⟩

namespace Literal

/-- A literal has the value of a tagged text, a value that its datatype reads, or none but itself. -/
theorem value_cases (l : Literal) :
    (∃ tag, l.value = .tagged l.lexical tag) ∨ (∃ d : Datatype, d.parse? l.lexical = some l.value) ∨
      (l.value = .other l ∧ l.language? = none) := by
  obtain ⟨text, annotation⟩ := l
  cases annotation with
  | language tag => exact Or.inl ⟨tag, rfl⟩
  | datatype iri =>
      show _ ∨ (∃ d : Datatype, d.parse? text = some (Option.getD _ _)) ∨ Option.getD _ _ = _ ∧ _
      cases hdecoded : (Datatype.ofIri? iri).bind fun datatype => datatype.parse? text with
      | none => exact Or.inr (Or.inr ⟨rfl, rfl⟩)
      | some v =>
          obtain ⟨d, -, hparse⟩ := Option.bind_eq_some_iff.mp hdecoded
          exact Or.inr (Or.inl ⟨d, hparse⟩)

theorem isLiteral_value (l : Literal) : l.value.isLiteral = true := by
  rcases value_cases l with ⟨tag, htag⟩ | ⟨d, hparse⟩ | ⟨hself, -⟩
  · rw [htag]
    rfl
  · exact (Datatype.decoded_of_parse? hparse).1
  · rw [hself]
    rfl

variable {l m x y : Literal}

/-- Only the literal itself stands for itself, and it has no tag. -/
theorem self_of_value_other (h : l.value = .other x) : x = l ∧ l.language? = none := by
  rcases value_cases l with ⟨tag, htag⟩ | ⟨d, hparse⟩ | ⟨hself, hlanguage⟩
  · rw [htag] at h
    cases h
  · exact absurd h ((Datatype.decoded_of_parse? hparse).2 x)
  · rw [hself] at h
    exact ⟨(Value.other.inj h).symm, hlanguage⟩

/-- Literals without tags are told by their datatypes and their texts. -/
theorem eq_of_datatypeIri (hl : l.language? = none) (hm : m.language? = none)
    (hiri : l.datatypeIri = m.datatypeIri) (htext : l.lexical = m.lexical) : l = m := by
  obtain ⟨text, s⟩ := l
  obtain ⟨text', t⟩ := m
  cases s with
  | language tag => cases hl
  | datatype i =>
      cases t with
      | language tag => cases hm
      | datatype j =>
          obtain rfl : i = j := hiri
          obtain rfl : text = text' := htext
          rfl

/-- Literals that stand for themselves are told by their datatypes and their texts. -/
theorem eq_of_value_other (hl : l.value = .other x) (hm : m.value = .other y)
    (hiri : l.datatypeIri = m.datatypeIri) (htext : l.lexical = m.lexical) : l = m :=
  eq_of_datatypeIri (self_of_value_other hl).2 (self_of_value_other hm).2 hiri htext

end Literal

/-! ## Order -/

/-- What is told of an outcome: its value, or the kind of its error. -/
def EvalResult.outcome {α : Type} (r : EvalResult α) : Except ErrorKind α :=
  r.mapError EvalError.kind

/-- The order of two terms that the ordering operators read. -/
def termOrder : Term → Term → Except ErrorKind Ordering
  | .literal a, .literal b =>
    if a.isOrdered || b.isOrdered then
      (a.value.compareLiterals? b.value).elim (.error .type) .ok
    else .error .evaluation
  | _, _ => .error .type

/-- The ordering operators read one order, and fail alike where there is none. -/
theorem outcome_orderTerms (op : ComparisonOperator) (a b : Term) :
    (orderTerms op a b).outcome = (termOrder a b).map op.accepts := by
  cases a with
  | iri _ | blank _ => rfl
  | literal l =>
      cases b with
      | iri _ | blank _ => rfl
      | literal m =>
          simp only [orderTerms, termOrder]
          cases l.isOrdered <;> cases m.isOrdered <;>
            cases l.value.compareLiterals? m.value <;> rfl

/-- The order is turned round with the terms. -/
theorem termOrder_swap (a b : Term) : termOrder b a = (termOrder a b).map Ordering.swap := by
  cases a with
  | iri _ | blank _ => cases b <;> rfl
  | literal l =>
      cases b with
      | iri _ | blank _ => rfl
      | literal m =>
          simp only [termOrder, Bool.or_comm m.isOrdered,
            Value.compareLiterals?_swap l.value m.value]
          cases l.isOrdered || m.isOrdered with
          | true => cases l.value.compareLiterals? m.value <;> rfl
          | false => rfl

/-- An operator and its mirror image. -/
theorem outcome_orderTerms_swap {op mirrored : ComparisonOperator}
    (h : ∀ order : Ordering, mirrored.accepts order.swap = op.accepts order) (a b : Term) :
    (orderTerms op a b).outcome = (orderTerms mirrored b a).outcome := by
  rw [outcome_orderTerms, outcome_orderTerms, termOrder_swap a b]
  cases termOrder a b with
  | error kind => rfl
  | ok order => exact congrArg Except.ok (h order).symm

theorem eq_ok_of_outcome {α : Type} {r : EvalResult α} {a : α} (h : r.outcome = .ok a) :
    r = .ok a := by
  cases r with
  | error e => cases h
  | ok b => exact congrArg Except.ok (Except.ok.inj h)

/-! ## Equality -/

section Equality

variable {a b : Literal}

/-- Literals that stand for themselves and differ in their text alone are undecided. -/
theorem equalTerms_others (ha : a.value = .other a) (hb : b.value = .other b) :
    equalTerms (.literal a) (.literal b) =
      if a = b then .ok true
      else if a.datatypeIri = b.datatypeIri then
        typeError (.equalityUndecided (.literal a) (.literal b))
      else .ok false := by
  have hlanguage : a.language? = b.language? := by
    rw [(Literal.self_of_value_other ha).2, (Literal.self_of_value_other hb).2]
  simp only [equalTerms]
  simp only [Term.value, ha, hb, hlanguage, and_true]

/-- All other literals are equal if their values are. -/
theorem equalTerms_decoded (h : ¬ (a.value = .other a ∧ b.value = .other b)) :
    equalTerms (.literal a) (.literal b) =
      .ok (a.value.compareLiterals? b.value == some .eq) := by
  simp only [equalTerms]
  split
  · rename_i x y hx hy
    obtain ⟨rfl, -⟩ := Literal.self_of_value_other hx
    obtain ⟨rfl, -⟩ := Literal.self_of_value_other hy
    exact absurd ⟨hx, hy⟩ h
  · exact if_pos (by rw [Term.value, Term.value, a.isLiteral_value, b.isLiteral_value]; rfl)

end Equality

/-- Terms that are not both literals are equal if they are the same. -/
theorem equalTerms_of_not_literals {a b : Term} (h : ¬ (a.isLiteral = true ∧ b.isLiteral = true)) :
    equalTerms a b = .ok (a == b) := by
  cases a with
  | iri _ | blank _ => cases b <;> rfl
  | literal l =>
      cases b with
      | iri _ | blank _ =>
          simp only [equalTerms]
          cases (Term.literal l).value <;> rfl
      | literal m => exact absurd ⟨rfl, rfl⟩ h

/-- Terms that have an order are equal if it says so. -/
theorem equalTerms_of_termOrder {a b : Term} {order : Ordering} (h : termOrder a b = .ok order) :
    equalTerms a b = .ok order.isEq := by
  cases a with
  | iri _ | blank _ => cases h
  | literal l =>
      cases b with
      | iri _ | blank _ => cases h
      | literal m =>
          have hcompare : l.value.compareLiterals? m.value = some order := by
            simp only [termOrder] at h
            split at h
            · cases hvalues : l.value.compareLiterals? m.value with
              | none =>
                  rw [hvalues] at h
                  exact nomatch h
              | some found =>
                  rw [hvalues] at h
                  exact congrArg some (Except.ok.inj h)
            · exact nomatch h
          by_cases hothers : l.value = .other l ∧ m.value = .other m
          · -- these have an order only if they are the same
            obtain ⟨hl, hm⟩ := hothers
            rw [hl, hm] at hcompare
            obtain ⟨⟨hiri, htext⟩, hsame⟩ := Option.ite_none_right_eq_some.mp hcompare
            obtain rfl := Option.some.inj hsame
            rw [equalTerms_others hl hm, if_pos (Literal.eq_of_value_other hl hm hiri htext)]
            rfl
          · rw [equalTerms_decoded hothers, hcompare]
            cases order <;> rfl

/-- Equality is the same from both sides. -/
theorem outcome_equalTerms_swap (a b : Term) :
    (equalTerms a b).outcome = (equalTerms b a).outcome := by
  by_cases hliterals : a.isLiteral = true ∧ b.isLiteral = true
  · cases a with
    | iri _ | blank _ => cases hliterals.1
    | literal l =>
        cases b with
        | iri _ | blank _ => cases hliterals.2
        | literal m =>
            by_cases hothers : l.value = .other l ∧ m.value = .other m
            · rw [equalTerms_others hothers.1 hothers.2, equalTerms_others hothers.2 hothers.1]
              by_cases hsame : l = m
              · rw [if_pos hsame, if_pos hsame.symm]
              · rw [if_neg hsame, if_neg (Ne.symm hsame)]
                by_cases hiri : l.datatypeIri = m.datatypeIri
                · rw [if_pos hiri, if_pos hiri.symm]
                  rfl
                · rw [if_neg hiri, if_neg (Ne.symm hiri)]
            · rw [equalTerms_decoded hothers, equalTerms_decoded fun h => hothers h.symm,
                Value.compareLiterals?_swap l.value m.value]
              cases l.value.compareLiterals? m.value with
              | none => rfl
              | some order => cases order <;> rfl
  · rw [equalTerms_of_not_literals hliterals, equalTerms_of_not_literals fun h => hliterals h.symm,
      BEq.comm]

/-- Where equality fails, an operand has the wrong sort. -/
theorem kind_of_equalTerms {a b : Term} {e : EvalError} (h : equalTerms a b = .error e) :
    e.kind = .type := by
  simp only [equalTerms] at h
  split at h
  · split at h
    · cases h
    · split at h
      · obtain rfl := Except.error.inj h
        rfl
      · cases h
  · split at h <;> cases h

/-! ## All operators -/

/-- The operators that read an order. -/
def ComparisonOperator.ordering : List ComparisonOperator :=
  [.less, .greater, .lessOrEqual, .greaterOrEqual]

theorem holds_of_mem_ordering {op : ComparisonOperator} (h : op ∈ ComparisonOperator.ordering)
    (a b : Term) : holds op a b = orderTerms op a b := by
  cases op with
  | equal | notEqual => simp [ComparisonOperator.ordering] at h
  | _ => rfl

/-- **COHERENCE**: the ordering operators fail alike, or else terms are less, equal or greater, and
the two weak comparisons are the disjunctions.  Comparisons can be read from the other side,
equality fails only with a type error, and inequality is its negation. -/
theorem comparisons_coherent (a b : Term) :
    ((∃ kind, ∀ op ∈ ComparisonOperator.ordering, (holds op a b).outcome = .error kind) ∨
      ∃ lt eq gt : Bool, [lt, eq, gt].count true = 1 ∧
        holds .less a b = .ok lt ∧ holds .equal a b = .ok eq ∧ holds .greater a b = .ok gt ∧
        holds .lessOrEqual a b = .ok (lt || eq) ∧ holds .greaterOrEqual a b = .ok (gt || eq)) ∧
      (holds .less a b).outcome = (holds .greater b a).outcome ∧
      (holds .lessOrEqual a b).outcome = (holds .greaterOrEqual b a).outcome ∧
      (holds .equal a b).outcome = (holds .equal b a).outcome ∧
      (∀ e, holds .equal a b = .error e → e.kind = .type) ∧
      holds .notEqual a b = (holds .equal a b).map not := by
  refine ⟨?_, outcome_orderTerms_swap (by decide) a b, outcome_orderTerms_swap (by decide) a b,
    outcome_equalTerms_swap a b, fun e => kind_of_equalTerms, rfl⟩
  cases horder : termOrder a b with
  | error kind =>
      refine Or.inl ⟨kind, fun op hop => ?_⟩
      rw [holds_of_mem_ordering hop, outcome_orderTerms, horder]
      rfl
  | ok order =>
      have hread : ∀ op, orderTerms op a b = .ok (op.accepts order) := by
        intro op
        apply eq_ok_of_outcome
        rw [outcome_orderTerms, horder]
        rfl
      have hequal : holds .equal a b = .ok order.isEq := equalTerms_of_termOrder horder
      refine Or.inr ⟨order.isLT, order.isEq, order.isGT, ?_, hread .less, hequal, hread .greater,
        ?_, ?_⟩
      · cases order <;> rfl
      · refine (hread .lessOrEqual).trans (congrArg Except.ok ?_)
        cases order <;> rfl
      · refine (hread .greaterOrEqual).trans (congrArg Except.ok ?_)
        cases order <;> rfl

end SparqlScalar
