import SparqlScalar.Proofs.SortOrder

/-!
# Equal terms stand for each other

    One value is written in many ways: with zeros around its digits, in a narrower or a wider
    datatype, as a word or as a digit.  What is told of a term by its truth value or by a comparison
    does not depend on how it is written:

      terms    -- terms are equal because they are one term, or because both are decoded and their
                  values are in order with each other (`equal_cases`)
      truth    -- such values have one truth value (`Literal.SameValue.truth`)
      order    -- and have one order with each third term, and are equal to the same terms
                  (`Literal.SameValue.termOrder`, `Literal.SameValue.equalTerms`)
      mirrors  -- comparisons are read from the other side by the mirror image of the operator
                  (`outcome_holds_mirrored`)

    An ill-typed literal is no obstacle: it equals itself only, and nothing that is decoded.
-/

namespace SparqlScalar

/-! ## Sortable terms -/

/-- The datatypes whose values are sorted. -/
def Datatype.isSortable : Datatype → Bool
  | .string | .boolean | .decimal | .integer _ => true
  | _ => false

/-- The term is not of a datatype whose values are numbers in binary floating point, points in time
or durations. -/
def Term.isSortable : Term → Bool
  | .literal l => l.datatype?.all Datatype.isSortable
  | _ => true

theorem Datatype.isSortable_of_parse? {d : Datatype} {lexical : String} {v : Value}
    (hd : d.isSortable = true) (h : d.parse? lexical = some v) : v.isSortable = true := by
  cases d with
  | string =>
      obtain rfl := Option.some.inj h
      rfl
  | boolean | decimal | integer _ =>
      obtain ⟨w, -, rfl⟩ := Option.map_eq_some_iff.mp h
      rfl
  | _ => cases hd

theorem Term.isSortable_value {t : Term} (h : t.isSortable = true) : t.value.isSortable = true := by
  cases t with
  | iri _ | blank _ => rfl
  | literal l =>
      show l.value.isSortable = true
      by_cases hother : l.value = .other l
      · rw [hother]
        rfl
      · rcases Literal.decoded_cases hother with ⟨tag, htag⟩ | ⟨d, hiri, hparse⟩
        · simp [Literal.value, htag, Value.isSortable]
        · have hd : d.isSortable = true := by
            simpa [isSortable, Literal.datatype?_eq_some hiri] using h
          exact Datatype.isSortable_of_parse? hd hparse

/-! ## Equal terms -/

/-- Two literals are decoded to values that are in order with each other. -/
structure Literal.SameValue (l m : Literal) : Prop where
  left : l.value ≠ .other l
  right : m.value ≠ .other m
  within : Value.Within l.value m.value .eq

/-- What stands for itself has an order with such literals only. -/
theorem Value.exists_other_of_compareLiterals? {l : Literal} {v : Value} {o : Ordering}
    (h : (Value.other l).compareLiterals? v = some o) : ∃ m, v = .other m := by
  cases v with
  | other m => exact ⟨m, rfl⟩
  | _ => cases h

variable {a b c : Term} {l m : Literal}

/-- Literals that have an order are both decoded, or both stand for themselves. -/
theorem decoded_of_compareLiterals? (hothers : ¬ (l.value = .other l ∧ m.value = .other m))
    {o : Ordering} (h : l.value.compareLiterals? m.value = some o) : l.value ≠ .other l := by
  intro hl
  rw [hl] at h
  obtain ⟨x, hx⟩ := Value.exists_other_of_compareLiterals? h
  obtain ⟨rfl, -⟩ := Literal.self_of_value_other hx
  exact hothers ⟨hl, hx⟩

theorem Literal.sameValue_of_compareLiterals? (hl : l.value.isSortable = true)
    (hm : m.value.isSortable = true) (hothers : ¬ (l.value = .other l ∧ m.value = .other m))
    (h : l.value.compareLiterals? m.value = some .eq) : l.SameValue m where
  left := decoded_of_compareLiterals? hothers h
  right := by
    refine decoded_of_compareLiterals? (fun hboth => hothers hboth.symm) (o := .eq) ?_
    rw [Value.compareLiterals?_swap l.value m.value, h]
    rfl
  within := by
    have hplace : l.value.place = m.value.place := by
      rw [Value.isLiteral_iff_place.mp l.isLiteral_value,
        Value.isLiteral_iff_place.mp m.isLiteral_value]
    rw [← Value.compare?_of_literals l.isLiteral_value m.isLiteral_value] at h
    exact Value.within_of_compare? hl hm hplace h

/-- **EQUAL TERMS** are one term, or decoded to values in order with each other. -/
theorem equal_cases (ha : a.isSortable = true) (hb : b.isSortable = true)
    (h : equalTerms a b = .ok true) :
    a = b ∨ ∃ l m, a = .literal l ∧ b = .literal m ∧ l.SameValue m := by
  by_cases hliterals : a.isLiteral = true ∧ b.isLiteral = true
  · cases a with
    | iri _ | blank _ => cases hliterals.1
    | literal l =>
        cases b with
        | iri _ | blank _ => cases hliterals.2
        | literal m =>
            by_cases hothers : l.value = .other l ∧ m.value = .other m
            · -- literals that stand for themselves are undecided unless they are one
              rw [equalTerms_others hothers.1 hothers.2] at h
              by_cases hsame : l = m
              · exact Or.inl (congrArg Term.literal hsame)
              · rw [if_neg hsame] at h
                split at h <;> cases h
            · rw [equalTerms_decoded hothers] at h
              have horder : l.value.compareLiterals? m.value = some .eq :=
                beq_iff_eq.mp (Except.ok.inj h)
              exact Or.inr ⟨l, m, rfl, rfl, Literal.sameValue_of_compareLiterals?
                (Term.isSortable_value ha) (Term.isSortable_value hb) hothers horder⟩
  · rw [equalTerms_of_not_literals hliterals] at h
    exact Or.inl (beq_iff_eq.mp (Except.ok.inj h))

/-! ## What equal values have in common -/

/-- An exact number is true unless it is zero. -/
theorem Numeric.HasValue.truth {x : Numeric} {kind : ExactKind} {q : Rat} (h : x.HasValue kind q) :
    (!x.isNaN && !x.isZero) = !decide (q = 0) := by
  have hnumber : x.isNaN = false := by
    cases h <;> rfl
  have hzero : x.isZero = decide (q = 0) := by
    rw [Bool.eq_iff_iff, decide_eq_true_iff]
    exact h.isZero_iff
  rw [hnumber, hzero]
  rfl

namespace Literal.SameValue

/-- **ONE TRUTH VALUE.** -/
theorem truth (h : l.SameValue m) :
    effectiveBooleanValue (.literal l) = effectiveBooleanValue (.literal m) := by
  obtain ⟨hleft, -, hwithin⟩ := h
  have hliteral := l.isLiteral_value
  have hother : ∀ x, l.value ≠ .other x := by
    intro x hx
    obtain ⟨rfl, -⟩ := Literal.self_of_value_other hx
    exact hleft hx
  simp only [effectiveBooleanValue, Term.value]
  generalize l.value = v at hother hwithin hliteral ⊢
  generalize m.value = w at hwithin ⊢
  cases hwithin with
  | blank _ | iri _ => cases hliteral
  | boolean horder =>
      obtain rfl := Std.LawfulEqCmp.eq_of_compare horder
      rfl
  | numeric hx hy horder =>
      obtain rfl := compare_eq_iff_eq.mp horder
      exact congrArg Except.ok (hx.truth.trans hy.truth.symm)
  | simple horder | tagged horder =>
      obtain rfl := Std.LawfulEqCmp.eq_of_compare horder
      rfl
  | other hiri htext => exact absurd rfl (hother _)

/-- The values compare alike with those of each third literal. -/
theorem compareLiterals? (h : l.SameValue m) (hl : l.value.isSortable = true)
    (hm : m.value.isSortable = true) {n : Literal} (hn : n.value.isSortable = true) :
    l.value.compareLiterals? n.value = m.value.compareLiterals? n.value := by
  have hcongr := Value.sorts_compare?.congr_left hl hm hn h.within.compare?
  rwa [Value.compare?_of_literals l.isLiteral_value n.isLiteral_value,
    Value.compare?_of_literals m.isLiteral_value n.isLiteral_value] at hcongr

/-- **ONE ORDER** with each third term. -/
theorem termOrder_eq (h : l.SameValue m) (hl : l.value.isSortable = true)
    (hm : m.value.isSortable = true) (hc : c.isSortable = true) :
    termOrder (.literal l) c = termOrder (.literal m) c := by
  cases c with
  | iri _ | blank _ => rfl
  | literal n =>
      have hordered := Literal.isOrdered_of_value_ne_other h.left
      have hordered' := Literal.isOrdered_of_value_ne_other h.right
      have hcompare := h.compareLiterals? hl hm (Term.isSortable_value hc)
      simp only [termOrder, hordered, hordered', hcompare, Bool.true_or]

/-- Both are equal to the same terms. -/
theorem equalTerms_eq (h : l.SameValue m) (hl : l.value.isSortable = true)
    (hm : m.value.isSortable = true) (hc : c.isSortable = true) :
    equalTerms (.literal l) c = equalTerms (.literal m) c := by
  cases c with
  | iri _ | blank _ =>
      rw [equalTerms_of_not_literals (by simp [Term.isLiteral]),
        equalTerms_of_not_literals (by simp [Term.isLiteral])]
      rfl
  | literal n =>
      rw [equalTerms_decoded fun hothers => h.left hothers.1,
        equalTerms_decoded fun hothers => h.right hothers.1,
        h.compareLiterals? hl hm (Term.isSortable_value hc)]

end Literal.SameValue

/-! ## Comparisons -/

theorem EvalResult.outcome_map {α β : Type} (f : α → β) (r : EvalResult α) :
    EvalResult.outcome (r.map f) = r.outcome.map f := by
  cases r <;> rfl

/-- All operators tell the same of terms with one order that are equal to the same. -/
theorem outcome_holds_congr (horder : termOrder a c = termOrder b c)
    (hequal : equalTerms a c = equalTerms b c) (op : ComparisonOperator) :
    (holds op a c).outcome = (holds op b c).outcome := by
  have horders : (orderTerms op a c).outcome = (orderTerms op b c).outcome := by
    rw [outcome_orderTerms, outcome_orderTerms, horder]
  cases op with
  | equal => exact congrArg EvalResult.outcome hequal
  | notEqual => exact congrArg (fun r : EvalResult Bool => EvalResult.outcome (r.map not)) hequal
  | _ => exact horders

/-- The operator that says the same from the other side. -/
def ComparisonOperator.mirrored : ComparisonOperator → ComparisonOperator
  | .equal => .equal
  | .notEqual => .notEqual
  | .less => .greater
  | .greater => .less
  | .lessOrEqual => .greaterOrEqual
  | .greaterOrEqual => .lessOrEqual

/-- **MIRRORS**: a comparison is read from the other side. -/
theorem outcome_holds_mirrored (op : ComparisonOperator) (a b : Term) :
    (holds op a b).outcome = (holds op.mirrored b a).outcome := by
  cases op with
  | equal => exact outcome_equalTerms_swap a b
  | notEqual =>
      show EvalResult.outcome ((equalTerms a b).map not) =
        EvalResult.outcome ((equalTerms b a).map not)
      rw [EvalResult.outcome_map, EvalResult.outcome_map, outcome_equalTerms_swap]
  | _ => exact outcome_orderTerms_swap (by decide) a b

/-- **EQUAL TERMS STAND FOR EACH OTHER**: terms that are equal have the same truth value or both have
none, and compare alike with every third term, on either side and by all six operators; errors are
of one kind. -/
theorem equal_terms_compare_alike (ha : a.isSortable = true) (hb : b.isSortable = true)
    (hc : c.isSortable = true) (h : holds .equal a b = .ok true) :
    (effectiveBooleanValue a).outcome = (effectiveBooleanValue b).outcome ∧
      ∀ op, (holds op a c).outcome = (holds op b c).outcome ∧
        (holds op c a).outcome = (holds op c b).outcome := by
  rcases equal_cases ha hb h with rfl | ⟨l, m, rfl, rfl, hsame⟩
  · exact ⟨rfl, fun op => ⟨rfl, rfl⟩⟩
  · have hl := Term.isSortable_value ha
    have hm := Term.isSortable_value hb
    have hleft : ∀ op, (holds op (.literal l) c).outcome = (holds op (.literal m) c).outcome :=
      outcome_holds_congr (hsame.termOrder_eq hl hm hc) (hsame.equalTerms_eq hl hm hc)
    refine ⟨congrArg EvalResult.outcome hsame.truth, fun op => ⟨hleft op, ?_⟩⟩
    rw [outcome_holds_mirrored, outcome_holds_mirrored op c, hleft]

/-- A byte with a leading zero and a decimal with places are one number, also for an ill-typed
literal. -/
theorem equal_terms_compare_alike_for_one :
    let one := Term.literal (.typed "01" (Datatype.integer .byte).iri)
    let same := Term.literal (.typed "1.0" Datatype.decimal.iri)
    let illTyped := Term.literal (.typed "one" (Datatype.integer .integer).iri)
    one.isSortable = true ∧ same.isSortable = true ∧ illTyped.isSortable = true ∧
      holds .equal one same = .ok true ∧
      (effectiveBooleanValue same).outcome = .ok true ∧
      (holds .less illTyped same).outcome = .error .type ∧
      (holds .notEqual same illTyped).outcome = .ok true := by
  intro one same illTyped
  have hequal : holds .equal one same = .ok true := by rfl
  obtain ⟨htruth, hcompare⟩ :=
    equal_terms_compare_alike (a := one) (b := same) (c := illTyped) rfl rfl rfl hequal
  exact ⟨rfl, rfl, rfl, hequal, htruth.symm, (hcompare .less).2.symm, (hcompare .notEqual).1.symm⟩

end SparqlScalar
