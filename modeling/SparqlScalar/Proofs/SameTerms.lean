import SparqlScalar.Proofs.Comparisons
import SparqlScalar.Proofs.Outcomes

/-!
# Terms that are the same

    Two terms may be the same and still not be equal: a language tag names its language in any case,
    and so sameness reads it, but equality asks for one spelling.

      sameness    -- the same terms are one term, or one text whose tag is spelled in two ways
                     (`sameTerm_iff`)
      values      -- a value is in order with itself, but for what is not a number and for durations,
                     which may lead beyond the last day (`Value.compareLiterals?_self`)
      equality    -- so a term equals itself (`equalTerms_self`), and not its other spellings
                     (`equalTerms_of_respelled`)
      membership  -- and is found or missed among candidates accordingly (`sameTerm_equal_iff`)
-/

namespace SparqlScalar

/-! ## Sameness -/

/-- The terms are one text with a language tag that is spelled in two ways. -/
def Term.Respelled (a b : Term) : Prop :=
  ∃ text s t, a = .literal (.tagged text s) ∧ b = .literal (.tagged text t) ∧ s ≠ t ∧
    sameIgnoringCase s t = true

variable {a b : Term}

theorem Term.Respelled.ne (h : a.Respelled b) : a ≠ b := by
  obtain ⟨text, s, t, rfl, rfl, hne, -⟩ := h
  intro heq
  cases heq
  exact hne rfl

theorem sameTerm_self (a : Term) : sameTerm a a = true := by
  simp only [sameTerm]
  split
  · exact Bool.and_eq_true_iff.mpr ⟨beq_self_eq_true _, beq_self_eq_true _⟩
  · exact beq_self_eq_true a

/-- The same terms are one term, or spellings of one. -/
theorem sameTerm_iff : sameTerm a b = true ↔ a = b ∨ a.Respelled b := by
  constructor
  · intro h
    simp only [sameTerm] at h
    split at h
    · rename_i text s text' t
      obtain ⟨htext, htags⟩ := Bool.and_eq_true_iff.mp h
      obtain rfl := beq_iff_eq.mp htext
      by_cases hspelling : s = t
      · exact Or.inl (by rw [hspelling])
      · exact Or.inr ⟨text, s, t, rfl, rfl, hspelling, htags⟩
    · exact Or.inl (beq_iff_eq.mp h)
  · rintro (rfl | ⟨text, s, t, rfl, rfl, -, htags⟩)
    · exact sameTerm_self a
    · exact Bool.and_eq_true_iff.mpr ⟨beq_self_eq_true text, htags⟩

/-! ## Values -/

namespace Value

/-- The value is in order with itself: it is not one of those that are not a number, nor a duration
of months and seconds, which is compared by where it leads. -/
def isComparable : Value → Bool
  | .numeric n => !n.isNaN
  | .duration _ => false
  | _ => true

end Value

theorem Binary.compare?_self {f : BinaryFormat} {x : Binary f} (h : x.isNaN = false) :
    x.compare? x = some .eq := by
  cases x with
  | nan => cases h
  | infinite s => exact congrArg some Std.ReflCmp.compare_self
  | finite s m e hcanonical => exact congrArg some Std.ReflCmp.compare_self

theorem Numeric.compare?_self {n : Numeric} (h : n.isNaN = false) : n.compare? n = some .eq := by
  cases n with
  | integer x => exact congrArg some Std.ReflCmp.compare_self
  | decimal x => exact congrArg some Std.ReflCmp.compare_self
  | float x => exact Binary.compare?_self h
  | double x => exact Binary.compare?_self h

theorem Instant.compare?_self (i : Instant) : i.compare? i = some .eq := by
  simp only [compare?]
  cases i.zone with
  | none => exact congrArg some Std.ReflCmp.compare_self
  | some z => exact congrArg some Std.ReflCmp.compare_self

/-- **IN ORDER WITH ITSELF.** -/
theorem Value.compareLiterals?_self {v : Value} (hliteral : v.isLiteral = true)
    (h : v.isComparable = true) : v.compareLiterals? v = some .eq := by
  cases v with
  | iri _ | blank _ => cases hliteral
  | boolean _ | simple _ | yearMonthDuration _ | dayTimeDuration _ =>
      exact congrArg some Std.ReflCmp.compare_self
  | numeric n => exact Numeric.compare?_self ((Bool.not_eq_true' n.isNaN).mp h)
  | tagged text tag => exact (if_pos rfl).trans (congrArg some Std.ReflCmp.compare_self)
  | dateTime x | time x | date x => exact x.instant.compare?_self
  | duration _ => cases h
  | other l => exact if_pos ⟨rfl, rfl⟩

/-! ## Equality -/

/-- A term with a comparable value equals itself. -/
theorem equalTerms_self (h : a.value.isComparable = true) : equalTerms a a = .ok true := by
  cases a with
  | iri _ | blank _ =>
      rw [equalTerms_of_not_literals (by simp [Term.isLiteral]), beq_self_eq_true]
  | literal l =>
      by_cases hother : l.value = .other l
      · rw [equalTerms_others hother hother, if_pos rfl]
      · rw [equalTerms_decoded fun hothers => hother hothers.1,
          Value.compareLiterals?_self l.isLiteral_value h]
        rfl

/-- A term does not equal its other spellings. -/
theorem equalTerms_of_respelled (h : a.Respelled b) : equalTerms a b = .ok false := by
  obtain ⟨text, s, t, rfl, rfl, hne, -⟩ := h
  have horder : (Literal.tagged text s).value.compareLiterals? (Literal.tagged text t).value =
      none := if_neg hne
  rw [equalTerms_decoded (by rintro ⟨hself, -⟩; cases hself), horder]
  rfl

/-- **SAME TERMS AND EQUALITY**: terms that are the same, and whose value is comparable, are equal
exactly if they are one term, and are found among candidates alike.  Otherwise they are one text
whose tag is spelled in two ways. -/
theorem sameTerm_equal_iff (hsame : sameTerm a b = true) (ha : a.value.isComparable = true) :
    holds .equal a b = .ok (decide (a = b)) ∧
      membership (m := Id) a [.ok b] = .ok (decide (a = b)) ∧
      (a = b → ∀ candidates : List (EvalResult Term), .ok b ∈ candidates →
        membership (m := Id) a candidates = .ok true) ∧
      (a ≠ b ↔ a.Respelled b) := by
  rcases sameTerm_iff.mp hsame with rfl | hspelled
  · have hequal := equalTerms_self ha
    refine ⟨?_, ?_, fun _ candidates hmem => anyOf_of_passes hmem hequal, ?_⟩
    · rw [decide_eq_true rfl]
      exact hequal
    · rw [decide_eq_true rfl]
      exact anyOf_of_passes List.mem_cons_self hequal
    · exact ⟨fun hne => absurd rfl hne, Term.Respelled.ne⟩
  · have hequal := equalTerms_of_respelled hspelled
    refine ⟨?_, ?_, fun heq => absurd heq hspelled.ne, fun _ => hspelled, Term.Respelled.ne⟩
    · rw [decide_eq_false hspelled.ne]
      exact hequal
    · rw [decide_eq_false hspelled.ne]
      exact anyFrom_false (r := .ok b) hequal

/-- A decimal is found among candidates, past a failure. -/
theorem sameTerm_equal_iff_for_decimal :
    let half := Term.literal (.typed "0.50" Datatype.decimal.iri)
    sameTerm half half = true ∧ half.value.isComparable = true ∧ holds .equal half half = .ok true ∧
      membership (m := Id) half [.error (.unbound "x"), .ok half] = .ok true := by
  have hcomparable : (Term.literal (.typed "0.50" Datatype.decimal.iri)).value.isComparable = true :=
    by rfl
  obtain ⟨hequal, -, hmember, -⟩ := sameTerm_equal_iff (sameTerm_self _) hcomparable
  exact ⟨sameTerm_self _, hcomparable, hequal,
    hmember rfl [.error (.unbound "x"), .ok _] (by simp)⟩

/-- Terms that are the same need not be equal: a tag may be written in upper case. -/
theorem sameTerm_without_equality :
    ¬ ∀ a b : Term, sameTerm a b = true → a.value.isComparable = true →
      b.value.isComparable = true → holds .equal a b = .ok true := by
  intro hclaim
  have hequal := hclaim (.literal (.tagged "x" "en")) (.literal (.tagged "x" "EN")) (by decide) rfl rfl
  have hdifferent : holds .equal (.literal (.tagged "x" "en")) (.literal (.tagged "x" "EN")) =
      .ok false := rfl
  rw [hdifferent] at hequal
  cases hequal

end SparqlScalar
