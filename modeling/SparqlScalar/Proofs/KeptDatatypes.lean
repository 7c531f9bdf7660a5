import Mathlib.Order.Bounds.Basic
import SparqlScalar.Proofs.DecodedIntegers
import SparqlScalar.Proofs.Rounding

/-!
# Functions that keep the datatype of their operand

    Magnitude, ceiling, floor and rounding compute in the wide kind of their operand, and write the
    result in its narrow datatype.  The result is well-typed where the datatype contains it:

      results    -- the results are the magnitude, the least whole number above, the greatest one
                    below and the nearest one (`NumericFunction.gives_exact`)
      whole      -- a whole number is its own ceiling, floor and nearest number, so these never
                    leave its datatype (`NumericFunction.exact_intCast`)
      magnitude  -- the magnitude leaves the datatypes that reach farther below zero than above it
                    (`IntegerType.contains_abs_iff`)
      literals   -- so the result is read again as what it is, unless it is one of those magnitudes,
                    which stand for themselves (`NumericFunction.denotes_of_apply`)
-/

namespace SparqlScalar

/-! ## Results -/

namespace NumericFunction

/-- What the functions are on rational numbers, told without computing it. -/
def Gives : NumericFunction → Rat → Rat → Prop
  | .abs, q, r => r = |q|
  | .ceil, q, r => ∃ n : Int, r = n ∧ IsLeast {m : Int | q ≤ m} n
  | .floor, q, r => ∃ n : Int, r = n ∧ IsGreatest {m : Int | (m : Rat) ≤ q} n
  | .round, q, r => ∃ n : Int, r = n ∧ IsNearest q n

theorem gives_exact (f : NumericFunction) (q : Rat) : f.Gives q (f.exact q) := by
  cases f with
  | abs => rfl
  | ceil => exact ⟨⌈q⌉, rfl, Int.le_ceil q, fun m hm => Int.ceil_le.mpr hm⟩
  | floor => exact ⟨⌊q⌋, rfl, Int.floor_le q, fun m hm => Int.le_floor.mpr hm⟩
  | round => exact ⟨roundAway q, rfl, isNearest_roundAway q⟩

/-- Only the magnitude of a whole number can be another number. -/
theorem exact_intCast {f : NumericFunction} (h : f ≠ .abs) (n : Int) : f.exact n = n := by
  cases f with
  | abs => exact absurd rfl h
  | ceil => exact congrArg Int.cast (Int.ceil_intCast n)
  | floor => exact congrArg Int.cast (Int.floor_intCast n)
  | round => exact congrArg Int.cast (roundAway_intCast n)

end NumericFunction

/-! ## Magnitudes -/

namespace IntegerType

/-- Of the numbers in the range of the datatype, those whose magnitude is not in it. -/
def LosesMagnitude : IntegerType → Int → Prop
  | .byte, k => k = -2 ^ 7
  | .short, k => k = -2 ^ 15
  | .int, k => k = -2 ^ 31
  | .negativeInteger, _ => True
  | .nonPositiveInteger, k => k ≠ 0
  | _, _ => False

/-- **MAGNITUDES STAY IN THE DATATYPE** where they fit a word, with the exception of the least
numbers of the narrow datatypes and of numbers below zero where there are none above it. -/
theorem contains_abs_iff {type : IntegerType} {k : Int} (h : type.Contains k)
    (hfits : |k| < 2 ^ 63) : type.Contains |k| ↔ ¬ type.LosesMagnitude k := by
  rw [Int.abs_eq_natAbs] at hfits ⊢
  cases type <;>
    simp only [Contains, LosesMagnitude, not_true, not_false_iff, iff_true, iff_false] at h ⊢ <;>
    omega

end IntegerType

/-- Of all results only the magnitude of a whole number can leave the datatype. -/
theorem NumericFunction.contains_iff {f : NumericFunction} {type : IntegerType} {k : Int}
    {a : Integer} (h : type.Contains k) (ha : a.toRat = f.exact k) :
    type.Contains a.toInt ↔ ¬ (f = .abs ∧ type.LosesMagnitude k) := by
  by_cases hf : f = .abs
  · subst hf
    have habs : a.toInt = |k| := Int.cast_injective (ha.trans Int.cast_abs.symm)
    have hupper := a.upper
    rw [habs] at hupper ⊢
    rw [IntegerType.contains_abs_iff h hupper, eq_self_iff_true, true_and]
  · have hsame : a.toInt = k := Int.cast_injective (ha.trans (exact_intCast hf k))
    rw [hsame]
    exact iff_of_true h fun hloses => hf hloses.1

/-! ## Literals -/

namespace Literal

/-- The literal is well-typed, decoded and tested as the number. -/
structure ReadsAs (l : Literal) (kind : ExactKind) (q : Rat) : Prop where
  denotes : l.Denotes kind q
  decoded : ∃ x : Numeric, l.value = .numeric x ∧ x.HasValue kind q
  isNumeric : isNumericTerm (.literal l) = .ok (Term.ofBool true)

theorem Denotes.readsAs {l : Literal} {kind : ExactKind} {q : Rat} (h : l.Denotes kind q) :
    l.ReadsAs kind q := by
  obtain ⟨number, hnumeric, -⟩ := ExactOperand.numeric_term ⟨l, kind, q, h⟩
  refine ⟨h, h.value, ?_⟩
  rw [isNumericTerm, show (Term.literal l).numeric = .ok number from hnumeric]
  rfl

end Literal

/-- An integer outside the range of a datatype is not decoded in it. -/
theorem Integer.value_toLiteralOf {type : IntegerType} {a : Integer}
    (h : ¬ type.Contains a.toInt) :
    let l := (Numeric.integer a).toLiteralOf (Datatype.integer type).iri
    l.value = .other l := by
  intro l
  by_contra hdecoded
  obtain ⟨v, hv⟩ := Literal.exists_integer rfl hdecoded
  have hwrites : l.Writes a.toRat :=
    ⟨a.numeral, a.text_numeral.trans String.toList_ofList.symm, a.value_numeral⟩
  have hsame : a.toInt = v := Int.cast_injective (hv.writes_iff.mp hwrites)
  obtain ⟨-, -, hrange⟩ := (Literal.denotes_integer_iff rfl).mp hv
  rw [hsame, type.contains_iff_inRange] at h
  exact h hrange

namespace NumericFunction

variable {f : NumericFunction} {x : ExactOperand}

/-- The function is the magnitude, and takes the number out of the datatype of the operand. -/
def LosesMagnitude (f : NumericFunction) (x : ExactOperand) : Prop :=
  f = .abs ∧ ∃ (type : IntegerType) (k : Int),
    x.literal.datatype? = some (.integer type) ∧ x.value = k ∧ type.LosesMagnitude k

theorem losesMagnitude_iff {type : IntegerType} {k : Int}
    (hdatatype : x.literal.annotation = .datatype (Datatype.integer type).iri)
    (hvalue : x.value = k) :
    f.LosesMagnitude x ↔ f = .abs ∧ type.LosesMagnitude k := by
  refine and_congr_right fun _ => ⟨?_, fun h => ?_⟩
  · rintro ⟨type', k', hdatatype', hvalue', h⟩
    rw [Literal.datatype?_eq_some hdatatype] at hdatatype'
    obtain rfl := Datatype.integer.inj (Option.some.inj hdatatype')
    obtain rfl : k = k' := Int.cast_injective (hvalue.symm.trans hvalue')
    exact h
  · exact ⟨type, k, Literal.datatype?_eq_some hdatatype, hvalue, h⟩

theorem not_losesMagnitude_of_decimal
    (hdatatype : x.literal.annotation = .datatype Datatype.decimal.iri) :
    ¬ f.LosesMagnitude x := by
  rintro ⟨-, type, k, hdatatype', -⟩
  rw [Literal.datatype?_eq_some hdatatype] at hdatatype'
  cases hdatatype'

/-- A result is well-typed in the datatype of the operand, or is not decoded there. -/
theorem denotes_of_apply {result : Numeric} (h : result.HasValue x.kind (f.exact x.value)) :
    let l := result.toLiteralOf x.literal.datatypeIri
    (¬ f.LosesMagnitude x → l.Denotes x.kind (f.exact x.value)) ∧
      (f.LosesMagnitude x → l.value = .other l) := by
  rcases x.datatype_cases with ⟨hkind, hdatatype⟩ | ⟨type, k, hkind, hvalue, hdatatype, hrange⟩
  · have hiri : x.literal.datatypeIri = ExactKind.decimal.datatype.iri :=
      Literal.datatypeIri_eq hdatatype
    rw [hkind] at h ⊢
    rw [hiri, h.toLiteralOf_datatype]
    exact ⟨fun _ => h.toLiteral.2,
      fun hloses => absurd hloses (not_losesMagnitude_of_decimal hdatatype)⟩
  · rw [hkind, hvalue] at h ⊢
    rw [Literal.datatypeIri_eq hdatatype, losesMagnitude_iff hdatatype hvalue]
    generalize hr : f.exact k = r at h ⊢
    cases h with
    | integer a =>
        have hcontains := contains_iff hrange hr.symm
        exact ⟨fun hkept => (ExactOperand.ofInteger type a (hcontains.mpr hkept)).denotes,
          fun hloses => a.value_toLiteralOf fun hkept => hcontains.mp hkept hloses⟩

end NumericFunction

/-- **THE DATATYPE IS KEPT**: the magnitude, the ceiling, the floor and the nearest whole number of
a well-typed literal are written in its datatype, unless they overflow because the result does not
fit a word.  The literal that is written is well-typed, except where the datatype reaches farther
below zero than above it and the magnitude leaves it: that one stands for itself and is no
number. -/
theorem kept_datatype (f : NumericFunction) (x : ExactOperand) :
    ∃ r : Rat, f.Gives x.value r ∧
      ((∃ l : Literal, f.apply x.term = .ok (.literal l) ∧
          l.annotation = x.literal.annotation ∧ l.Writes r ∧
          (¬ f.LosesMagnitude x → l.ReadsAs x.kind r) ∧
          (f.LosesMagnitude x → l.value = .other l ∧
            isNumericTerm (.literal l) = .ok (Term.ofBool false))) ∨
        (f.apply x.term = evaluationError .numericOverflow ∧ ¬ x.kind.Holds r)) := by
  refine ⟨f.exact x.value, f.gives_exact x.value, ?_⟩
  rcases f.apply_operand x with ⟨result, hresult, hrun⟩ | hoverflow
  · obtain ⟨hkept, hlost⟩ := NumericFunction.denotes_of_apply hresult
    have hannotation : .datatype x.literal.datatypeIri = x.literal.annotation := by
      rcases x.datatype_cases with ⟨-, hdatatype⟩ | ⟨type, k, -, -, hdatatype, -⟩
      · rw [Literal.datatypeIri_eq hdatatype, hdatatype]
      · rw [Literal.datatypeIri_eq hdatatype, hdatatype]
    exact Or.inl ⟨_, hrun, hannotation, hresult.toLiteral.2.writes,
      fun h => (hkept h).readsAs,
      fun h => ⟨hlost h, (Term.isRefused_of_value_other (hlost h)).isNumeric⟩⟩
  · exact Or.inr hoverflow

/-- The magnitude of the least byte is written as a byte, and is no number. -/
theorem magnitude_of_least_byte :
    ¬ ∀ (f : NumericFunction) (x : ExactOperand) (l : Literal),
      f.apply x.term = .ok (.literal l) →
        isNumericTerm (.literal l) = .ok (Term.ofBool true) := by
  intro hclaim
  let least := ExactOperand.ofInteger .byte ⟨-128, by decide, by decide⟩ (by decide)
  let written := Literal.typed "128" (Datatype.integer .byte).iri
  have hrun : NumericFunction.abs.apply least.term = .ok (.literal written) := by decide
  have hrefused : isNumericTerm (.literal written) ≠ .ok (Term.ofBool true) := by decide
  exact hrefused (hclaim .abs least written hrun)

end SparqlScalar
