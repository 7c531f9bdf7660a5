import SparqlScalar.Proofs.DecimalQuotients
import SparqlScalar.Proofs.ProductChains

/-!
# Quotients of exact numbers

    A quotient of two well-typed integers or decimals is a decimal, the rational quotient with all
    places after the eighteenth cut off:

      operands  -- two operands are divided as decimals, unless the divisor is zero
                   (`quotient_operands`)
      decimals  -- where the points have room, the quotient is cut off or does not fit; where they
                   have none, it is an overflow whatever its size (`quotient_of_scalable`,
                   `quotient_of_not_scalable`)
      integers  -- integers always have room, and their quotients always fit
                   (`Scalable.of_integers`, `holds_cutOff_of_integers`)

    Room is what decimals can lack: `scaling_refuses_zero` shows that zero is not divided by a half.
-/

namespace SparqlScalar

open AdditiveOperator (Exactly exactly_decimal)
open Decimal (Scalable Fits div?_eq places_le_of_fits holds_iff_fits)

/-! ## Operands -/

/-- Two numbers are divided as decimals of their values. -/
theorem Numeric.div?_decimals {x y : Numeric} {kind kind' : ExactKind} {p q : Rat}
    (hx : x.HasValue kind p) (hy : y.HasValue kind' q) :
    ∃ a b : Decimal, a.toRat = p ∧ b.toRat = q ∧ x.div? y = (a.div? b).map .decimal := by
  have hpair := promote_hasValue hx hy
  generalize kind.join kind' = wider at hpair
  unfold div?
  generalize promote x y = pair at hpair ⊢
  cases hpair with
  | integer a b => exact ⟨a.toDecimal, b.toDecimal, a.toRat_toDecimal, b.toRat_toDecimal, rfl⟩
  | decimal a b => exact ⟨a, b, rfl, rfl, rfl⟩

/-- Operands are divided as decimals, unless the divisor is zero. -/
theorem quotient_operands (a b : ExactOperand) :
    ∃ x y : Decimal, x.toRat = a.value ∧ y.toRat = b.value ∧
      multiplicativeChain a.term [(.divide, b.term)] =
        if b.value = 0 then evaluationError .divideByZero
        else (orOverflow ((x.div? y).map Numeric.decimal)).map fun z => .literal z.toLiteral := by
  obtain ⟨m, n, hm, hn, hrun⟩ := withNumbers_operands
    (fun m n => if n.isZero then evaluationError .divideByZero else orOverflow (m.div? n)) a b
  obtain ⟨x, y, hx, hy, hdiv⟩ := Numeric.div?_decimals hm hn
  refine ⟨x, y, hx, hy, ?_⟩
  have hchain : multiplicativeChain a.term [(.divide, b.term)] =
      quotient a.term b.term >>= Except.ok := by
    unfold multiplicativeChain
    rw [numericChain_operand]
    rfl
  rw [hchain, show quotient a.term b.term = _ from hrun]
  by_cases hzero : b.value = 0
  · rw [if_pos hzero, if_pos (hn.isZero_iff.mpr hzero)]
    rfl
  · rw [if_neg hzero, if_neg (mt hn.isZero_iff.mp hzero), hdiv]
    exact bind_pure _

/-- Operands with room have their rational quotient, cut off, if it fits. -/
theorem quotient_of_scalable {a b : ExactOperand} (hb : b.value ≠ 0)
    (h : Scalable a.value b.value) :
    (ExactKind.decimal.Holds (cutOff (a.value / b.value)) →
        ∃ l : Literal, multiplicativeChain a.term [(.divide, b.term)] = .ok (.literal l) ∧
          l.IsCanonical .decimal (cutOff (a.value / b.value))) ∧
      (¬ ExactKind.decimal.Holds (cutOff (a.value / b.value)) →
        multiplicativeChain a.term [(.divide, b.term)] = evaluationError .numericOverflow) := by
  obtain ⟨x, y, hx, hy, hrun⟩ := quotient_operands a b
  rw [← hx, ← hy] at h ⊢
  rw [← hy] at hb hrun
  rw [if_neg hb, (div?_eq hb).1 h] at hrun
  have hexact : Exactly ((Decimal.ofUnits? _).map .decimal) .decimal (cutOff (x.toRat / y.toRat)) :=
    exactly_decimal rfl
  rw [hrun]
  rcases hexact.written fun z => .literal z.toLiteral with ⟨z, hz, hwritten⟩ | ⟨hoverflow, hnone⟩
  · exact ⟨fun _ => ⟨_, hwritten, hz.toLiteral.1⟩, fun hnot => absurd hz.holds hnot⟩
  · exact ⟨fun hfits => absurd hfits hnone, fun _ => hoverflow⟩

theorem quotient_of_not_scalable {a b : ExactOperand} (hb : b.value ≠ 0)
    (h : ¬ Scalable a.value b.value) :
    multiplicativeChain a.term [(.divide, b.term)] = evaluationError .numericOverflow := by
  obtain ⟨x, y, hx, hy, hrun⟩ := quotient_operands a b
  rw [← hx, ← hy] at h
  rw [← hy] at hb hrun
  rw [if_neg hb, (div?_eq hb).2 h] at hrun
  exact hrun

/-- **QUOTIENTS ARE CUT OFF WHERE THERE IS ROOM**: a division fails for its divisor exactly if that
is zero.  Otherwise, operands whose points have room have the canonical decimal of the rational
quotient, cut off after eighteen places, or overflow because that does not fit, and operands whose
points have none always overflow. -/
theorem quotient_exact_where_scalable (a b : ExactOperand) :
    (multiplicativeChain a.term [(.divide, b.term)] = evaluationError .divideByZero ↔
        b.value = 0) ∧
      (b.value ≠ 0 → Scalable a.value b.value →
        (ExactKind.decimal.Holds (cutOff (a.value / b.value)) →
            ∃ l : Literal, multiplicativeChain a.term [(.divide, b.term)] = .ok (.literal l) ∧
              l.IsCanonical .decimal (cutOff (a.value / b.value))) ∧
          (¬ ExactKind.decimal.Holds (cutOff (a.value / b.value)) →
            multiplicativeChain a.term [(.divide, b.term)] = evaluationError .numericOverflow)) ∧
      (b.value ≠ 0 → ¬ Scalable a.value b.value →
        multiplicativeChain a.term [(.divide, b.term)] = evaluationError .numericOverflow) ∧
      EvaluationCause.divideByZero.message = "divide by zero" ∧
      EvaluationCause.numericOverflow.message = "numeric overflow" := by
  refine ⟨⟨fun hfails => ?_, fun hzero => ?_⟩, quotient_of_scalable, quotient_of_not_scalable, rfl,
    rfl⟩
  · by_contra hb
    by_cases hscalable : Scalable a.value b.value
    · obtain ⟨hfits, hnot⟩ := quotient_of_scalable hb hscalable
      by_cases hholds : ExactKind.decimal.Holds (cutOff (a.value / b.value))
      · obtain ⟨l, hok, -⟩ := hfits hholds
        exact nomatch hok.symm.trans hfails
      · exact nomatch (hnot hholds).symm.trans hfails
    · exact nomatch (quotient_of_not_scalable hb hscalable).symm.trans hfails
  · obtain ⟨x, y, -, -, hrun⟩ := quotient_operands a b
    rw [hrun, if_pos hzero]

/-- Zero is not divided by a half, although the quotient is zero. -/
theorem scaling_refuses_zero :
    let zero := ExactOperand.ofNumber (.decimal Decimal.zero)
    let half := ExactOperand.ofNumber (.decimal ⟨500000000000000000, by decide, by decide⟩)
    zero.literal = Literal.typed "0" Datatype.decimal.iri ∧
      half.literal = Literal.typed "0.5" Datatype.decimal.iri ∧
      half.value ≠ 0 ∧ cutOff (zero.value / half.value) = 0 ∧
      ExactKind.decimal.Holds (cutOff (zero.value / half.value)) ∧
      multiplicativeChain zero.term [(.divide, half.term)] = evaluationError .numericOverflow := by
  intro zero half
  have hzero : zero.value = 0 := by
    show ((0 : Int) : Rat) / 10 ^ 18 = 0
    rw [Int.cast_zero, zero_div]
  have hhalf : half.value = 1 / 2 := by
    show ((500000000000000000 : Int) : Rat) / 10 ^ 18 = 1 / 2
    norm_num
  have hne : half.value ≠ 0 := by
    rw [hhalf]
    norm_num
  have hquotient : cutOff (zero.value / half.value) = 0 := by
    unfold cutOff
    rw [hzero, zero_div, zero_mul, ← Int.cast_zero (R := Rat), wholePart_intCast, Int.cast_zero,
      zero_div]
  refine ⟨by decide, by decide, hne, hquotient, hquotient ▸ ExactKind.holds_zero .decimal, ?_⟩
  refine quotient_of_not_scalable hne fun hscalable => ?_
  -- the point of zero is not moved, and a half has seventeen places to give
  obtain ⟨right, left, hsum, -, hright, n, hn, -, -⟩ := hscalable.enough
  obtain rfl : left = 18 := by
    have := hright hzero
    omega
  rw [hhalf] at hn
  have htwice : (1 : Rat) = (2 * n : Int) := by
    push_cast
    linarith
  have hint : (1 : Int) = 2 * n := by exact_mod_cast htwice
  omega

/-! ## Integers -/

theorem ExactKind.Holds.scaled_fits {m : Int} (h : ExactKind.integer.Holds m) :
    Fits (m * 10 ^ 18) := by
  obtain ⟨k, hk, hlower, hupper⟩ := h
  obtain rfl : m = k := by exact_mod_cast hk
  constructor <;> omega

/-- **INTEGERS HAVE ROOM**: their points are moved by eighteen places at least, and never by more
than fifty-six. -/
theorem Decimal.Scalable.of_integers {m n : Int} (hm : ExactKind.integer.Holds m)
    (hn : ExactKind.integer.Holds n) (hne : n ≠ 0) : Scalable m n := by
  have hscaled := hm.scaled_fits
  obtain ⟨k, hk, hlower, hupper⟩ := hn
  obtain rfl : n = k := by exact_mod_cast hk
  refine ⟨⟨0, 18, rfl, ?_, fun _ => rfl, n, rfl, by omega, by omega⟩, ?_, ?_⟩
  · rw [pow_zero, mul_one]
    exact (holds_iff_fits (by push_cast; rfl)).mpr hscaled
  · rintro ⟨right, left, hsum, hp, hzero, k, hq, -, -⟩
    have hright : right ≤ 20 := by
      by_cases hm0 : m = 0
      · have := hzero (Int.cast_eq_zero.mpr hm0)
        omega
      · have hfits : Fits (m * 10 ^ (18 + right)) := by
          refine (holds_iff_fits ?_).mp hp
          rw [pow_add]
          push_cast
          ring
        have := places_le_of_fits hm0 hfits
        omega
    -- an integer with nineteen zeros at its end does not fit
    obtain ⟨more, rfl⟩ := Nat.exists_eq_add_of_le (show 37 ≤ left by omega)
    have hzeros : n = k * 10 ^ more * 10 ^ 19 := by
      have hcleared : (n : Rat) = (k * 10 ^ more * 10 ^ 19 : Int) := by
        rw [pow_add, div_eq_div_iff (by positivity) (by norm_num)] at hq
        push_cast
        linarith
      exact_mod_cast hcleared
    omega
  · rintro ⟨hleast, -⟩
    rw [eq_div_iff (by norm_num)] at hleast
    have hint : m * 10 ^ 18 = -2 ^ 127 := by exact_mod_cast hleast
    omega

/-- The quotient of two integers, cut off, is a decimal. -/
theorem holds_cutOff_of_integers {m : Int} (hm : ExactKind.integer.Holds m) (n : Int) :
    ExactKind.decimal.Holds (cutOff ((m : Rat) / n)) := by
  have hvalue : cutOff ((m : Rat) / n) * 10 ^ 18 = ((m * 10 ^ 18).tdiv n : Int) := by
    rw [← wholePart_div, cutOff, div_mul_cancel₀ _ (by norm_num), Int.cast_mul, Int.cast_pow,
      Int.cast_ofNat, div_mul_eq_mul_div]
  rw [holds_iff_fits hvalue]
  have hle := Int.natAbs_tdiv_le_natAbs (m * 10 ^ 18) n
  obtain ⟨k, hk, hlower, hupper⟩ := hm
  obtain rfl : m = k := by exact_mod_cast hk
  constructor <;> omega

/-- Nothing is cut off an integer. -/
theorem cutOff_intCast (m : Int) : cutOff m = m := by
  have hscaled : (m : Rat) * 10 ^ 18 = (m * 10 ^ 18 : Int) := by push_cast; rfl
  rw [cutOff, hscaled, wholePart_intCast, ← hscaled, mul_div_cancel_right₀ _ (by norm_num)]

theorem ExactOperand.exists_int {a : ExactOperand} (h : a.kind = .integer) :
    ∃ m : Int, a.value = m ∧ ExactKind.integer.Holds m := by
  have hholds := a.holds
  rw [h] at hholds
  obtain ⟨m, hm, hfits⟩ := hholds
  exact ⟨m, hm, m, rfl, hfits⟩

/-- Integers are divided without an overflow. -/
theorem quotient_of_integers {a b : ExactOperand} (ha : a.kind = .integer)
    (hb : b.kind = .integer) (hne : b.value ≠ 0) :
    ∃ l : Literal, multiplicativeChain a.term [(.divide, b.term)] = .ok (.literal l) ∧
      l.IsCanonical .decimal (cutOff (a.value / b.value)) := by
  obtain ⟨m, hm, hmfits⟩ := ExactOperand.exists_int ha
  obtain ⟨n, hn, hnfits⟩ := ExactOperand.exists_int hb
  refine (quotient_of_scalable hne ?_).1 ?_
  · rw [hm, hn]
    refine Scalable.of_integers hmfits hnfits fun hzero => hne ?_
    rw [hn, hzero, Int.cast_zero]
  · rw [hm, hn]
    exact holds_cutOff_of_integers hmfits n

/-- **INTEGER DIVISION IS TOTAL**: the quotient of two integers, cut off after eighteen places, is
always there, and a product that fits gives its first factor back when it is divided by the
other. -/
theorem integerDivision_total (a b : ExactOperand) (ha : a.kind = .integer)
    (hb : b.kind = .integer) (hne : b.value ≠ 0) :
    (∃ l : Literal, multiplicativeChain a.term [(.divide, b.term)] = .ok (.literal l) ∧
        l.IsCanonical .decimal (cutOff (a.value / b.value))) ∧
      (ExactKind.integer.Holds (a.value * b.value) →
        ∃ l : Literal,
          multiplicativeChain a.term [(.multiply, b.term), (.divide, b.term)] = .ok (.literal l) ∧
            l.IsCanonical .decimal a.value) := by
  refine ⟨quotient_of_integers ha hb hne, fun hfits => ?_⟩
  have hkind : a.kind.join b.kind = .integer := ExactKind.join_eq_integer_iff.mpr ⟨ha, hb⟩
  rcases product_combines a b with ⟨c, hproduct, hc, hvalue, -⟩ | ⟨-, hnot⟩
  · obtain ⟨l, hquotient, hcanonical⟩ := quotient_of_integers (hc.trans hkind) hb hne
    refine ⟨l, ?_, ?_⟩
    · have hchain : multiplicativeChain a.term [(.multiply, b.term), (.divide, b.term)] =
          product a.term b.term >>= fun next => multiplicativeChain next [(.divide, b.term)] := rfl
      rw [hchain, hproduct]
      exact hquotient
    · obtain ⟨m, hm, -⟩ := ExactOperand.exists_int ha
      have hback : c.value / b.value = a.value := by
        rw [hvalue]
        exact mul_div_cancel_right₀ _ hne
      rw [hback, hm, cutOff_intCast, ← hm] at hcanonical
      exact hcanonical
  · rw [hkind] at hnot
    exact absurd hfits hnot

/-- The least integer of 64 bits is divided by minus one, which leaves 64 bits, and the greatest one
comes back from its product with minus one. -/
theorem integerDivision_by_minus_one :
    let minusOne := ExactOperand.ofInteger .byte ⟨-1, by decide, by decide⟩ (by decide)
    let least := ExactOperand.ofInteger .long ⟨-0x8000000000000000, by decide, by decide⟩ (by decide)
    let greatest :=
      ExactOperand.ofInteger .long ⟨0x7fffffffffffffff, by decide, by decide⟩ (by decide)
    minusOne.kind = .integer ∧ least.kind = .integer ∧ greatest.kind = .integer ∧
      minusOne.value ≠ 0 ∧ ExactKind.integer.Holds (greatest.value * minusOne.value) ∧
      (∃ l : Literal, multiplicativeChain least.term [(.divide, minusOne.term)] = .ok (.literal l) ∧
        l.IsCanonical .decimal 9223372036854775808) ∧
      ∃ l : Literal,
        multiplicativeChain greatest.term [(.multiply, minusOne.term), (.divide, minusOne.term)] =
            .ok (.literal l) ∧
          l.IsCanonical .decimal 9223372036854775807 := by
  intro minusOne least greatest
  have hminusOne : minusOne.value = (-1 : Int) := rfl
  have hleast : least.value = (-0x8000000000000000 : Int) := rfl
  have hgreatest : greatest.value = (0x7fffffffffffffff : Int) := rfl
  have hne : minusOne.value ≠ 0 := by
    rw [hminusOne]
    norm_num
  have hproduct : ExactKind.integer.Holds (greatest.value * minusOne.value) := by
    refine ⟨-0x7fffffffffffffff, ?_, by decide, by decide⟩
    rw [hgreatest, hminusOne]
    norm_num
  refine ⟨rfl, rfl, rfl, hne, hproduct, ?_, ?_⟩
  · obtain ⟨l, hrun, hcanonical⟩ := (integerDivision_total least minusOne rfl rfl hne).1
    have hquotient : least.value / minusOne.value = (9223372036854775808 : Int) := by
      rw [hleast, hminusOne]
      norm_num
    rw [hquotient, cutOff_intCast] at hcanonical
    exact ⟨l, hrun, hcanonical⟩
  · obtain ⟨l, hrun, hcanonical⟩ := (integerDivision_total greatest minusOne rfl rfl hne).2 hproduct
    rw [hgreatest] at hcanonical
    exact ⟨l, hrun, hcanonical⟩

end SparqlScalar
