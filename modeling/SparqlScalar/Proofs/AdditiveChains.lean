import SparqlScalar.Proofs.ExactOperands

/-!
# Sums of exact numbers

    A sum of well-typed integers and decimals is the rational sum or an overflow:

      numbers   -- a sum of two numbers is exact or does not fit (`AdditiveOperator.number?_exact`)
      steps     -- so a step goes from operands to an operand, or overflows (`apply_exact`)
      chains    -- and a chain steps through its partial sums (`chain_exact`)

    The kind of a partial sum is that of all operands up to it: once a decimal was met, the sum
    stays a decimal.
-/

namespace SparqlScalar

/-! ## Numbers -/

namespace AdditiveOperator

/-- The operator on numbers. -/
def number? : AdditiveOperator → Numeric → Numeric → Option Numeric
  | .add => Numeric.add?
  | .subtract => Numeric.sub?

/-- The number that an operand adds to a sum. -/
def signed : AdditiveOperator → Rat → Rat
  | .add, q => q
  | .subtract, q => -q

/-- The operator on rational numbers. -/
def exact (op : AdditiveOperator) (p q : Rat) : Rat := p + op.signed q
/-- Sums of decimals are sums of units. -/
theorem exact_decimals (op : AdditiveOperator) (a b : Decimal) :
    Exactly (op.number? (.decimal a) (.decimal b)) .decimal (op.exact a.toRat b.toRat) := by
  cases op with
  | add =>
      refine exactly_decimal ?_
      show ((a.units + b.units : Int) : Rat) / 10 ^ 18 = a.units / 10 ^ 18 + b.units / 10 ^ 18
      push_cast
      ring
  | subtract =>
      refine exactly_decimal ?_
      show ((a.units - b.units : Int) : Rat) / 10 ^ 18 = a.units / 10 ^ 18 + -(b.units / 10 ^ 18)
      push_cast
      ring

theorem exact_integers (op : AdditiveOperator) (a b : Integer) :
    Exactly (op.number? (.integer a) (.integer b)) .integer (op.exact a.toRat b.toRat) := by
  cases op with
  | add => exact exactly_integer (Int.cast_add a.toInt b.toInt)
  | subtract =>
      refine exactly_integer ?_
      show ((a.toInt - b.toInt : Int) : Rat) = a.toInt + -b.toInt
      push_cast
      ring

/-- **EXACT OR OVERFLOW**: two numbers are combined exactly in the wider of their kinds, unless the
result does not fit. -/
theorem number?_exact (op : AdditiveOperator) {x y : Numeric} {kind kind' : ExactKind} {p q : Rat}
    (hx : x.HasValue kind p) (hy : y.HasValue kind' q) :
    Exactly (op.number? x y) (kind.join kind') (op.exact p q) := by
  have hpair := Numeric.promote_hasValue hx hy
  generalize kind.join kind' = wider at hpair ⊢
  cases op with
  | add =>
      show Exactly (x.add? y) wider _
      unfold Numeric.add?
      generalize Numeric.promote x y = pair at hpair ⊢
      cases hpair with
      | integer a b => exact exact_integers .add a b
      | decimal a b => exact exact_decimals .add a b
  | subtract =>
      show Exactly (x.sub? y) wider _
      unfold Numeric.sub?
      generalize Numeric.promote x y = pair at hpair ⊢
      cases hpair with
      | integer a b => exact exact_integers .subtract a b
      | decimal a b => exact exact_decimals .subtract a b

end AdditiveOperator

/-! ## Steps -/

namespace AdditiveOperator

/-- **ONE STEP**: two operands give the operand of the exact result, in canonical form, or overflow
because the result does not fit. -/
theorem apply_exact (op : AdditiveOperator) : CombinesExactly op.apply op.exact := by
  cases op with
  | add => exact combinesExactly_withNumbers (number?_exact .add)
  | subtract => exact combinesExactly_withNumbers (number?_exact .subtract)

end AdditiveOperator

/-! ## Chains -/

/-- The continuations of a chain as terms. -/
def continuations (rest : List (AdditiveOperator × ExactOperand)) :
    List (AdditiveOperator × Term) :=
  rest.map fun (op, x) => (op, x.term)

section Partial

variable (start : Rat) (kind : ExactKind) (rest : List (AdditiveOperator × ExactOperand))

/-- The exact signed sum of the first operand and some continuations. -/
def partialSum (count : Nat) : Rat :=
  start + ((rest.take count).map fun (op, x) => op.signed x.value).sum

/-- The kind of a partial sum: integer if all its operands are integers. -/
def partialKind (count : Nat) : ExactKind :=
  if kind = .integer ∧ ∀ pair ∈ rest.take count, pair.2.kind = .integer then .integer
  else .decimal
/-- A partial sum is the result of a chain of that length. -/
theorem partialSum_eq (count : Nat) :
    partialSum start rest count = chainValue AdditiveOperator.exact start (rest.take count) := by
  unfold partialSum
  generalize rest.take count = operands
  induction operands generalizing start with
  | nil => exact add_zero start
  | cons pair operands ih =>
      rw [List.map_cons, List.sum_cons, ← add_assoc]
      exact ih (pair.1.exact start pair.2.value)

theorem partialKind_eq (count : Nat) :
    partialKind kind rest count = chainKind kind (rest.take count) :=
  (chainKind_eq kind _).symm

end Partial

/-- All partial sums fit their kinds. -/
def AllFit (first : ExactOperand) (rest : List (AdditiveOperator × ExactOperand)) : Prop :=
  ∀ count ≤ rest.length,
    (partialKind first.kind rest count).Holds (partialSum first.value rest count)
theorem allFit_iff (first : ExactOperand) (rest : List (AdditiveOperator × ExactOperand)) :
    AllFit first rest ↔ PrefixesFit AdditiveOperator.exact first rest := by
  unfold AllFit PrefixesFit
  simp only [partialSum_eq, partialKind_eq]

/-- A chain steps through the partial sums until one of them does not fit. -/
theorem chain_exact (first : ExactOperand) (rest : List (AdditiveOperator × ExactOperand)) :
    (∃ last : ExactOperand,
        chain AdditiveOperator.apply first.term (continuations rest) = .ok last.term ∧
        last.kind = partialKind first.kind rest rest.length ∧
        last.value = partialSum first.value rest rest.length ∧
        (rest ≠ [] ∨ first.literal.IsCanonical first.kind first.value →
          last.literal.IsCanonical last.kind last.value) ∧
        AllFit first rest) ∨
      (chain AdditiveOperator.apply first.term (continuations rest) =
          evaluationError .numericOverflow ∧ ¬ AllFit first rest) := by
  rw [partialKind_eq, partialSum_eq, List.take_length, allFit_iff]
  exact chain_combines _ _ first rest fun pair _ => pair.1.apply_exact

/-- **SUMS ARE EXACT**: a chain of well-typed integers and decimals succeeds if and only if all its
partial sums fit their kinds.  Its result is then the canonical literal of the last of them, and
otherwise it fails with an overflow. -/
theorem additiveChain_exact (first : ExactOperand)
    (rest : List (AdditiveOperator × ExactOperand)) (h : rest ≠ []) :
    ((∃ t, additiveChain first.term (continuations rest) = .ok t) ↔
        ∀ count ≤ rest.length,
          (partialKind first.kind rest count).Holds (partialSum first.value rest count)) ∧
      (∀ t, additiveChain first.term (continuations rest) = .ok t →
        ∃ l : Literal, t = .literal l ∧
          l.IsCanonical (partialKind first.kind rest rest.length)
            (partialSum first.value rest rest.length)) ∧
      (∀ e, additiveChain first.term (continuations rest) = .error e →
        e = .evaluation .numericOverflow) ∧
      EvaluationCause.numericOverflow.message = "numeric overflow" := by
  have hrest : (continuations rest).isEmpty = false := by
    rw [List.isEmpty_eq_false_iff]
    exact fun hnil => h (List.map_eq_nil_iff.mp hnil)
  have hadditive : additiveChain first.term (continuations rest) =
      chain AdditiveOperator.apply first.term (continuations rest) := by
    unfold additiveChain numericChain
    rw [first.isTemporal_term, hrest]
    rfl
  rw [hadditive]
  rcases chain_exact first rest with ⟨last, hrun, hkind, hvalue, hcanonical, hall⟩ | ⟨hrun, hsome⟩
  · rw [hrun]
    refine ⟨⟨fun _ => hall, fun _ => ⟨_, rfl⟩⟩, ?_, ?_, rfl⟩
    · intro t ht
      obtain rfl := Except.ok.inj ht
      rw [← hkind, ← hvalue]
      exact ⟨last.literal, rfl, hcanonical (Or.inl h)⟩
    · intro e he
      cases he
  · rw [hrun]
    refine ⟨⟨?_, fun hall => absurd hall hsome⟩, ?_, ?_, rfl⟩
    · rintro ⟨t, ht⟩
      cases ht
    · intro t ht
      cases ht
    · intro e he
      exact (Except.error.inj he).symm

/-- A chain fails at its first continuation, although the sum of all its operands would fit. -/
theorem additiveChain_stops_at_overflow :
    let greatest := ExactOperand.ofNumber (.integer ⟨0x7fffffffffffffff, by decide, by decide⟩)
    let one := ExactOperand.ofNumber (.integer Integer.one)
    let rest := [(AdditiveOperator.add, one), (AdditiveOperator.subtract, one)]
    rest ≠ [] ∧ (partialKind greatest.kind rest 2).Holds (partialSum greatest.value rest 2) ∧
      additiveChain greatest.term (continuations rest) = evaluationError .numericOverflow := by
  intro greatest one rest
  have hne : rest ≠ [] := List.cons_ne_nil _ _
  have hgreatest : greatest.value = 9223372036854775807 := rfl
  have hone : one.value = 1 := rfl
  obtain ⟨hsucceeds, -, hfails, -⟩ := additiveChain_exact greatest rest hne
  refine ⟨hne, ?_, ?_⟩
  · refine ⟨9223372036854775807, ?_, by decide, by decide⟩
    show greatest.value + (one.value + (-one.value + 0)) = _
    rw [hgreatest, hone]
    norm_num
  · cases hrun : additiveChain greatest.term (continuations rest) with
    | error e => exact congrArg Except.error (hfails e hrun)
    | ok t =>
        obtain ⟨n, hsum, -, hupper⟩ := hsucceeds.mp ⟨t, hrun⟩ 1 (by decide)
        have hn : (n : Rat) = 9223372036854775808 := by
          rw [← hsum]
          show greatest.value + (one.value + 0) = _
          rw [hgreatest, hone]
          norm_num
        have hint : n = 9223372036854775808 := by exact_mod_cast hn
        omega

end SparqlScalar
