import Mathlib.Algebra.BigOperators.Group.List.Basic
import Mathlib.Data.Nat.Prime.Int
import SparqlScalar.Proofs.ExactOperands

/-!
# Products of exact numbers

    Two decimals count units of `10 ^ -18`, so their product counts units of `10 ^ -36` and is a
    decimal only if `10 ^ 18` divides it.  The product is taken by removing eighteen factors 2 and
    eighteen factors 5 from the two counts before they are multiplied, and this loses nothing:

      factors   -- a prime is removed from two numbers as often as it divides their product, up to
                   the budget (`Decimal.removeFactor_product`)
      decimals  -- so the product is there exactly if `10 ^ 18` divides it and the quotient fits
                   (`Decimal.mul?_eq`)
      steps     -- a product of two operands is exact or does not fit (`product_combines`)
      chains    -- and a chain steps through its partial products (`productChain_exact`)
-/

namespace SparqlScalar

open AdditiveOperator (Exactly exactly_integer exactly_decimal)

/-! ## Factors -/

namespace Decimal

variable {p : Int} {budget left left' : Nat} {n a b x y : Int}

/-- A factor is removed as a power, and it divides what remains only if the budget is used up. -/
theorem removeFactor_spec (h : removeFactor p budget n = (x, left)) :
    ∃ removed, removed + left = budget ∧ n = x * p ^ removed ∧ (left ≠ 0 → ¬ p ∣ x) := by
  induction budget generalizing n with
  | zero =>
      obtain ⟨rfl, rfl⟩ := Prod.mk.inj h
      exact ⟨0, rfl, by rw [pow_zero, mul_one], fun hne => absurd rfl hne⟩
  | succ budget ih =>
      unfold removeFactor at h
      split at h
      case isTrue hmod =>
        obtain ⟨removed, hbudget, hdiv, hleft⟩ := ih h
        refine ⟨removed + 1, by omega, ?_, hleft⟩
        rw [pow_succ, ← mul_assoc, ← hdiv, Int.ediv_mul_cancel (Int.dvd_of_emod_eq_zero hmod)]
      case isFalse hmod =>
        obtain ⟨rfl, rfl⟩ := Prod.mk.inj h
        refine ⟨0, Nat.zero_add _, by rw [pow_zero, mul_one], fun _ hdvd => ?_⟩
        exact hmod (Int.emod_eq_zero_of_dvd hdvd)

/-- **NOTHING IS LOST**: a prime that is removed from two numbers with one budget uses it up exactly
if its power divides their product. -/
theorem removeFactor_product (hp : Prime p) (ha : removeFactor p budget a = (x, left))
    (hb : removeFactor p left b = (y, left')) :
    (left' = 0 ↔ p ^ budget ∣ a * b) ∧ (left' = 0 → a * b = x * y * p ^ budget) := by
  obtain ⟨removed, hbudget, rfl, hx⟩ := removeFactor_spec ha
  obtain ⟨removed', hleft, rfl, hy⟩ := removeFactor_spec hb
  have hproduct : x * p ^ removed * (y * p ^ removed') = x * y * p ^ (removed + removed') := by
    rw [pow_add]
    ring
  have hused : left' = 0 → removed + removed' = budget := by omega
  rw [hproduct]
  refine ⟨⟨fun hzero => ?_, fun hdvd => ?_⟩, fun hzero => by rw [hused hzero]⟩
  · rw [hused hzero]
    exact Dvd.intro_left _ rfl
  · by_contra hne
    -- a factor of the budget that is left over divides one of the two remainders
    have hpower : p ^ (removed + removed') * p ^ left' ∣ p ^ (removed + removed') * (x * y) := by
      rw [← pow_add, show removed + removed' + left' = budget by omega, mul_comm _ (x * y)]
      exact hdvd
    have hcancel : p ^ left' ∣ x * y :=
      (mul_dvd_mul_iff_left (pow_ne_zero _ hp.ne_zero)).mp hpower
    rcases hp.dvd_or_dvd ((dvd_pow_self p hne).trans hcancel) with hdvd | hdvd
    · exact hx (by omega) hdvd
    · exact hy hne hdvd

end Decimal

/-! ## Decimals -/

namespace Decimal

/-- Removing eighteen twos and eighteen fives from two numbers takes them all out exactly if
`10 ^ 18` divides the product. -/
theorem mul?_eq (a b : Decimal) :
    a.mul? b =
      if (10 : Int) ^ 18 ∣ a.units * b.units then ofUnits? (a.units * b.units / 10 ^ 18)
      else none := by
  unfold mul?
  rcases htwos : removeFactor 2 18 a.units with ⟨x, twos⟩
  rcases htwos' : removeFactor 2 twos b.units with ⟨y, twos'⟩
  rcases hfives : removeFactor 5 18 x with ⟨x', fives⟩
  rcases hfives' : removeFactor 5 fives y with ⟨y', fives'⟩
  simp only [htwos', hfives, hfives']
  have hten : (10 : Int) ^ 18 = 5 ^ 18 * 2 ^ 18 := by norm_num
  have hprime : Prime (5 : Int) := Nat.prime_iff_prime_int.mp Nat.prime_five
  obtain ⟨htwo, hproduct⟩ := removeFactor_product Int.prime_two htwos htwos'
  obtain ⟨hfive, hproduct'⟩ := removeFactor_product hprime hfives hfives'
  by_cases hdvd : (10 : Int) ^ 18 ∣ a.units * b.units
  · have hzero : twos' = 0 := htwo.mpr ((Dvd.intro_left _ hten.symm).trans hdvd)
    have hzero' : fives' = 0 := by
      refine hfive.mpr ?_
      rw [hproduct hzero, hten] at hdvd
      exact (mul_dvd_mul_iff_right (by norm_num)).mp hdvd
    rw [if_pos ⟨hzero, hzero'⟩, if_pos hdvd, hproduct hzero, hproduct' hzero', mul_assoc, ← hten,
      Int.mul_ediv_cancel _ (by norm_num)]
  · rw [if_neg hdvd, if_neg]
    rintro ⟨hzero, hzero'⟩
    refine hdvd ?_
    rw [hproduct hzero, hproduct' hzero', mul_assoc, ← hten]
    exact Dvd.intro_left _ rfl

/-- A product of decimals is exact or does not fit. -/
theorem mul?_exact (a b : Decimal) :
    Exactly ((a.mul? b).map .decimal) .decimal (a.toRat * b.toRat) := by
  have hunits : ∀ n : Int, a.toRat * b.toRat = (n : Rat) / 10 ^ 18 ↔
      a.units * b.units = 10 ^ 18 * n := by
    intro n
    unfold toRat
    field_simp
    exact_mod_cast Iff.rfl
  rw [mul?_eq]
  split
  case isTrue hdvd =>
    refine exactly_decimal ((hunits _).mpr ?_).symm
    exact (Int.mul_ediv_cancel' hdvd).symm
  case isFalse hdvd =>
    rintro ⟨n, hn, -, -⟩
    exact hdvd ⟨n, (hunits n).mp hn⟩

end Decimal

/-! ## Steps -/

/-- **EXACT OR OVERFLOW**: two numbers are multiplied exactly in the wider of their kinds, unless the
product does not fit. -/
theorem Numeric.mul?_exact {x y : Numeric} {kind kind' : ExactKind} {p q : Rat}
    (hx : x.HasValue kind p) (hy : y.HasValue kind' q) :
    Exactly (x.mul? y) (kind.join kind') (p * q) := by
  have hpair := promote_hasValue hx hy
  generalize kind.join kind' = wider at hpair ⊢
  unfold mul?
  generalize promote x y = pair at hpair ⊢
  cases hpair with
  | integer a b => exact exactly_integer (Int.cast_mul a.toInt b.toInt)
  | decimal a b => exact a.mul?_exact b

theorem product_combines : CombinesExactly product (· * ·) :=
  combinesExactly_withNumbers Numeric.mul?_exact

theorem ExactKind.holds_zero (kind : ExactKind) : kind.Holds 0 := by
  cases kind with
  | integer => exact ⟨0, Int.cast_zero.symm, by decide, by decide⟩
  | decimal => exact ⟨0, by rw [Int.cast_zero, zero_div], by decide, by decide⟩

/-- A product with zero always fits. -/
theorem product_zero (a b : ExactOperand) (h : a.value = 0 ∨ b.value = 0) :
    ∃ c : ExactOperand, product a.term b.term = .ok c.term ∧ c.kind = a.kind.join b.kind ∧
      c.value = 0 := by
  have hzero : a.value * b.value = 0 := mul_eq_zero.mpr h
  rcases product_combines a b with ⟨c, hrun, hkind, hvalue, -⟩ | ⟨-, hfits⟩
  · exact ⟨c, hrun, hkind, hvalue.trans hzero⟩
  · refine absurd ?_ hfits
    show (a.kind.join b.kind).Holds (a.value * b.value)
    rw [hzero]
    exact ExactKind.holds_zero _

/-! ## Chains -/

/-- The continuations of a chain of multiplications. -/
def multiplications (factors : List ExactOperand) : List (MultiplicativeOperator × Term) :=
  factors.map fun x => (.multiply, x.term)

section Partial

variable (start : Rat) (kind : ExactKind) (factors : List ExactOperand)

/-- The exact product of the first operand and some factors. -/
def partialProduct (count : Nat) : Rat :=
  start * ((factors.take count).map ExactOperand.value).prod

/-- The kind of a partial product: integer if all its operands are integers. -/
def productKind (count : Nat) : ExactKind :=
  if kind = .integer ∧ ∀ x ∈ factors.take count, x.kind = .integer then .integer else .decimal

/-- The factors as steps of a chain. -/
def multiplied : List (MultiplicativeOperator × ExactOperand) := factors.map (.multiply, ·)

theorem chainTerms_multiplied : chainTerms (multiplied factors) = multiplications factors :=
  List.map_map

theorem take_multiplied (count : Nat) :
    (multiplied factors).take count = multiplied (factors.take count) :=
  List.map_take.symm

/-- A partial product is the result of a chain of that length. -/
theorem partialProduct_eq (count : Nat) :
    partialProduct start factors count =
      chainValue (fun _ p q => p * q) start (multiplied (factors.take count)) := by
  unfold partialProduct
  generalize factors.take count = operands
  induction operands generalizing start with
  | nil => exact mul_one start
  | cons x operands ih =>
      rw [List.map_cons, List.prod_cons, ← mul_assoc]
      exact ih (start * x.value)

theorem productKind_eq (count : Nat) :
    productKind kind factors count = chainKind kind (multiplied (factors.take count)) := by
  rw [chainKind_eq]
  refine if_congr (and_congr_right fun _ => ?_) rfl rfl
  unfold multiplied
  rw [List.forall_mem_map]

end Partial

/-- A chain of multiplications steps through the partial products until one of them does not fit. -/
theorem productChain_combines (first : ExactOperand) (factors : List ExactOperand) :
    (∃ last : ExactOperand,
        multiplicativeChain first.term (multiplications factors) = .ok last.term ∧
        last.kind = productKind first.kind factors factors.length ∧
        last.value = partialProduct first.value factors factors.length ∧
        (factors ≠ [] → last.literal.IsCanonical last.kind last.value) ∧
        ∀ count ≤ factors.length,
          (productKind first.kind factors count).Holds
            (partialProduct first.value factors count)) ∨
      (multiplicativeChain first.term (multiplications factors) =
          evaluationError .numericOverflow ∧
        ∃ count ≤ factors.length,
          ¬ (productKind first.kind factors count).Holds
            (partialProduct first.value factors count)) := by
  have hfits : PrefixesFit (fun _ p q => p * q) first (multiplied factors) ↔
      ∀ count ≤ factors.length,
        (productKind first.kind factors count).Holds
          (partialProduct first.value factors count) := by
    unfold PrefixesFit
    simp only [partialProduct_eq, productKind_eq, take_multiplied]
    rw [show (multiplied factors).length = factors.length from List.length_map _]
  have hoperators : ∀ pair ∈ multiplied factors,
      CombinesExactly (MultiplicativeOperator.apply pair.1) fun p q => p * q := by
    intro pair hpair
    obtain ⟨x, -, rfl⟩ := List.mem_map.mp hpair
    exact product_combines
  unfold multiplicativeChain
  rw [numericChain_operand, ← chainTerms_multiplied]
  rcases chain_combines _ (fun _ p q => p * q) first (multiplied factors) hoperators with
    ⟨last, hrun, hkind, hvalue, hcanonical, hall⟩ | ⟨hrun, hsome⟩
  · refine Or.inl ⟨last, hrun, ?_, ?_, fun hne => hcanonical (Or.inl ?_), hfits.mp hall⟩
    · rw [hkind, productKind_eq, List.take_length]
    · rw [hvalue, partialProduct_eq, List.take_length]
    · exact fun hnil => hne (List.map_eq_nil_iff.mp hnil)
  · refine Or.inr ⟨hrun, ?_⟩
    rw [hfits] at hsome
    push Not at hsome
    exact hsome

/-- **PRODUCTS ARE EXACT**: the chain of the first factors gives the exact product, canonically
written in the kind of all its operands, as long as all partial products fit their kinds.  A chain
fails exactly if one of them does not, and then with an overflow; so a step with a zero, whose
product always fits, never fails. -/
theorem productChain_exact (first : ExactOperand) (factors : List ExactOperand) :
    (∀ count ≤ factors.length,
        (∀ shorter ≤ count,
          (productKind first.kind factors shorter).Holds
            (partialProduct first.value factors shorter)) →
        ∃ last : ExactOperand,
          multiplicativeChain first.term (multiplications (factors.take count)) = .ok last.term ∧
            last.kind = productKind first.kind factors count ∧
            last.value = partialProduct first.value factors count ∧
            (count ≠ 0 → last.literal.IsCanonical last.kind last.value)) ∧
      (∀ e, multiplicativeChain first.term (multiplications factors) = .error e ↔
        e = .evaluation .numericOverflow ∧
          ∃ count ≤ factors.length,
            ¬ (productKind first.kind factors count).Holds
              (partialProduct first.value factors count)) ∧
      (∀ a b : ExactOperand, a.value = 0 ∨ b.value = 0 →
        ∃ c : ExactOperand, product a.term b.term = .ok c.term ∧
          c.kind = a.kind.join b.kind ∧ c.value = 0) ∧
      EvaluationCause.numericOverflow.message = "numeric overflow" := by
  refine ⟨?_, ?_, product_zero, rfl⟩
  · intro count hcount hall
    have hlength : (factors.take count).length = count := List.length_take_of_le hcount
    -- up to `count`, the partial products of the first factors are those of all
    have hkind : ∀ shorter ≤ count, productKind first.kind (factors.take count) shorter =
        productKind first.kind factors shorter := by
      intro shorter hshorter
      unfold productKind
      rw [List.take_take, Nat.min_eq_left hshorter]
    have hvalue : ∀ shorter ≤ count, partialProduct first.value (factors.take count) shorter =
        partialProduct first.value factors shorter := by
      intro shorter hshorter
      unfold partialProduct
      rw [List.take_take, Nat.min_eq_left hshorter]
    have hrun := productChain_combines first (factors.take count)
    rw [hlength, hkind count le_rfl, hvalue count le_rfl] at hrun
    rcases hrun with ⟨last, hok, hlastkind, hlastvalue, hcanonical, -⟩ | ⟨-, shorter, hshorter, hnot⟩
    · refine ⟨last, hok, hlastkind, hlastvalue, fun hne => hcanonical ?_⟩
      rw [← List.length_pos_iff, hlength]
      exact Nat.pos_of_ne_zero hne
    · rw [hkind shorter hshorter, hvalue shorter hshorter] at hnot
      exact absurd (hall shorter hshorter) hnot
  · intro e
    rcases productChain_combines first factors with ⟨last, hok, -, -, -, hall⟩ | ⟨hoverflow, hsome⟩
    · rw [hok]
      refine ⟨nofun, ?_⟩
      rintro ⟨-, count, hcount, hnot⟩
      exact absurd (hall count hcount) hnot
    · rw [hoverflow]
      constructor
      · intro he
        exact ⟨(Except.error.inj he).symm, hsome⟩
      · rintro ⟨rfl, -⟩
        rfl

end SparqlScalar
