import SparqlScalar.Operator.Strings
import SparqlScalar.Proofs.DoubleRounding
import SparqlScalar.Proofs.ExactOperands

/-!
# Positions in double precision

    A position in a text is rounded in double precision: an integer or a decimal becomes a double,
    one half is added and the sum is cut off.  Each step but the last one misses the exact result a
    little:

      numbers   -- a number becomes a double near it, and a tie that is not too large becomes itself
                   (`Numeric.toDouble_close`)
      positions -- what is cut off is near the number and one half (`roundPosition_close`)
-/

namespace SparqlScalar

open Binary (IsDouble Rounds)

/-! ## Numbers -/

/-- Common factors of ten are removed one after another. -/
theorem Decimal.reduce_mul_pow (fuel k : Nat) {m : Int} (hm : m ≠ 0) (d : Nat) :
    reduce (k + fuel) (m * 10 ^ k) (d * 10 ^ k) = reduce fuel m d := by
  induction k with
  | zero => rw [Nat.zero_add, pow_zero, pow_zero, mul_one, mul_one]
  | succ k ih =>
      have hnum : m * 10 ^ (k + 1) = m * 10 ^ k * 10 := by ring
      have hden : d * 10 ^ (k + 1) = d * 10 ^ k * 10 := by ring
      have hne : m * 10 ^ k * 10 ≠ 0 := mul_ne_zero (mul_ne_zero hm (by positivity)) (by decide)
      rw [Nat.add_right_comm, reduce, hnum, hden, if_pos ⟨hne, Int.mul_emod_left _ _⟩,
        Int.mul_ediv_cancel _ (by decide), Nat.mul_div_cancel _ (by decide), ih]

/-- What is left is the same fraction, over a smaller power of ten. -/
theorem Decimal.reduce_ratio (k : Nat) (n : Int) :
    ∃ (m : Int) (j : Nat), j ≤ k ∧ reduce k n (10 ^ k) = (m, 10 ^ j) ∧
      (m : Rat) / 10 ^ j = n / 10 ^ k := by
  induction k generalizing n with
  | zero => exact ⟨n, 0, le_refl 0, rfl, rfl⟩
  | succ k ih =>
      rw [reduce]
      split
      case isTrue h =>
        obtain ⟨m, j, hj, hreduce, hratio⟩ := ih (n / 10)
        refine ⟨m, j, Nat.le_succ_of_le hj, ?_, ?_⟩
        · rw [pow_succ, Nat.mul_div_cancel _ (by decide), hreduce]
        · have hten : (n : Rat) = (n / 10 : Int) * 10 := by
            exact_mod_cast (Int.ediv_mul_cancel (Int.dvd_of_emod_eq_zero h.2)).symm
          rw [hratio, hten, pow_succ, mul_div_mul_right _ _ (by norm_num)]
      case isFalse => exact ⟨n, k + 1, le_refl _, rfl, rfl⟩

/-- A tie between two whole numbers has digits in double precision. -/
theorem isDouble_tie {q : Rat} {n : Int} (htie : q = n + 1 / 2) (h : |q| < 2 ^ 47) :
    IsDouble q := by
  subst htie
  refine ⟨2 * n + 1, -1, ?_, ?_, by decide⟩
  · push_cast
    rw [zpow_neg_one]
    ring
  · have hbits : |((2 * n + 1 : Int) : Rat)| < 2 ^ 53 := by
      rw [abs_lt] at h ⊢
      push_cast
      constructor <;> linarith [h.1, h.2]
    exact_mod_cast hbits

/-- A power of ten with few digits is a double. -/
theorem isDouble_ten_pow {j : Nat} (h : j ≤ 18) : IsDouble (10 ^ j) := by
  refine ⟨5 ^ j, j, ?_, ?_, by omega⟩
  · push_cast
    rw [zpow_natCast, ← mul_pow]
    norm_num
  · rw [abs_of_pos (by positivity)]
    calc (5 : Int) ^ j ≤ 5 ^ 18 := pow_le_pow_right₀ (by decide) h
      _ < 2 ^ 53 := by decide

/-- A whole number is missed by a small part of it. -/
theorem Binary.Rounds.close_int {n : Int} {y : Rat} (h : Rounds n y) :
    |y - n| ≤ |(n : Rat)| / 2 ^ 52 := by
  by_cases hn : n = 0
  · have hsmall : |(n : Rat)| < 2 ^ 53 := by
      rw [hn, Int.cast_zero, abs_zero]
      positivity
    rw [h.exact (Binary.isDouble_intCast hsmall), sub_self, abs_zero]
    positivity
  · have hone : (1 : Rat) ≤ |(n : Rat)| := by exact_mod_cast Int.one_le_abs hn
    refine h.close.trans ?_
    rw [div_le_div_iff₀ (by positivity) (by positivity)]
    linarith

/-- The numbers that fit are far below the greatest double. -/
theorem ExactKind.Holds.abs_le_two_pow {kind : ExactKind} {q : Rat} (h : kind.Holds q) :
    |q| ≤ 2 ^ 127 := by
  cases kind with
  | integer =>
      obtain ⟨n, rfl, hlow, hhigh⟩ := h
      have hle : |n| ≤ 2 ^ 127 := abs_le.mpr ⟨by omega, by omega⟩
      exact_mod_cast hle
  | decimal =>
      obtain ⟨n, rfl, hlow, hhigh⟩ := h
      have hle : |n| ≤ 2 ^ 127 := abs_le.mpr ⟨hlow, hhigh.le⟩
      rw [abs_div, abs_of_pos (by positivity : (0 : Rat) < 10 ^ 18)]
      calc |(n : Rat)| / 10 ^ 18 ≤ |(n : Rat)| := div_le_self (abs_nonneg _) (by norm_num)
        _ ≤ 2 ^ 127 := by exact_mod_cast hle

namespace Decimal

variable {a : Decimal} {m : Int} {j : Nat}

/-- A decimal becomes the quotient of two whole numbers, of which the first is rounded. -/
theorem toDouble_rounds (hj : j ≤ 18) (hreduce : reduce 18 a.units scale = (m, 10 ^ j))
    (hratio : (m : Rat) / 10 ^ j = a.toRat) :
    ∃ x y : Rat, Rounds m x ∧ Rounds (x / 10 ^ j) y ∧ a.toDouble.HasValue y := by
  have hden : (1 : Rat) ≤ 10 ^ j := one_le_pow₀ (by norm_num)
  have hm : |(m : Rat)| < 2 ^ 190 := by
    calc |(m : Rat)| = |a.toRat| * 10 ^ j := by
          rw [← hratio, abs_div, abs_of_pos (by positivity : (0 : Rat) < 10 ^ j)]
          field_simp
      _ ≤ 2 ^ 127 * 10 ^ 18 := by
          gcongr
          · exact a.holds.abs_le_two_pow
          · norm_num
      _ < 2 ^ 190 := by norm_num
  have hpow : (((10 ^ j : Nat) : Int) : Rat) = 10 ^ j := by push_cast; rfl
  have htenSize : |(((10 ^ j : Nat) : Int) : Rat)| < 2 ^ 200 := by
    rw [hpow, abs_of_pos (by positivity)]
    calc (10 : Rat) ^ j ≤ 10 ^ 18 := pow_le_pow_right₀ (by norm_num) hj
      _ < 2 ^ 200 := by norm_num
  obtain ⟨x, hx, hxrounds⟩ := Binary.ofInt_rounds (hm.trans (by norm_num))
  obtain ⟨d, hd, hdrounds⟩ := Binary.ofInt_rounds htenSize
  rw [hpow] at hdrounds
  rw [hdrounds.exact (isDouble_ten_pow hj)] at hd
  have hxsize : |x| ≤ |(m : Rat)| + |(m : Rat)| / 2 ^ 52 :=
    sub_le_iff_le_add'.mp ((abs_sub_abs_le_abs_sub x m).trans hxrounds.close_int)
  have hsize : |x / 10 ^ j| < 2 ^ 200 := by
    rw [abs_div, abs_of_pos (by positivity : (0 : Rat) < 10 ^ j)]
    calc |x| / 10 ^ j ≤ |x| := div_le_self (abs_nonneg x) hden
      _ < 2 ^ 200 := by linarith
  obtain ⟨y, hy, hyrounds⟩ := Binary.div_rounds hx hd (by positivity) hsize
  refine ⟨x, y, hxrounds, hyrounds, ?_⟩
  rw [toDouble, hreduce]
  exact hy

/-- **A DECIMAL BECOMES A DOUBLE NEAR IT**. -/
theorem toDouble_close (a : Decimal) :
    ∃ y, a.toDouble.HasValue y ∧ |y - a.toRat| ≤ (|a.toRat| + 1) / 2 ^ 51 := by
  obtain ⟨m, j, hj, hreduce, hratio⟩ := reduce_ratio 18 a.units
  obtain ⟨x, y, hx, hy, hvalue⟩ := toDouble_rounds hj hreduce hratio
  refine ⟨y, hvalue, ?_⟩
  have hpos : (0 : Rat) < 10 ^ j := by positivity
  have hnear : |x / 10 ^ j - a.toRat| ≤ |a.toRat| / 2 ^ 52 := by
    rw [show a.toRat = m / 10 ^ j from hratio.symm, ← sub_div, abs_div, abs_div, abs_of_pos hpos,
      div_right_comm]
    gcongr
    exact hx.close_int
  have hsize : |x / 10 ^ j| ≤ |a.toRat| + |a.toRat| / 2 ^ 52 :=
    sub_le_iff_le_add'.mp ((abs_sub_abs_le_abs_sub _ _).trans hnear)
  calc |y - a.toRat| ≤ |y - x / 10 ^ j| + |x / 10 ^ j - a.toRat| := abs_sub_le _ _ _
    _ ≤ (|x / 10 ^ j| + 1) / 2 ^ 53 + |a.toRat| / 2 ^ 52 := add_le_add hy.close hnear
    _ ≤ (|a.toRat| + 1) / 2 ^ 51 := by linarith [abs_nonneg a.toRat]

/-- A decimal that is a tie, and not too large, becomes itself. -/
theorem toDouble_tie {n : Int} (htie : a.toRat = n + 1 / 2) (hsmall : |a.toRat| < 2 ^ 47) :
    a.toDouble.HasValue a.toRat := by
  have hunits : a.units = (10 * n + 5) * 10 ^ 17 := by
    have hscaled : (a.units : Rat) = (n + 1 / 2) * 10 ^ 18 := by
      rw [← htie, toRat]
      field_simp
    have hcast : (a.units : Rat) = ((10 * n + 5) * 10 ^ 17 : Int) := by
      rw [hscaled]
      push_cast
      ring
    exact_mod_cast hcast
  have hreduce : reduce 18 a.units scale = (10 * n + 5, 10 ^ 1) := by
    rw [hunits]
    refine (reduce_mul_pow 1 17 (by omega : (10 * n + 5) ≠ 0) 10).trans (if_neg ?_)
    omega
  have hratio : ((10 * n + 5 : Int) : Rat) / 10 ^ 1 = a.toRat := by
    rw [htie]
    push_cast
    ring
  obtain ⟨x, y, hx, hy, hvalue⟩ := toDouble_rounds (by decide) hreduce hratio
  have hbits : |((10 * n + 5 : Int) : Rat)| < 2 ^ 53 := by
    obtain ⟨hlow, hhigh⟩ := abs_lt.mp hsmall
    rw [abs_lt]
    push_cast
    constructor <;> linarith
  rw [hx.exact (Binary.isDouble_intCast hbits), hratio] at hy
  rwa [hy.exact (isDouble_tie htie hsmall)] at hvalue

end Decimal

/-- **A NUMBER BECOMES A DOUBLE NEAR IT**, and a tie that is not too large becomes itself. -/
theorem Numeric.toDouble_close {x : Numeric} {kind : ExactKind} {q : Rat} (h : x.HasValue kind q) :
    ∃ y, x.toDouble.HasValue y ∧ |y - q| ≤ (|q| + 1) / 2 ^ 51 ∧
      (∀ n : Int, q = n + 1 / 2 → |q| < 2 ^ 47 → y = q) := by
  cases h with
  | integer a =>
      have hsize : |(a.toInt : Rat)| < 2 ^ 200 :=
        a.holds.abs_le_two_pow.trans_lt (pow_lt_pow_right₀ one_lt_two (by decide))
      obtain ⟨y, hvalue, hrounds⟩ := Binary.ofInt_rounds hsize
      refine ⟨y, hvalue, hrounds.close.trans ?_, fun n htie hsmall =>
        hrounds.exact (isDouble_tie htie hsmall)⟩
      exact div_le_div_of_nonneg_left (by positivity) (by positivity) (by norm_num)
  | decimal a =>
      obtain ⟨y, hvalue, hclose⟩ := a.toDouble_close
      exact ⟨y, hvalue, hclose, fun n htie hsmall =>
        hvalue.unique (Decimal.toDouble_tie htie hsmall)⟩

/-! ## Positions -/

theorem hasValue_half : half.HasValue (1 / 2) := by
  obtain ⟨y, hvalue, hrounds⟩ := Binary.ofFraction_rounds false 1 Nat.two_pos (by norm_num)
  have hhalf : (Digits.signed false 1 / (2 : Nat) : Rat) = 1 / 2 := rfl
  rw [hhalf] at hrounds
  rwa [hrounds.exact ⟨1, -1, by norm_num, by decide, by decide⟩] at hvalue

/-- **A POSITION IS CUT OFF NEAR THE EXACT ONE**, and at the exact one for a tie that is not too
large. -/
theorem roundPosition_close {x : Numeric} {kind : ExactKind} {q : Rat} (h : x.HasValue kind q) :
    ∃ z : Rat, (roundPosition x).HasValue ⌊z⌋ ∧ |z - (q + 1 / 2)| ≤ (|q| + 1) / 2 ^ 50 ∧
      (∀ n : Int, q = n + 1 / 2 → |q| < 2 ^ 47 → z = q + 1 / 2) := by
  obtain ⟨y, hy, hclose, hexact⟩ := Numeric.toDouble_close h
  have hq := h.holds.abs_le_two_pow
  have hnear : |y + 1 / 2| ≤ |q| + (|q| + 1) / 2 ^ 51 + 1 / 2 := by
    have hy : |y| ≤ |q| + (|q| + 1) / 2 ^ 51 :=
      sub_le_iff_le_add'.mp ((abs_sub_abs_le_abs_sub y q).trans hclose)
    calc |y + 1 / 2| ≤ |y| + |1 / 2| := abs_add_le _ _
      _ = |y| + 1 / 2 := by rw [abs_of_pos (one_half_pos : (0 : Rat) < 1 / 2)]
      _ ≤ |q| + (|q| + 1) / 2 ^ 51 + 1 / 2 := by gcongr
  obtain ⟨z, hz, hrounds⟩ := Binary.add_rounds hy hasValue_half (by linarith)
  refine ⟨z, Binary.floor_hasValue hz, ?_, fun n htie hsmall => ?_⟩
  · calc |z - (q + 1 / 2)|
        ≤ |z - (y + 1 / 2)| + |y + 1 / 2 - (q + 1 / 2)| := abs_sub_le _ _ _
      _ = |z - (y + 1 / 2)| + |y - q| := by rw [add_sub_add_right_eq_sub]
      _ ≤ (|y + 1 / 2| + 1) / 2 ^ 53 + (|q| + 1) / 2 ^ 51 := add_le_add hrounds.close hclose
      _ ≤ (|q| + 1) / 2 ^ 50 := by linarith [abs_nonneg q]
  · rw [hexact n htie hsmall] at hrounds
    refine hrounds.exact ?_
    have hwhole : q + 1 / 2 = (n + 1 : Int) := by
      rw [htie]
      push_cast
      ring
    have hbits : |((n + 1 : Int) : Rat)| < 2 ^ 53 := by
      rw [← hwhole]
      rw [abs_lt] at hsmall ⊢
      constructor <;> linarith [hsmall.1, hsmall.2]
    rw [hwhole]
    exact Binary.isDouble_intCast hbits

end SparqlScalar
