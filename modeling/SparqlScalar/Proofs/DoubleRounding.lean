import Mathlib.Algebra.Order.Field.Power
import Mathlib.Algebra.Order.Floor.Semifield
import Mathlib.Data.Rat.Floor
import Mathlib.Tactic.FieldSimp
import Mathlib.Tactic.Linarith
import Mathlib.Tactic.Positivity
import SparqlScalar.Number.Binary
import SparqlScalar.Proofs.ExactComparisons

/-!
# Rounding to double precision

    The operations on doubles round an exact fraction once.  What they give is a number of the
    format, near the exact result:

      values    -- a finite datum stands for a rational number (`Binary.HasValue`)
      exponents -- the exponent of a fraction leaves 53 bits before the point, all of them used
                   unless it is the least one (`Binary.isExponentOf_exponentFor`)
      rounding  -- a fraction that is a number of the format is kept, and any other one is missed
                   by at most half a unit in the last place (`Binary.ofFraction_rounds`)
-/

namespace SparqlScalar

open Digits (signed)

namespace Binary

/-! ## Values -/

/-- The number that a finite datum stands for. -/
inductive HasValue : Double → Rat → Prop where
  | finite (negative : Bool) (significand : Nat) (exponent : Int)
      (h : BinaryFormat.double.Canonical significand exponent) :
      HasValue (.finite negative significand exponent h)
        (signed negative significand * 2 ^ exponent)

theorem HasValue.unique {a : Double} {p q : Rat} (h : a.HasValue p) (h' : a.HasValue q) :
    p = q := by
  cases h with
  | finite negative significand exponent hcanonical =>
      cases h'
      rfl

/-- The numbers that double precision has digits for. -/
def IsDouble (q : Rat) : Prop :=
  ∃ m e : Int, q = m * 2 ^ e ∧ |m| < 2 ^ 53 ∧ -1074 ≤ e

/-- A number is rounded: it is kept if double precision has digits for it, and else it is missed by
half a unit in the last place at most. -/
structure Rounds (q y : Rat) : Prop where
  exact : IsDouble q → y = q
  close : |y - q| ≤ (|q| + 1) / 2 ^ 53

/-- A sign as a factor. -/
def signOf (negative : Bool) : Rat := if negative then -1 else 1

theorem abs_signOf (negative : Bool) : |signOf negative| = 1 := by
  cases negative with
  | false => exact abs_one
  | true => exact (abs_neg 1).trans abs_one

theorem signed_eq (negative : Bool) (n : Nat) : (signed negative n : Rat) = signOf negative * n := by
  cases negative with
  | false => exact (one_mul (n : Rat)).symm
  | true =>
      show ((-(n : Int) : Int) : Rat) = -1 * n
      push_cast
      ring

theorem two_zpow_add (e : Int) (n : Nat) : (2 : Rat) ^ (e + n) = 2 ^ n * 2 ^ e := by
  rw [zpow_add₀ two_ne_zero, zpow_natCast, mul_comm]

theorem isDouble_intCast {n : Int} (h : |(n : Rat)| < 2 ^ 53) : IsDouble n :=
  ⟨n, 0, by rw [zpow_zero, mul_one], by exact_mod_cast h, by decide⟩

theorem rounds_zero : Rounds 0 0 where
  exact := fun _ => rfl
  close := by
    rw [sub_zero, abs_zero]
    positivity

/-! ## Exponents -/

/-- A fraction is scaled by a power of two. -/
theorem scaleDown_ratio (num : Nat) {den : Nat} (hden : 0 < den) (exponent : Int) :
    0 < (scaleDown num den exponent).2 ∧
      ((scaleDown num den exponent).1 : Rat) / (scaleDown num den exponent).2 =
        num / den / 2 ^ exponent := by
  cases exponent with
  | ofNat k =>
      refine ⟨Nat.mul_pos hden (Nat.two_pow_pos k), ?_⟩
      show (num : Rat) / ((den * 2 ^ k : Nat) : Rat) = num / den / 2 ^ k
      push_cast
      rw [div_div]
  | negSucc k =>
      refine ⟨hden, ?_⟩
      show ((num * 2 ^ (k + 1) : Nat) : Rat) / den = num / den / 2 ^ Int.negSucc k
      rw [zpow_negSucc, div_inv_eq_mul]
      push_cast
      ring

/-- A fraction lies between the powers of two that the logarithms of its parts give. -/
theorem two_pow_log2_ratio {num den : Nat} (hnum : num ≠ 0) (hden : 0 < den) :
    (2 : Rat) ^ ((num.log2 : Int) - den.log2 - 1) < num / den ∧
      (num / den : Rat) < 2 ^ ((num.log2 : Int) - den.log2 + 1) := by
  have hpos : (0 : Rat) < den := Nat.cast_pos.mpr hden
  have hnumLow : (2 : Rat) ^ num.log2 ≤ num := by exact_mod_cast Nat.log2_self_le hnum
  have hnumHigh : (num : Rat) < 2 ^ (num.log2 + 1) := by exact_mod_cast Nat.lt_log2_self
  have hdenLow : (2 : Rat) ^ den.log2 ≤ den := by exact_mod_cast Nat.log2_self_le hden.ne'
  have hdenHigh : (den : Rat) < 2 ^ (den.log2 + 1) := by exact_mod_cast Nat.lt_log2_self
  have hsplit : ∀ (e : Int) (m n : Nat), e + n = m → (2 : Rat) ^ e * 2 ^ n = 2 ^ m := fun e m n h => by
    rw [mul_comm, ← two_zpow_add, h, zpow_natCast]
  constructor
  · rw [lt_div_iff₀ hpos]
    calc (2 : Rat) ^ ((num.log2 : Int) - den.log2 - 1) * den
        < 2 ^ ((num.log2 : Int) - den.log2 - 1) * 2 ^ (den.log2 + 1) := by gcongr
      _ = 2 ^ num.log2 := hsplit _ _ _ (by push_cast; ring)
      _ ≤ num := hnumLow
  · rw [div_lt_iff₀ hpos]
    calc (num : Rat) < 2 ^ (num.log2 + 1) := hnumHigh
      _ = 2 ^ ((num.log2 : Int) - den.log2 + 1) * 2 ^ den.log2 :=
          (hsplit _ _ _ (by push_cast; ring)).symm
      _ ≤ 2 ^ ((num.log2 : Int) - den.log2 + 1) * den := by gcongr

/-- An exponent leaves 53 bits of a magnitude before the point, all of them used unless it is the
least one. -/
structure IsExponentOf (e : Int) (x : Rat) : Prop where
  lt : x < 2 ^ (e + 53)
  least : -1074 ≤ e
  full : e = -1074 ∨ (2 : Rat) ^ (e + 52) ≤ x

/-- **THE EXPONENT OF A FRACTION** is the right one. -/
theorem isExponentOf_exponentFor {num den : Nat} (hnum : num ≠ 0) (hden : 0 < den) :
    IsExponentOf (exponentFor .double num den) (num / den) := by
  obtain ⟨hlow, hhigh⟩ := two_pow_log2_ratio hnum hden
  let guess : Int := (num.log2 : Int) - den.log2 - 53
  let best := if (scaleDown num den guess).1 / (scaleDown num den guess).2 < 2 ^ 53 then guess
    else guess + 1
  have hbest : (num / den : Rat) < 2 ^ (best + 53) ∧ (2 : Rat) ^ (best + 52) ≤ num / den := by
    obtain ⟨hpos, hratio⟩ := scaleDown_ratio num hden guess
    have hpos' : (0 : Rat) < (scaleDown num den guess).2 := Nat.cast_pos.mpr hpos
    have hpow : (0 : Rat) < 2 ^ guess := zpow_pos two_pos guess
    have hshift : (2 : Rat) ^ (guess + 53) = 2 ^ 53 * 2 ^ guess := two_zpow_add guess 53
    show (num / den : Rat) < 2 ^ ((if _ then guess else guess + 1) + 53) ∧
      (2 : Rat) ^ ((if _ then guess else guess + 1) + 52) ≤ num / den
    split
    case isTrue h =>
      rw [Nat.div_lt_iff_lt_mul hpos] at h
      have h' : ((scaleDown num den guess).1 : Rat) < 2 ^ 53 * (scaleDown num den guess).2 := by
        exact_mod_cast h
      rw [← div_lt_iff₀ hpos', hratio, div_lt_iff₀ hpow, ← hshift] at h'
      exact ⟨h', (congrArg _ (by ring)).trans_le hlow.le⟩
    case isFalse h =>
      rw [Nat.not_lt, Nat.le_div_iff_mul_le hpos] at h
      have h' : (2 : Rat) ^ 53 * (scaleDown num den guess).2 ≤ (scaleDown num den guess).1 := by
        exact_mod_cast h
      rw [← le_div_iff₀ hpos', hratio, le_div_iff₀ hpow, ← hshift] at h'
      exact ⟨hhigh.trans_eq (congrArg _ (by ring)), (congrArg _ (by ring)).trans_le h'⟩
  show IsExponentOf (max (-1074) best) (num / den)
  rcases le_total best (-1074) with h | h
  · rw [max_eq_left h]
    exact ⟨hbest.1.trans_le (zpow_le_zpow_right₀ one_le_two (by omega)), le_refl _, Or.inl rfl⟩
  · rw [max_eq_right h]
    exact ⟨hbest.1, h, Or.inr hbest.2⟩

namespace IsExponentOf

variable {e : Int} {x : Rat}

/-- The unit in the last place is small. -/
theorem unit_le (h : IsExponentOf e x) (hx : 0 ≤ x) : (2 : Rat) ^ e ≤ (x + 1) / 2 ^ 52 := by
  rcases h.full with rfl | hfull
  · calc (2 : Rat) ^ (-1074 : Int) ≤ 2 ^ (-52 : Int) :=
          zpow_le_zpow_right₀ one_le_two (by decide)
      _ = (0 + 1) / 2 ^ 52 := by rw [zpow_neg, zero_add, one_div]; rfl
      _ ≤ (x + 1) / 2 ^ 52 := by gcongr
  · rw [le_div_iff₀' (by positivity), ← two_zpow_add e 52]
    exact hfull.trans (le_add_of_nonneg_right one_pos.le)

/-- A smaller magnitude has a smaller exponent. -/
theorem lt_of_lt (h : IsExponentOf e x) {k : Int} (hk : -1074 < k) (hx : x < 2 ^ (k + 52)) :
    e < k := by
  rcases h.full with rfl | hfull
  · exact hk
  · have hpow := hfull.trans_lt hx
    rw [zpow_lt_zpow_iff_right₀ one_lt_two] at hpow
    omega

/-- A magnitude that 53 bits suffice for is a multiple of the unit. -/
theorem le_of_eq (h : IsExponentOf e x) {n : Nat} {k : Int} (hx : x = n * 2 ^ k) (hn : n < 2 ^ 53)
    (hk : -1074 ≤ k) : e ≤ k := by
  have hlt : x < 2 ^ (k + 1 + 52) := by
    calc x = n * 2 ^ k := hx
      _ < 2 ^ 53 * 2 ^ k := by gcongr; exact_mod_cast hn
      _ = 2 ^ (k + 1 + 52) := by
          rw [add_assoc]
          exact (two_zpow_add k 53).symm
  exact Int.lt_add_one_iff.mp (h.lt_of_lt (Int.lt_add_one_iff.mpr hk) hlt)

/-- The significand next to a magnitude has 53 bits, or is the next number. -/
theorem significand_bounds (h : IsExponentOf e x) {m : Nat}
    (hclose : |(m : Rat) - x / 2 ^ e| ≤ 1 / 2) : m ≤ 2 ^ 53 ∧ (e = -1074 ∨ 2 ^ 52 ≤ m) := by
  have hunit : (0 : Rat) < 2 ^ e := zpow_pos two_pos e
  obtain ⟨habove, hbelow⟩ := abs_le.mp hclose
  constructor
  · have hlt : x / 2 ^ e < 2 ^ 53 := by
      rw [div_lt_iff₀ hunit]
      exact h.lt.trans_eq (two_zpow_add e 53)
    have hnear : (m : Rat) < (2 ^ 53 + 1 : Nat) := by
      push_cast
      linarith
    exact Nat.le_of_lt_succ (Nat.cast_lt.mp hnear)
  · refine h.full.imp_right fun hfull => ?_
    have hle : 2 ^ 52 ≤ x / 2 ^ e := by
      rw [le_div_iff₀ hunit]
      exact (two_zpow_add e 52).symm.trans_le hfull
    have hnear : ((2 ^ 52 : Nat) : Rat) < (m + 1 : Nat) := by
      push_cast
      linarith
    exact Nat.le_of_lt_succ (Nat.cast_lt.mp hnear)

end IsExponentOf

/-! ## Rounding -/

/-- A quotient is rounded to a whole number that is half a unit away at most. -/
theorem divideToEven_close (num : Nat) {den : Nat} (hden : 0 < den) :
    |(divideToEven num den : Rat) - num / den| ≤ 1 / 2 := by
  have hpos : (0 : Rat) < den := Nat.cast_pos.mpr hden
  have hsplit : (num : Rat) = den * (num / den : Nat) + (num % den : Nat) := by
    exact_mod_cast (Nat.div_add_mod num den).symm
  have hrest : num % den < den := Nat.mod_lt num hden
  have hquotient : (num : Rat) / den = (num / den : Nat) + (num % den : Nat) / den := by
    rw [hsplit]
    field_simp
  rw [hquotient, divideToEven]
  split
  case isTrue h =>
    have hup : (den : Rat) ≤ 2 * (num % den : Nat) := by
      exact_mod_cast h.elim le_of_lt fun h => h.1.ge
    have hless : ((num % den : Nat) : Rat) < den := Nat.cast_lt.mpr hrest
    have hfrac : 1 / 2 ≤ ((num % den : Nat) : Rat) / den ∧ ((num % den : Nat) : Rat) / den ≤ 1 := by
      rw [le_div_iff₀ hpos, div_le_iff₀ hpos]
      constructor <;> linarith
    rw [abs_le]
    push_cast
    constructor <;> linarith [hfrac.1, hfrac.2]
  case isFalse h =>
    have hdown : 2 * ((num % den : Nat) : Rat) ≤ den := by
      exact_mod_cast Nat.not_lt.mp fun hlt => h (Or.inl hlt)
    have hfrac : ((num % den : Nat) : Rat) / den ≤ 1 / 2 ∧ 0 ≤ ((num % den : Nat) : Rat) / den := by
      rw [div_le_iff₀ hpos]
      exact ⟨by linarith, by positivity⟩
    rw [abs_le]
    constructor <;> linarith [hfrac.1, hfrac.2]

theorem hasValue_ofParts (negative : Bool) {significand : Nat} {exponent : Int}
    (h : BinaryFormat.double.Canonical significand exponent) :
    (ofParts negative significand exponent).HasValue
      (signed negative significand * 2 ^ exponent) := by
  rw [ofParts, dif_pos h]
  exact .finite negative significand exponent h

theorem hasValue_zero (negative : Bool) : (zero negative : Double).HasValue 0 := by
  have hleast : BinaryFormat.double.Canonical 0 (-1074) := by decide
  have hvalue := hasValue_ofParts negative hleast
  rwa [signed_eq, Nat.cast_zero, mul_zero, zero_mul] at hvalue

/-- The datum that a fraction is rounded to has the rounded significand, also where that takes one
bit too many. -/
theorem hasValue_ofFraction (negative : Bool) {num den : Nat} (hnum : num ≠ 0) {m : Nat} {e : Int}
    (he : exponentFor .double num den = e)
    (hm : divideToEven (scaleDown num den e).1 (scaleDown num den e).2 = m) (hhigh : m ≤ 2 ^ 53)
    (hlow : -1074 ≤ e) (hroom : e < 971) (hfull : e = -1074 ∨ 2 ^ 52 ≤ m) :
    (ofFraction negative num den).HasValue (signed negative m * 2 ^ e) := by
  rw [ofFraction, if_neg hnum, he]
  dsimp only
  rw [hm]
  split
  case isTrue hcarry =>
    have hnext : BinaryFormat.double.Canonical (2 ^ 52) (e + 1) :=
      ⟨by decide, Int.le_add_one hlow, hroom, Or.inr (le_refl _)⟩
    have hsame : (signed negative m * 2 ^ e : Rat) = signed negative (2 ^ 52) * 2 ^ (e + 1) := by
      rw [show m = 2 ^ 53 from hcarry, signed_eq, signed_eq, zpow_add₀ two_ne_zero]
      push_cast
      ring
    rw [hsame]
    exact hasValue_ofParts negative hnext
  case isFalse hcarry =>
    exact hasValue_ofParts negative ⟨lt_of_le_of_ne hhigh hcarry, hlow, hroom.le, hfull⟩

/-- The magnitude of a fraction is rounded, whatever the sign. -/
theorem magnitude_rounds {num den : Nat} (hnum : num ≠ 0) (hden : 0 < den)
    (hsize : (num / den : Rat) < 2 ^ 200) :
    ∃ y : Rat,
      (∀ negative, (ofFraction negative num den).HasValue (signOf negative * y)) ∧
      (∀ (n : Nat) (k : Int), (num / den : Rat) = n * 2 ^ k → n < 2 ^ 53 → -1074 ≤ k →
        y = num / den) ∧
      |y - num / den| ≤ (num / den + 1) / 2 ^ 53 := by
  have hexponent := isExponentOf_exponentFor hnum hden
  generalize he : exponentFor .double num den = e at hexponent
  obtain ⟨hpos, hratio⟩ := scaleDown_ratio num hden e
  have hclose := divideToEven_close (scaleDown num den e).1 hpos
  generalize hm : divideToEven (scaleDown num den e).1 (scaleDown num den e).2 = m at hclose
  rw [hratio] at hclose
  have hx : (0 : Rat) ≤ num / den := by positivity
  generalize (num / den : Rat) = x at hsize hexponent hclose hx
  have hunit : (0 : Rat) < 2 ^ e := zpow_pos two_pos e
  obtain ⟨hhigh, hfull⟩ := hexponent.significand_bounds hclose
  have hroom : e < 148 := hexponent.lt_of_lt (by decide) hsize
  refine ⟨m * 2 ^ e, fun negative => ?_, fun n k hdyadic hn hk => ?_, ?_⟩
  · rw [← mul_assoc, ← signed_eq]
    exact hasValue_ofFraction negative hnum he hm hhigh hexponent.least
      (hroom.trans (by decide)) hfull
  · -- the quotient by the unit is a whole number, so it is the significand
    obtain ⟨j, rfl⟩ := Int.le.dest (hexponent.le_of_eq hdyadic hn hk)
    have hwhole : x / 2 ^ e = (n * 2 ^ j : Nat) := by
      rw [hdyadic, zpow_add₀ two_ne_zero, zpow_natCast]
      push_cast
      field_simp
    rw [hwhole] at hclose
    have hnear : |(m : Int) - (n * 2 ^ j : Nat)| < 1 := by
      exact_mod_cast hclose.trans_lt one_half_lt_one
    obtain rfl : m = n * 2 ^ j := Int.natCast_inj.mp (sub_eq_zero.mp (Int.abs_lt_one_iff.mp hnear))
    rw [← hwhole, div_mul_cancel₀ x hunit.ne']
  · have hscaled : (m * 2 ^ e - x : Rat) = (m - x / 2 ^ e) * 2 ^ e := by
      field_simp
    have hsmall := hexponent.unit_le hx
    rw [hscaled, abs_mul, abs_of_pos hunit]
    calc |(m : Rat) - x / 2 ^ e| * 2 ^ e ≤ 1 / 2 * ((x + 1) / 2 ^ 52) := by gcongr
      _ = (x + 1) / 2 ^ 53 := by ring

/-- **A FRACTION IS ROUNDED**. -/
theorem ofFraction_rounds (negative : Bool) (num : Nat) {den : Nat} (hden : 0 < den)
    (hsize : (num / den : Rat) < 2 ^ 200) :
    ∃ y, (ofFraction negative num den).HasValue y ∧ Rounds (signed negative num / den) y := by
  by_cases hnum : num = 0
  · subst hnum
    refine ⟨0, hasValue_zero negative, ?_⟩
    rw [signed_eq, Nat.cast_zero, mul_zero, zero_div]
    exact rounds_zero
  · obtain ⟨y, hvalue, hexact, hclose⟩ := magnitude_rounds hnum hden hsize
    have hx : (0 : Rat) ≤ num / den := by positivity
    refine ⟨_, hvalue negative, ?_⟩
    rw [signed_eq, mul_div_assoc]
    generalize (num / den : Rat) = x at hexact hclose hx
    have habs : |signOf negative * x| = x := by
      rw [abs_mul, abs_signOf, one_mul, abs_of_nonneg hx]
    constructor
    · rintro ⟨m, k, hdyadic, hm, hk⟩
      have hpow : (0 : Rat) < 2 ^ k := zpow_pos two_pos k
      have hmagnitude : x = (m.natAbs : Nat) * 2 ^ k := by
        rw [← habs, hdyadic, abs_mul, abs_of_pos hpow, Nat.cast_natAbs, Int.cast_abs]
      rw [hexact _ k hmagnitude (by zify; exact hm) hk]
    · rw [← mul_sub, abs_mul, abs_signOf, one_mul, habs]
      exact hclose

/-! ## Operations -/

variable {a b : Double} {p q : Rat}

/-- **AN INTEGER IS ROUNDED**. -/
theorem ofInt_rounds {n : Int} (hsize : |(n : Rat)| < 2 ^ 200) :
    ∃ y, (ofInt n : Double).HasValue y ∧ Rounds n y := by
  have hnum : ((n.natAbs : Rat) / (1 : Nat)) < 2 ^ 200 := by
    rw [Nat.cast_one, div_one, Nat.cast_natAbs, Int.cast_abs]
    exact hsize
  obtain ⟨y, hvalue, hrounds⟩ := ofFraction_rounds (n < 0) n.natAbs Nat.one_pos hnum
  rw [Digits.signed_natAbs, Nat.cast_one, div_one] at hrounds
  exact ⟨y, hvalue, hrounds⟩

theorem ofDyadic_rounds (negative : Bool) (m : Nat) (e : Int)
    (hsize : (m * 2 ^ e : Rat) < 2 ^ 200) :
    ∃ y, (ofDyadic negative m e).HasValue y ∧ Rounds (signed negative m * 2 ^ e) y := by
  cases e with
  | ofNat k =>
      have hnum : ((m * 2 ^ k : Nat) : Rat) / (1 : Nat) = m * 2 ^ k := by
        push_cast
        exact div_one _
      obtain ⟨y, hvalue, hrounds⟩ :=
        ofFraction_rounds negative (m * 2 ^ k) Nat.one_pos (hnum.trans_lt hsize)
      rw [Digits.signed_mul, Nat.cast_one, div_one] at hrounds
      push_cast at hrounds
      exact ⟨y, hvalue, hrounds⟩
  | negSucc k =>
      have hden : ∀ x : Rat, x / (2 ^ (k + 1) : Nat) = x * 2 ^ Int.negSucc k := fun x => by
        rw [zpow_negSucc, div_eq_mul_inv]
        push_cast
        rfl
      obtain ⟨y, hvalue, hrounds⟩ :=
        ofFraction_rounds negative m (Nat.two_pow_pos (k + 1)) ((hden m).trans_lt hsize)
      rw [hden] at hrounds
      exact ⟨y, hvalue, hrounds⟩

/-- Two data are multiples of one power of two. -/
theorem align_values (s : Bool) (m : Nat) (k : Int) (t : Bool) (n : Nat) (l : Int) :
    let aligned := align s m k t n l
    (signed s m * 2 ^ k : Rat) = aligned.1 * 2 ^ aligned.2.2 ∧
      (signed t n * 2 ^ l : Rat) = aligned.2.1 * 2 ^ aligned.2.2 := by
  have hmultiple : ∀ (s : Bool) (m : Nat) (k e : Int), e ≤ k →
      (signed s m * 2 ^ k : Rat) = (signed s (m * 2 ^ (k - e).toNat) : Int) * 2 ^ e :=
    fun s m k e hle => by
      obtain ⟨j, rfl⟩ := Int.le.dest hle
      rw [add_sub_cancel_left, Int.toNat_natCast, zpow_add₀ two_ne_zero, zpow_natCast, signed_eq,
        signed_eq]
      push_cast
      ring
  exact ⟨hmultiple s m k _ (min_le_left k l), hmultiple t n l _ (min_le_right k l)⟩

/-- **A SUM IS ROUNDED**. -/
theorem add_rounds (ha : a.HasValue p) (hb : b.HasValue q) (hsize : |p + q| < 2 ^ 200) :
    ∃ y, (a.add b).HasValue y ∧ Rounds (p + q) y := by
  cases ha with
  | finite s m k hm =>
  cases hb with
  | finite t n l hn =>
      obtain ⟨hleft, hright⟩ := align_values s m k t n l
      have hadd : (Binary.finite s m k hm : Double).add (.finite t n l hn) =
          let aligned := align s m k t n l
          if aligned.1 + aligned.2.1 = 0 then zero (s && t)
          else ofDyadic (aligned.1 + aligned.2.1 < 0) (aligned.1 + aligned.2.1).natAbs
            aligned.2.2 := rfl
      rw [hadd]
      generalize align s m k t n l = aligned at hleft hright ⊢
      obtain ⟨x, y, e⟩ := aligned
      dsimp only at hleft hright ⊢
      have hsum : (signed s m * 2 ^ k + signed t n * 2 ^ l : Rat) = (x + y : Int) * 2 ^ e := by
        rw [hleft, hright]
        push_cast
        ring
      rw [hsum] at hsize ⊢
      split
      case isTrue hzero =>
        rw [hzero, Int.cast_zero, zero_mul]
        exact ⟨0, hasValue_zero _, rounds_zero⟩
      case isFalse =>
        have hpow : (0 : Rat) < 2 ^ e := zpow_pos two_pos e
        rw [abs_mul, abs_of_pos hpow, ← Int.cast_abs, ← Nat.cast_natAbs] at hsize
        obtain ⟨z, hvalue, hrounds⟩ := ofDyadic_rounds (x + y < 0) _ e hsize
        rw [Digits.signed_natAbs] at hrounds
        exact ⟨z, hvalue, hrounds⟩

/-- **A QUOTIENT IS ROUNDED**. -/
theorem div_rounds (ha : a.HasValue p) (hb : b.HasValue q) (hq : q ≠ 0)
    (hsize : |p / q| < 2 ^ 200) :
    ∃ y, (a.div b).HasValue y ∧ Rounds (p / q) y := by
  cases ha with
  | finite s m k hm =>
  cases hb with
  | finite t n l hn =>
      have hne : n ≠ 0 := by
        rintro rfl
        rw [signed_eq, Nat.cast_zero, mul_zero, zero_mul] at hq
        exact hq rfl
      obtain ⟨hpos, hratio⟩ := scaleDown_ratio m (Nat.pos_of_ne_zero hne) (l - k)
      have hquotient : (signed s m * 2 ^ k / (signed t n * 2 ^ l) : Rat) =
          signed (s != t) (scaleDown m n (l - k)).1 / (scaleDown m n (l - k)).2 := by
        calc (signed s m * 2 ^ k / (signed t n * 2 ^ l) : Rat)
            = signOf (s != t) * (m / n / 2 ^ (l - k)) := by
              rw [signed_eq, signed_eq, zpow_sub₀ two_ne_zero]
              cases s <;> cases t <;> simp [signOf] <;> field_simp
          _ = signed (s != t) (scaleDown m n (l - k)).1 / (scaleDown m n (l - k)).2 := by
              rw [← hratio, signed_eq, mul_div_assoc]
      have hdiv : (Binary.finite s m k hm : Double).div (.finite t n l hn) =
          ofFraction (s != t) (scaleDown m n (l - k)).1 (scaleDown m n (l - k)).2 := if_neg hne
      rw [hdiv, hquotient]
      refine ofFraction_rounds (s != t) _ hpos (lt_of_eq_of_lt ?_ hsize)
      rw [hquotient, signed_eq, mul_div_assoc, abs_mul, abs_signOf, one_mul,
        abs_of_nonneg (by positivity)]

/-- A whole number of 53 bits is kept. -/
theorem hasValue_ofFraction_one (negative : Bool) {n : Nat} (h : n < 2 ^ 53) :
    (ofFraction negative n 1).HasValue (signed negative n) := by
  have hn : (n : Rat) < 2 ^ 53 := by exact_mod_cast h
  have hsize : ((n : Rat) / (1 : Nat)) < 2 ^ 200 := by
    rw [Nat.cast_one, div_one]
    exact hn.trans (pow_lt_pow_right₀ one_lt_two (by decide))
  have habs : |(signed negative n : Rat)| < 2 ^ 53 := by
    rw [signed_eq, abs_mul, abs_signOf, one_mul, Nat.abs_cast]
    exact hn
  obtain ⟨y, hvalue, hrounds⟩ := ofFraction_rounds negative n Nat.one_pos hsize
  rw [Nat.cast_one, div_one] at hrounds
  rwa [hrounds.exact (isDouble_intCast habs)] at hvalue

/-- The whole number below a quotient, or above it if that is to be negative. -/
theorem floor_signed_div (negative : Bool) (m : Nat) {w : Nat} (hw : 0 < w) :
    ⌊(signed negative m / w : Rat)⌋ =
      signed negative (if negative ∧ m % w ≠ 0 then m / w + 1 else m / w) := by
  have hpos : (0 : Rat) < w := Nat.cast_pos.mpr hw
  have hsplit : (m : Rat) = w * (m / w : Nat) + (m % w : Nat) := by
    exact_mod_cast (Nat.div_add_mod m w).symm
  have hrest : ((m % w : Nat) : Rat) < w := Nat.cast_lt.mpr (Nat.mod_lt m hw)
  have hnonneg : (0 : Rat) ≤ (m % w : Nat) := Nat.cast_nonneg _
  rw [Int.floor_eq_iff, le_div_iff₀ hpos, div_lt_iff₀ hpos, signed_eq, signed_eq, hsplit]
  generalize m / w = quotient, m % w = rest at hrest hnonneg
  cases negative with
  | false =>
      have hkept : ¬ (false = true ∧ rest ≠ 0) := fun h => Bool.false_ne_true h.1
      rw [if_neg hkept, show signOf false = 1 from rfl]
      constructor <;> linarith
  | true =>
      rw [show signOf true = -1 from rfl]
      split
      case isTrue h =>
        have hone : (1 : Rat) ≤ rest := Nat.one_le_cast.mpr (Nat.pos_of_ne_zero h.2)
        push_cast
        constructor <;> linarith
      case isFalse h =>
        obtain rfl : rest = 0 := by_contra fun hne => h ⟨rfl, hne⟩
        rw [Nat.cast_zero] at hrest ⊢
        constructor <;> linarith

/-- **FLOORS ARE EXACT**. -/
theorem floor_hasValue (ha : a.HasValue q) : a.floor.HasValue ⌊q⌋ := by
  cases ha with
  | finite s m k hm =>
      by_cases hk : 0 ≤ k
      · obtain ⟨j, rfl⟩ := Int.eq_ofNat_of_zero_le hk
        have hwhole : (signed s m * 2 ^ (j : Int) : Rat) = (signed s m * 2 ^ j : Int) := by
          push_cast
          rw [zpow_natCast]
        have hfloor : (Binary.finite s m j hm : Double).floor = .finite s m j hm := by
          rw [floor, toWhole, if_pos hk]
        rw [hfloor, hwhole, Int.floor_intCast, ← hwhole]
        exact .finite s m j hm
      · obtain ⟨j, hj⟩ := Int.eq_ofNat_of_zero_le (Int.neg_nonneg.mpr (Int.not_le.mp hk).le)
        obtain rfl : k = -j := by omega
        have hvalue : (signed s m * 2 ^ (-j : Int) : Rat) = signed s m / (2 ^ j : Nat) := by
          rw [zpow_neg, zpow_natCast, ← div_eq_mul_inv, Nat.cast_pow]
          rfl
        have hfloor : (Binary.finite s m (-j) hm : Double).floor =
            ofFraction s (if s ∧ m % 2 ^ j ≠ 0 then m / 2 ^ j + 1 else m / 2 ^ j) 1 := by
          rw [floor, toWhole, if_neg hk, neg_neg, Int.toNat_natCast]
          rfl
        rw [hfloor, hvalue, floor_signed_div s m (Nat.two_pow_pos j)]
        have hsmall : (if s ∧ m % 2 ^ j ≠ 0 then m / 2 ^ j + 1 else m / 2 ^ j) < 2 ^ 53 := by
          have hhalf : m / 2 ^ j ≤ m / 2 :=
            Nat.div_le_div_left (Nat.le_pow (by omega)) Nat.two_pos
          have hbits : m < 2 ^ 53 := hm.1
          split <;> omega
        exact hasValue_ofFraction_one s hsmall

/-- Data are compared as their values are. -/
theorem compare?_hasValue (ha : a.HasValue p) (hb : b.HasValue q) :
    a.compare? b = some (compare p q) := by
  cases ha with
  | finite s m k hm =>
  cases hb with
  | finite t n l hn =>
      obtain ⟨hleft, hright⟩ := align_values s m k t n l
      have hincreasing : StrictMono fun z : Int => (z * 2 ^ (align s m k t n l).2.2 : Rat) :=
        fun x y hxy => by
          have hlt : (x : Rat) < y := Int.cast_lt.mpr hxy
          dsimp only
          gcongr
      rw [hleft, hright]
      exact congrArg some (compare_of_strictMono hincreasing _ _).symm

end Binary

end SparqlScalar
