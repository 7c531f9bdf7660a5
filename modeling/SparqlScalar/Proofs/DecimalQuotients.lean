import Mathlib.Data.Rat.Floor
import SparqlScalar.Proofs.ExactOperands

/-!
# Quotients of decimals

    A quotient of decimals is computed on whole numbers: the point of the dividend is moved to the
    right as far as 128 bits allow, that of the divisor to the left as far as nothing is lost, and
    what both were moved beyond eighteen places is taken back from the quotient:

      cutting   -- division of whole numbers cuts the rational quotient off toward zero, and so do
                   two divisions in a row (`wholePart_div`, `tdiv_tdiv_natCast`)
      moving    -- how far the points are moved is told by which powers of ten fit and divide
                   (`Decimal.le_stretch_iff`, `Decimal.le_shrink_iff`)
      room      -- and both together by the two values alone (`Decimal.hasRoom_iff`)
      quotient  -- so there is a quotient, the rational one cut off, exactly where the points are
                   moved neither too little nor too far and the word has room for the number before
                   it is taken back (`Decimal.div?_eq`)
-/

namespace SparqlScalar

/-! ## Cutting off -/

/-- The whole part of a rational number. -/
def wholePart (q : Rat) : Int := if 0 ≤ q then ⌊q⌋ else ⌈q⌉

/-- A rational number with all places after the eighteenth cut off. -/
def cutOff (q : Rat) : Rat := wholePart (q * 10 ^ 18) / 10 ^ 18

/-- To cut off the opposite is to take the opposite of what is cut off. -/
theorem wholePart_neg (q : Rat) : wholePart (-q) = -wholePart q := by
  unfold wholePart
  rcases lt_trichotomy q 0 with h | rfl | h
  · rw [if_pos (neg_nonneg.mpr h.le), if_neg h.not_ge, Int.floor_neg]
  · rw [neg_zero, if_pos le_rfl, Int.floor_zero, neg_zero]
  · rw [if_neg (neg_lt_zero.mpr h).not_ge, if_pos h.le, Int.ceil_neg]

/-- Whole numbers are divided by cutting off the rational quotient. -/
theorem wholePart_div (m n : Int) : wholePart ((m : Rat) / n) = m.tdiv n := by
  have hnat : ∀ k d : Nat, wholePart ((k : Rat) / d) = (k : Int).tdiv d := by
    intro k d
    unfold wholePart
    rw [if_pos (by positivity), Rat.floor_natCast_div_natCast]
    exact Int.ofNat_tdiv k d
  have hint : ∀ d : Nat, wholePart ((m : Rat) / d) = m.tdiv d := by
    intro d
    obtain ⟨k, rfl | rfl⟩ := Int.eq_nat_or_neg m
    · exact hnat k d
    · rw [Int.cast_neg, neg_div, wholePart_neg, Int.neg_tdiv]
      exact congrArg Neg.neg (hnat k d)
  obtain ⟨d, rfl | rfl⟩ := Int.eq_nat_or_neg n
  · exact hint d
  · rw [Int.cast_neg, div_neg, wholePart_neg, Int.tdiv_neg]
    exact congrArg Neg.neg (hint d)

/-- An integer has nothing to cut off. -/
theorem wholePart_intCast (n : Int) : wholePart n = n := by
  have h := wholePart_div n 1
  rwa [Int.cast_one, div_one, Int.tdiv_one] at h

/-- Cutting off twice is cutting off once. -/
theorem tdiv_tdiv_natCast (m n : Int) (d : Nat) : (m.tdiv n).tdiv d = m.tdiv (n * d) := by
  have hnat : ∀ k l : Nat, ((k : Int).tdiv l).tdiv d = (k : Int).tdiv (l * d) := by
    intro k l
    rw [← Int.ofNat_tdiv, ← Int.ofNat_tdiv, Nat.div_div_eq_div_mul, Int.ofNat_tdiv, Nat.cast_mul]
  have hint : ∀ l : Nat, (m.tdiv l).tdiv d = m.tdiv (l * d) := by
    intro l
    obtain ⟨k, rfl | rfl⟩ := Int.eq_nat_or_neg m
    · exact hnat k l
    · rw [Int.neg_tdiv, Int.neg_tdiv, Int.neg_tdiv, hnat]
  obtain ⟨l, rfl | rfl⟩ := Int.eq_nat_or_neg n
  · exact hint l
  · rw [neg_mul, Int.tdiv_neg, Int.tdiv_neg, Int.neg_tdiv, hint]

namespace Decimal

/-! ## Numbers of units -/

/-- A number of units fits the word. -/
def Fits (n : Int) : Prop := -2 ^ 127 ≤ n ∧ n < 2 ^ 127

theorem fits_units (a : Decimal) : Fits a.units := ⟨a.lower, a.upper⟩

/-- A count of units that fits is a decimal. -/
theorem ofUnits?_of_fits {n : Int} (h : Fits n) : ∃ a, ofUnits? n = some a :=
  ⟨⟨n, h.1, h.2⟩, ofUnits?_eq_some_iff.mpr rfl⟩

theorem ofUnits?_eq_none_iff_not_fits {n : Int} : ofUnits? n = none ↔ ¬ Fits n := by
  rw [ofUnits?_eq_none_iff]
  unfold Fits
  omega

/-- A number of units fits exactly if the decimals hold its value. -/
theorem holds_iff_fits {n : Int} {q : Rat} (h : q * 10 ^ 18 = n) :
    ExactKind.decimal.Holds q ↔ Fits n := by
  obtain rfl : q = (n : Rat) / 10 ^ 18 := by rw [← h, mul_div_cancel_right₀ _ (by norm_num)]
  constructor
  · intro hholds
    obtain ⟨a, ha⟩ := ofUnits?_of_holds hholds
    rw [← ofUnits?_eq_some_iff.mp ha]
    exact a.fits_units
  · rintro ⟨hlower, hupper⟩
    exact ⟨n, rfl, hlower, hupper⟩

theorem toRat_mul_scale (a : Decimal) : a.toRat * 10 ^ 18 = a.units :=
  div_mul_cancel₀ _ (by norm_num)

/-- What fits after the point was moved fits before. -/
theorem fits_of_mul_pow {n : Int} {places : Nat} (h : Fits (n * 10 ^ places)) : Fits n := by
  obtain ⟨hlower, hupper⟩ := h
  have hone : (1 : Int) ≤ 10 ^ places := one_le_pow₀ (by norm_num)
  rcases le_total 0 n with hn | hn
  · have := le_mul_of_one_le_right hn hone
    constructor <;> omega
  · have := mul_le_mul_of_nonpos_left hone hn
    constructor <;> omega

/-- A number other than zero does not fit with its point moved by more than thirty-eight places. -/
theorem places_le_of_fits {n : Int} {places : Nat} (hn : n ≠ 0) (h : Fits (n * 10 ^ places)) :
    places ≤ 38 := by
  by_contra hmore
  obtain ⟨more, rfl⟩ : ∃ more, places = 39 + more := ⟨places - 39, by omega⟩
  rw [pow_add, ← mul_assoc] at h
  obtain ⟨hlower, hupper⟩ := fits_of_mul_pow h
  omega

/-- A quotient leaves the word only where the least number is divided by minus one. -/
theorem fits_tdiv_iff {m n : Int} (hm : Fits m) (hn : n ≠ 0) :
    Fits (m.tdiv n) ↔ ¬ (m = -2 ^ 127 ∧ n = -1) := by
  obtain ⟨hlower, hupper⟩ := hm
  constructor
  · rintro ⟨-, hquotient⟩ ⟨rfl, rfl⟩
    exact absurd hquotient (by decide)
  · intro hleast
    have habs : (m.tdiv n).natAbs = m.natAbs / n.natAbs := Int.natAbs_tdiv m n
    by_cases hone : n.natAbs = 1
    · rcases (show n = 1 ∨ n = -1 by omega) with rfl | rfl
      · rw [Int.tdiv_one]
        exact ⟨hlower, hupper⟩
      · rw [Int.tdiv_neg, Int.tdiv_one]
        constructor <;> omega
    · have hhalf : m.natAbs / n.natAbs ≤ m.natAbs / 2 :=
        Nat.div_le_div_left (by omega) (by decide)
      constructor <;> omega

/-! ## Moving the points -/

/-- The point of a number can be moved to the right by some places; that of zero stays. -/
def MovesRight (n : Int) (places : Nat) : Prop := Fits (n * 10 ^ places) ∧ (n = 0 → places = 0)

/-- The point of a number can be moved to the left by some places; that of zero stays. -/
def MovesLeft (n : Int) (places : Nat) : Prop :=
  (10 : Int) ^ places ∣ n ∧ (n = 0 → places = 0)

/-- Every decimal can stay where it is. -/
theorem movesRight_zero {n : Int} (h : Fits n) : MovesRight n 0 :=
  ⟨by rwa [pow_zero, mul_one], fun _ => rfl⟩

theorem movesLeft_zero (n : Int) : MovesLeft n 0 :=
  ⟨by rw [pow_zero]; exact one_dvd n, fun _ => rfl⟩

/-- To move a place more is to move one place first. -/
theorem movesRight_succ_iff {n : Int} {places : Nat} (hn : n ≠ 0) :
    MovesRight n (places + 1) ↔ MovesRight (n * 10) places := by
  unfold MovesRight
  rw [pow_succ', mul_assoc, and_iff_left (absurd · hn),
    and_iff_left fun hzero => absurd hzero (mul_ne_zero hn (by norm_num))]

/-- To take one zero off first leaves one less to take off. -/
theorem movesLeft_succ_iff {n : Int} {places : Nat} (hn : n ≠ 0) :
    MovesLeft (n * 10) (places + 1) ↔ MovesLeft n places := by
  unfold MovesLeft
  rw [pow_succ, mul_dvd_mul_iff_right (by norm_num), and_iff_left (absurd · hn),
    and_iff_left fun hzero => absurd hzero (mul_ne_zero hn (by norm_num))]

/-- Where one place is too many, more are. -/
theorem not_movesRight_succ {n : Int} {places : Nat} (h : ¬ Fits (n * 10)) :
    ¬ MovesRight n (places + 1) := by
  rintro ⟨hfits, -⟩
  rw [pow_succ', ← mul_assoc] at hfits
  exact h (fits_of_mul_pow hfits)

theorem not_movesLeft_succ {n : Int} {places : Nat} (h : ¬ (10 : Int) ∣ n) :
    ¬ MovesLeft n (places + 1) :=
  fun hmoves => h ((dvd_pow_self 10 (Nat.succ_ne_zero places)).trans hmoves.1)

/-- Nothing was counted where nothing can be. -/
theorem le_zero_iff_of_stuck {P : Nat → Prop} (hzero : P 0) (hstuck : ∀ places, ¬ P (places + 1))
    (places : Nat) : places ≤ 0 ↔ P places := by
  cases places with
  | zero => exact iff_of_true le_rfl hzero
  | succ places => exact iff_of_false (Nat.not_succ_le_zero _) (hstuck places)

/-- One more was counted where one more can be. -/
theorem le_succ_iff_of_step {P Q : Nat → Prop} {count : Nat} (hzero : P 0)
    (hstep : ∀ places, P (places + 1) ↔ Q places) (hcount : ∀ places, places ≤ count ↔ Q places)
    (places : Nat) : places ≤ count + 1 ↔ P places := by
  cases places with
  | zero => exact iff_of_true (Nat.zero_le _) hzero
  | succ places => rw [Nat.succ_le_succ_iff, hcount, hstep]

/-- The point of the dividend is moved as far as the number fits. -/
theorem stretch_spec {fuel k : Nat} {n m : Int} (hn : Fits n) (h : stretch fuel n = (m, k)) :
    m = n * 10 ^ k ∧ Fits m ∧ ∀ places, places ≤ k ↔ places ≤ fuel ∧ MovesRight n places := by
  induction fuel generalizing n k with
  | zero =>
      obtain ⟨rfl, rfl⟩ := Prod.mk.inj h
      refine ⟨by rw [pow_zero, mul_one], hn, le_zero_iff_of_stuck ⟨le_rfl, movesRight_zero hn⟩ ?_⟩
      exact fun places hmoves => Nat.not_succ_le_zero _ hmoves.1
  | succ fuel ih =>
      have hstart : 0 ≤ fuel + 1 ∧ MovesRight n 0 := ⟨Nat.zero_le _, movesRight_zero hn⟩
      unfold stretch at h
      split at h
      case isTrue hzero =>
        obtain ⟨rfl, rfl⟩ := Prod.mk.inj h
        refine ⟨by rw [pow_zero, mul_one], hn, le_zero_iff_of_stuck hstart ?_⟩
        exact fun places hmoves => absurd (hmoves.2.2 hzero) (Nat.succ_ne_zero _)
      case isFalse hne =>
        cases hmore : ofUnits? (n * 10) with
        | some more =>
            rw [hmore] at h
            rcases hrest : stretch fuel more.units with ⟨m', k'⟩
            simp only [hrest] at h
            obtain ⟨rfl, rfl⟩ := Prod.mk.inj h
            obtain ⟨hvalue, hfits, hplaces⟩ := ih more.fits_units hrest
            rw [ofUnits?_eq_some_iff.mp hmore] at hvalue hplaces
            refine ⟨by rw [hvalue, pow_succ', mul_assoc], hfits,
              le_succ_iff_of_step hstart (fun places => ?_) hplaces⟩
            rw [Nat.succ_le_succ_iff, movesRight_succ_iff hne]
        | none =>
            rw [hmore] at h
            obtain ⟨rfl, rfl⟩ := Prod.mk.inj h
            refine ⟨by rw [pow_zero, mul_one], hn, le_zero_iff_of_stuck hstart fun places hmoves => ?_⟩
            exact not_movesRight_succ (ofUnits?_eq_none_iff_not_fits.mp hmore) hmoves.2

/-- The point of the divisor is moved as far as nothing is lost. -/
theorem shrink_spec {fuel k : Nat} {n m : Int} (h : shrink fuel n = (m, k)) :
    n = m * 10 ^ k ∧ ∀ places, places ≤ k ↔ places ≤ fuel ∧ MovesLeft n places := by
  induction fuel generalizing n k with
  | zero =>
      obtain ⟨rfl, rfl⟩ := Prod.mk.inj h
      refine ⟨by rw [pow_zero, mul_one], le_zero_iff_of_stuck ⟨le_rfl, movesLeft_zero n⟩ ?_⟩
      exact fun places hmoves => Nat.not_succ_le_zero _ hmoves.1
  | succ fuel ih =>
      have hstart : 0 ≤ fuel + 1 ∧ MovesLeft n 0 := ⟨Nat.zero_le _, movesLeft_zero n⟩
      unfold shrink at h
      split at h
      case isTrue hzero =>
        obtain ⟨rfl, rfl⟩ := Prod.mk.inj h
        refine ⟨by rw [pow_zero, mul_one], le_zero_iff_of_stuck hstart ?_⟩
        exact fun places hmoves => absurd (hmoves.2.2 hzero) (Nat.succ_ne_zero _)
      case isFalse hne =>
        split at h
        case isTrue hmod =>
          obtain ⟨less, rfl⟩ := Int.dvd_of_emod_eq_zero hmod
          rw [Int.mul_ediv_cancel_left _ (by norm_num)] at h
          rcases hrest : shrink fuel less with ⟨m', k'⟩
          simp only [hrest] at h
          obtain ⟨rfl, rfl⟩ := Prod.mk.inj h
          obtain ⟨hvalue, hplaces⟩ := ih hrest
          refine ⟨by rw [hvalue, pow_succ]; ring,
            le_succ_iff_of_step hstart (fun places => ?_) hplaces⟩
          rw [Nat.succ_le_succ_iff, mul_comm, movesLeft_succ_iff (right_ne_zero_of_mul hne)]
        case isFalse hmod =>
          obtain ⟨rfl, rfl⟩ := Prod.mk.inj h
          refine ⟨by rw [pow_zero, mul_one], le_zero_iff_of_stuck hstart fun places hmoves => ?_⟩
          exact not_movesLeft_succ (fun hdvd => hmod (Int.emod_eq_zero_of_dvd hdvd)) hmoves.2

/-- Thirty-eight places are enough for the dividend. -/
theorem le_stretch_iff {n m : Int} {k : Nat} (hn : Fits n) (h : stretch 38 n = (m, k))
    (places : Nat) : places ≤ k ↔ MovesRight n places := by
  rw [(stretch_spec hn h).2.2, and_iff_right_iff_imp]
  rintro ⟨hfits, hzero⟩
  by_cases hne : n = 0
  · rw [hzero hne]
    exact Nat.zero_le _
  · exact places_le_of_fits hne hfits

/-- Thirty-eight places are enough for the divisor. -/
theorem le_shrink_iff {n m : Int} {k : Nat} (hn : Fits n) (h : shrink 38 n = (m, k))
    (places : Nat) : places ≤ k ↔ MovesLeft n places := by
  rw [(shrink_spec h).2, and_iff_right_iff_imp]
  rintro ⟨⟨m', rfl⟩, hzero⟩
  by_cases hne : m' = 0
  · rw [hzero (by rw [hne, mul_zero])]
    exact Nat.zero_le _
  · rw [mul_comm] at hn
    exact places_le_of_fits hne hn

/-! ## Room -/

/-- The point of `p` can be moved to the right and that of `q` to the left, by a number of places in
all, and both stay decimals.  The point of zero is not moved. -/
def HasRoom (p q : Rat) (places : Nat) : Prop :=
  ∃ right left, right + left = places ∧ ExactKind.decimal.Holds (p * 10 ^ right) ∧
    (p = 0 → right = 0) ∧ ExactKind.decimal.Holds (q / 10 ^ left)

/-- How far a dividend moves, told by its value. -/
theorem movesRight_units_iff (a : Decimal) (places : Nat) :
    MovesRight a.units places ↔
      ExactKind.decimal.Holds (a.toRat * 10 ^ places) ∧ (a.toRat = 0 → places = 0) := by
  have hvalue : a.toRat * 10 ^ places * 10 ^ 18 = ((a.units * 10 ^ places : Int) : Rat) := by
    rw [mul_right_comm, toRat_mul_scale]
    push_cast
    rfl
  rw [holds_iff_fits hvalue, toRat_eq_zero_iff]
  rfl

/-- How far a divisor moves, told by its value. -/
theorem movesLeft_units_iff {b : Decimal} (hb : b.toRat ≠ 0) (places : Nat) :
    MovesLeft b.units places ↔ ExactKind.decimal.Holds (b.toRat / 10 ^ places) := by
  have hunits := mt b.toRat_eq_zero_iff.mpr hb
  have hvalue : ∀ n : Int, b.toRat / 10 ^ places = (n : Rat) / 10 ^ 18 ↔
      b.units = 10 ^ places * n := by
    intro n
    rw [div_eq_div_iff (by positivity) (by norm_num), toRat_mul_scale, mul_comm (n : Rat)]
    exact_mod_cast Iff.rfl
  constructor
  · rintro ⟨⟨n, hn⟩, -⟩
    have hscaled : Fits (n * 10 ^ places) := by
      rw [mul_comm, ← hn]
      exact b.fits_units
    obtain ⟨hlower, hupper⟩ := fits_of_mul_pow hscaled
    exact ⟨n, (hvalue n).mpr hn, hlower, hupper⟩
  · rintro ⟨n, hn, -, -⟩
    exact ⟨⟨n, (hvalue n).mp hn⟩, fun hzero => absurd hzero hunits⟩

variable {a b : Decimal} {dividend divisor : Int} {stretched shrunk : Nat}

/-- **ROOM**: how far the two points are moved in all is told by the two values. -/
theorem hasRoom_iff (hb : b.toRat ≠ 0) (hstretch : stretch 38 a.units = (dividend, stretched))
    (hshrink : shrink 38 b.units = (divisor, shrunk)) (places : Nat) :
    HasRoom a.toRat b.toRat places ↔ places ≤ stretched + shrunk := by
  have hright : ∀ right, right ≤ stretched ↔ _ := fun right =>
    (le_stretch_iff a.fits_units hstretch right).trans (movesRight_units_iff a right)
  have hleft : ∀ left, left ≤ shrunk ↔ _ := fun left =>
    (le_shrink_iff b.fits_units hshrink left).trans (movesLeft_units_iff hb left)
  constructor
  · rintro ⟨right, left, rfl, hp, hzero, hq⟩
    exact Nat.add_le_add ((hright right).mpr ⟨hp, hzero⟩) ((hleft left).mpr hq)
  · intro hplaces
    obtain ⟨hp, hzero⟩ := (hright (min places stretched)).mp (min_le_right _ _)
    refine ⟨min places stretched, places - min places stretched, by omega, hp, hzero, ?_⟩
    exact (hleft _).mp (by omega)

/-- The number before places are taken back leaves the word only where the least decimal is divided
by a negative power of ten. -/
theorem least_by_minus_one_iff (hb : b.toRat ≠ 0)
    (hstretch : stretch 38 a.units = (dividend, stretched))
    (hshrink : shrink 38 b.units = (divisor, shrunk)) (henough : 18 ≤ stretched + shrunk) :
    dividend = -2 ^ 127 ∧ divisor = -1 ↔
      a.toRat = -2 ^ 127 / 10 ^ 18 ∧ ∃ k : Nat, b.toRat = -10 ^ k := by
  have hdividend := (stretch_spec a.fits_units hstretch).1
  have hdivisor := (shrink_spec hshrink).1
  have ha : a.toRat = -2 ^ 127 / 10 ^ 18 ↔ a.units = -2 ^ 127 := by
    unfold toRat
    rw [div_left_inj' (by norm_num)]
    exact_mod_cast Iff.rfl
  have hb' : ∀ k : Nat, b.toRat = -10 ^ k ↔ b.units = -10 ^ (18 + k) := by
    intro k
    unfold toRat
    rw [div_eq_iff (by norm_num), neg_mul, ← pow_add, add_comm k]
    exact_mod_cast Iff.rfl
  rw [ha]
  simp only [hb']
  constructor
  · rintro ⟨rfl, rfl⟩
    -- the least number has no factor ten, so its point was not moved
    have hzero : stretched = 0 := by
      by_contra hne
      obtain ⟨more, rfl⟩ := Nat.exists_eq_add_one_of_ne_zero hne
      rw [pow_succ (10 : Int) more, ← mul_assoc] at hdividend
      omega
    rw [hzero, pow_zero, mul_one] at hdividend
    refine ⟨hdividend.symm, shrunk - 18, ?_⟩
    rw [hdivisor, Nat.add_sub_cancel' (by omega), neg_one_mul]
  · rintro ⟨hleast, k, hpower⟩
    have hzero : stretched = 0 := by
      by_contra hne
      obtain ⟨hfits, -⟩ := (le_stretch_iff a.fits_units hstretch 1).mp (Nat.one_le_iff_ne_zero.mpr hne)
      rw [hleast] at hfits
      exact absurd hfits.1 (by decide)
    refine ⟨by rw [hdividend, hleast, hzero, pow_zero, mul_one], ?_⟩
    have hmoved : 18 + k ≤ shrunk := by
      refine (le_shrink_iff b.fits_units hshrink _).mpr ⟨?_, fun hb0 => ?_⟩
      · rw [hpower]
        exact (dvd_refl _).neg_right
      · exact absurd (b.toRat_eq_zero_iff.mpr hb0) hb
    -- all of the power was moved, so nothing but the sign is left
    obtain ⟨more, rfl⟩ := Nat.exists_eq_add_of_le hmoved
    have hone : divisor * 10 ^ more = -1 := by
      refine mul_right_cancel₀ (b := (10 : Int) ^ (18 + k)) (by positivity) ?_
      rw [mul_assoc, ← pow_add, add_comm more, ← hdivisor, hpower, neg_one_mul]
    cases more with
    | zero => rwa [pow_zero, mul_one] at hone
    | succ more =>
        rw [pow_succ, ← mul_assoc] at hone
        omega

/-- The two points are moved by eighteen places at least and by fifty-six at most, and it is not the
least decimal that is divided by a negative power of ten. -/
structure Scalable (p q : Rat) : Prop where
  enough : HasRoom p q 18
  bounded : ¬ HasRoom p q 57
  notLeast : ¬ (p = -2 ^ 127 / 10 ^ 18 ∧ ∃ k : Nat, q = -10 ^ k)

/-- What is taken back from the quotient of the scaled numbers leaves the rational quotient, cut
off. -/
theorem tdiv_scaled (hb : b.toRat ≠ 0) (hstretch : stretch 38 a.units = (dividend, stretched))
    (hshrink : shrink 38 b.units = (divisor, shrunk)) (henough : 18 ≤ stretched + shrunk) :
    (dividend.tdiv divisor).tdiv ((10 ^ (stretched + shrunk - 18) : Nat) : Int) =
      wholePart (a.toRat / b.toRat * 10 ^ 18) := by
  obtain ⟨back, hback⟩ := Nat.exists_eq_add_of_le henough
  rw [tdiv_tdiv_natCast, ← wholePart_div, hback, Nat.add_sub_cancel_left,
    (stretch_spec a.fits_units hstretch).1]
  have hunits : (b.units : Rat) = divisor * 10 ^ shrunk := by exact_mod_cast (shrink_spec hshrink).1
  have hdivisor : (divisor : Rat) ≠ 0 := by
    intro hzero
    rw [hzero, zero_mul, Int.cast_eq_zero] at hunits
    exact hb (b.toRat_eq_zero_iff.mpr hunits)
  have hpowers : (10 : Rat) ^ stretched * 10 ^ shrunk = 10 ^ 18 * 10 ^ back := by
    rw [← pow_add, hback, pow_add]
  congr 1
  unfold toRat
  rw [hunits]
  push_cast
  field_simp
  rw [mul_assoc, hpowers]
  ring

/-- **QUOTIENTS**: decimals whose points have room have their rational quotient, cut off, if it
fits; other decimals have none. -/
theorem div?_eq (hb : b.toRat ≠ 0) :
    (Scalable a.toRat b.toRat →
        a.div? b = ofUnits? (wholePart (a.toRat / b.toRat * 10 ^ 18))) ∧
      (¬ Scalable a.toRat b.toRat → a.div? b = none) := by
  rcases hstretch : stretch 38 a.units with ⟨dividend, stretched⟩
  rcases hshrink : shrink 38 b.units with ⟨divisor, shrunk⟩
  have hdivisor : divisor ≠ 0 := by
    rintro rfl
    refine hb (b.toRat_eq_zero_iff.mpr ?_)
    rw [(shrink_spec hshrink).1, zero_mul]
  have hroom := hasRoom_iff hb hstretch hshrink
  have hfits := fits_tdiv_iff (stretch_spec a.fits_units hstretch).2.1 hdivisor
  have hdiv : a.div? b =
      if divisor = 0 ∨ stretched + shrunk < 18 ∨ 38 < stretched + shrunk - 18 then none
      else (ofUnits? (dividend.tdiv divisor)).bind fun quotient =>
        ofUnits? (quotient.units.tdiv ((10 ^ (stretched + shrunk - 18) : Nat) : Int)) := by
    unfold div?
    simp only [hstretch, hshrink]
    rfl
  rw [hdiv]
  constructor
  · rintro ⟨henough, hbounded, hnotLeast⟩
    rw [hroom] at henough hbounded
    rw [least_by_minus_one_iff hb hstretch hshrink henough] at hfits
    obtain ⟨quotient, hquotient⟩ := ofUnits?_of_fits (hfits.mpr hnotLeast)
    rw [if_neg (by omega), hquotient, Option.bind_some, ofUnits?_eq_some_iff.mp hquotient,
      tdiv_scaled hb hstretch hshrink henough]
  · intro hnot
    split
    case isTrue => rfl
    case isFalse hcheck =>
      have henough : 18 ≤ stretched + shrunk := by omega
      have hleast : a.toRat = -2 ^ 127 / 10 ^ 18 ∧ ∃ k : Nat, b.toRat = -10 ^ k := by
        by_contra hnotLeast
        exact hnot ⟨(hroom 18).mpr henough, fun hmore => by have := (hroom 57).mp hmore; omega,
          hnotLeast⟩
      rw [← least_by_minus_one_iff hb hstretch hshrink henough] at hleast
      rw [ofUnits?_eq_none_iff_not_fits.mpr (mt hfits.mp (not_not_intro hleast)), Option.bind_none]

end Decimal

end SparqlScalar
