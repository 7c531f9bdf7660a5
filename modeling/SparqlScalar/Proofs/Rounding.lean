import Mathlib.Data.Rat.Floor
import Mathlib.Tactic.Linarith
import SparqlScalar.Proofs.ExactOperands

/-!
# Rounding exact numbers

    Integers and decimals are rounded to whole numbers of their own kind.  The functions on rational
    numbers are given here by what they are (greatest below, least above, nearest), and the counts
    of units follow them up to both ends of the range:

      nearest   -- a number is rounded half away from zero to the nearest whole number, and of two
                   nearest ones to the one farther from zero (`isNearest_roundAway`)
      units     -- division of units is the floor of what they count (`Decimal.floor_units`), so
                   floor, ceiling and the rounding of halves up are floors of rational numbers
      signs     -- a decimal below zero is negated, rounded and negated again; no check on the way
                   refuses what fits, as no whole number of units is at the edge of the range
                   (`Decimal.ofInt?_neg`, `Decimal.round?_eq`)
      numbers   -- each function is exact or does not fit (`NumericFunction.number?_exact`)
      operands  -- so each is applied to well-typed literals exactly, or overflows
                   (`NumericFunction.apply_operand`)
-/

namespace SparqlScalar

open AdditiveOperator (Exactly exactly_integer exactly_decimal)

/-! ## Nearest -/

/-- The whole number with the sign of `q` and the magnitude `⌊|q| + 1 / 2⌋`. -/
def roundAway (q : Rat) : Int := if q < 0 then -⌊|q| + 1 / 2⌋ else ⌊|q| + 1 / 2⌋

/-- No whole number is nearer to `q` than `n`, and none that is as near is farther from zero. -/
structure IsNearest (q : Rat) (n : Int) : Prop where
  nearest : ∀ m : Int, |q - n| ≤ |q - m|
  ties : ∀ m : Int, |q - m| = |q - n| → |m| ≤ |n|

/-- The integer next to the opposite is the opposite of the integer. -/
theorem IsNearest.neg {q : Rat} {n : Int} (h : IsNearest q n) : IsNearest (-q) (-n) := by
  have hdistance : ∀ m : Int, |-q - (-m : Int)| = |q - m| := by
    intro m
    rw [← abs_neg]
    congr 1
    push_cast
    ring
  refine ⟨fun m => ?_, fun m => ?_⟩
  · have hm := hdistance (-m)
    rw [neg_neg] at hm
    rw [hdistance, hm]
    exact h.nearest (-m)
  · have hm := hdistance (-m)
    rw [neg_neg] at hm
    rw [hdistance, hm, abs_neg, ← abs_neg m]
    exact h.ties (-m)

/-- From zero upwards, half up is the nearest integer, ties away from zero. -/
theorem isNearest_of_nonneg {q : Rat} (hq : 0 ≤ q) : IsNearest q ⌊q + 1 / 2⌋ := by
  have hlower : (⌊q + 1 / 2⌋ : Rat) ≤ q + 1 / 2 := Int.floor_le _
  have hupper : q + 1 / 2 < ⌊q + 1 / 2⌋ + 1 := Int.lt_floor_add_one _
  have hnonneg : 0 ≤ ⌊q + 1 / 2⌋ := Int.floor_nonneg.mpr (by linarith)
  generalize ⌊q + 1 / 2⌋ = n at hlower hupper hnonneg ⊢
  have hhalf : |q - n| ≤ 1 / 2 := abs_le.mpr ⟨by linarith, by linarith⟩
  -- whole numbers below are at least a half away, and those above are farther
  have hbelow : ∀ m : Int, m < n → 1 / 2 ≤ |q - m| := by
    intro m hm
    have hstep : (m : Rat) + 1 ≤ n := by exact_mod_cast hm
    have hdistance := le_abs_self (q - m)
    linarith
  have habove : ∀ m : Int, n < m → 1 / 2 < |q - m| := by
    intro m hm
    have hstep : (n : Rat) + 1 ≤ m := by exact_mod_cast hm
    have hdistance := neg_le_abs (q - m)
    linarith
  constructor
  · intro m
    rcases lt_trichotomy m n with hm | rfl | hm
    · exact hhalf.trans (hbelow m hm)
    · exact le_rfl
    · exact hhalf.trans (habove m hm).le
  · intro m htie
    rw [← htie] at hhalf
    have hle : m ≤ n := not_lt.mp fun hm => (habove m hm).not_ge hhalf
    have hm : (-1 : Rat) < m := by
      have hdistance := (abs_le.mp hhalf).2
      linarith
    have hzero : 0 ≤ m := by
      have hint : -1 < m := by exact_mod_cast hm
      omega
    rwa [abs_of_nonneg hzero, abs_of_nonneg hnonneg]

theorem isNearest_roundAway (q : Rat) : IsNearest q (roundAway q) := by
  unfold roundAway
  split
  case isTrue h =>
    have hnear := (isNearest_of_nonneg (neg_nonneg.mpr h.le)).neg
    rwa [neg_neg, ← abs_of_neg h] at hnear
  case isFalse h =>
    have hnear := isNearest_of_nonneg (not_lt.mp h)
    rwa [abs_of_nonneg (not_lt.mp h)]

/-- A whole number is the nearest one to itself. -/
theorem roundAway_intCast (n : Int) : roundAway n = n := by
  have hnear := (isNearest_roundAway n).nearest n
  rw [sub_self, abs_zero, abs_nonpos_iff, sub_eq_zero, Int.cast_inj] at hnear
  exact hnear.symm

/-! ## Units -/

namespace Decimal

/-- Units are divided by the units in one as the rational number that they count is rounded down. -/
theorem floor_units (n : Int) : ⌊(n : Rat) / 10 ^ 18⌋ = n.fdiv scale := by
  rw [Int.fdiv_eq_ediv_of_nonneg n (Int.natCast_nonneg scale), ← Rat.floor_intCast_div_natCast]
  rfl

/-- The decimal of a whole number is the number, if it fits. -/
theorem exactly_ofInt? (n : Int) : Exactly ((ofInt? n).map .decimal) .decimal n := by
  refine exactly_decimal ?_
  rw [intCast_scale]
  push_cast
  ring

/-- FLOOR of a decimal is that of the rational, if it fits. -/
theorem floor?_eq (a : Decimal) : a.floor? = ofInt? ⌊a.toRat⌋ := by
  rw [toRat, floor_units]
  rfl

/-- CEIL of a decimal is that of the rational, if it fits. -/
theorem ceil?_eq (a : Decimal) : a.ceil? = ofInt? ⌈a.toRat⌉ := by
  rw [← neg_neg a.toRat, Int.ceil_neg, toRat, ← neg_div, ← Int.cast_neg, floor_units]
  rfl

/-- The half that is added before rounding down, counted in units. -/
theorem floor_units_add_half (n : Int) :
    ⌊(n : Rat) / 10 ^ 18 + 1 / 2⌋ = (n + scale / 2).fdiv scale := by
  have hscale : (scale : Int) / 2 = 500000000000000000 := rfl
  have hhalf : (n : Rat) / 10 ^ 18 + 1 / 2 = ((n + scale / 2 : Int) : Rat) / 10 ^ 18 := by
    rw [hscale]
    push_cast
    ring
  rw [hhalf, floor_units]

/-- The rounding that goes up at ties, for every decimal. -/
theorem roundHalfUp?_eq (a : Decimal) : a.roundHalfUp? = ofInt? ⌊a.toRat + 1 / 2⌋ := by
  rw [toRat, floor_units_add_half]
  rfl

/-- Whole numbers fit with either sign, as the least number of units is none of whole numbers. -/
theorem ofInt?_neg (n : Int) : ofInt? (-n) = (ofInt? n).bind neg? := by
  unfold ofInt?
  rw [intCast_scale]
  cases hn : ofUnits? (n * 1000000000000000000) with
  | some a => rw [Option.bind_some, neg?, ofUnits?_eq_some_iff.mp hn, neg_mul]
  | none =>
      rw [ofUnits?_eq_none_iff] at hn
      rw [Option.bind_none, ofUnits?_eq_none_iff]
      omega

theorem toRat_neg_iff (a : Decimal) : a.toRat < 0 ↔ a.units < 0 := by
  rw [toRat, div_lt_iff₀ (by norm_num), zero_mul, Int.cast_lt_zero]

/-- **ROUNDING DECIMALS**: a decimal is rounded as the rational number, if the result fits. -/
theorem round?_eq (a : Decimal) : a.round? = ofInt? (roundAway a.toRat) := by
  unfold round? roundAway
  by_cases hneg : a.units < 0
  · have hq : a.toRat < 0 := a.toRat_neg_iff.mpr hneg
    have habs : |a.toRat| = ((-a.units : Int) : Rat) / 10 ^ 18 := by
      rw [abs_of_neg hq, toRat, Int.cast_neg, neg_div]
    rw [if_pos hneg, if_pos hq, ofInt?_neg, habs]
    cases hb : a.neg? with
    | some b =>
        have hunits : b.units = -a.units := ofUnits?_eq_some_iff.mp hb
        rw [Option.bind_some, roundHalfUp?_eq, toRat, hunits]
    | none =>
        -- only the least decimal has no negative, and it is rounded to a number that does not fit
        have hleast : a.units = -0x80000000000000000000000000000000 := by
          have hlower := a.lower
          have hnone := ofUnits?_eq_none_iff.mp hb
          omega
        rw [hleast, floor_units_add_half]
        rfl
  · have hq : ¬ a.toRat < 0 := mt a.toRat_neg_iff.mp hneg
    rw [if_neg hneg, if_neg hq, roundHalfUp?_eq, abs_of_nonneg (not_lt.mp hq)]

end Decimal

/-! ## Numbers -/

/-- The functions on one number that keep its datatype. -/
inductive NumericFunction where
  | abs
  | ceil
  | floor
  | round
deriving DecidableEq

namespace NumericFunction

/-- The operator on terms. -/
def apply : NumericFunction → Term → EvalResult Term
  | .abs => magnitude
  | .ceil => ceilingOf
  | .floor => floorOf
  | .round => roundedOf

/-- The function on numbers. -/
def number? : NumericFunction → Numeric → Option Numeric
  | .abs => Numeric.abs?
  | .ceil => Numeric.ceil?
  | .floor => Numeric.floor?
  | .round => Numeric.round?

/-- The function on rational numbers. -/
def exact : NumericFunction → Rat → Rat
  | .abs, q => |q|
  | .ceil, q => ⌈q⌉
  | .floor, q => ⌊q⌋
  | .round, q => roundAway q

theorem apply_eq (f : NumericFunction) : f.apply = keepingDatatype f.number? := by
  cases f <;> rfl

/-- ABS, ROUND, CEIL and FLOOR are exact where the result fits, and missing where it does not. -/
theorem number?_exact (f : NumericFunction) {x : Numeric} {kind : ExactKind} {q : Rat}
    (h : x.HasValue kind q) : Exactly (f.number? x) kind (f.exact q) := by
  cases h with
  | integer a =>
      have hself : ∀ n : Int, n = a.toInt → Exactly (some (.integer a)) .integer n := by
        rintro _ rfl
        exact .integer a
      cases f with
      | abs =>
          show Exactly (a.abs?.map .integer) .integer |a.toRat|
          rw [Integer.abs?, Int.natCast_natAbs]
          refine exactly_integer ?_
          rw [Int.cast_abs]
          rfl
      | ceil => exact hself _ (Int.ceil_intCast _)
      | floor => exact hself _ (Int.floor_intCast _)
      | round => exact hself _ (roundAway_intCast _)
  | decimal a =>
      cases f with
      | abs =>
          show Exactly (a.abs?.map .decimal) .decimal |a.toRat|
          rw [Decimal.abs?, Int.natCast_natAbs]
          refine exactly_decimal ?_
          rw [Int.cast_abs, Decimal.toRat, abs_div,
            abs_of_pos (show (0 : Rat) < 10 ^ 18 by norm_num)]
      | ceil =>
          show Exactly (a.ceil?.map _) _ _
          rw [Decimal.ceil?_eq]
          exact Decimal.exactly_ofInt? _
      | floor =>
          show Exactly (a.floor?.map _) _ _
          rw [Decimal.floor?_eq]
          exact Decimal.exactly_ofInt? _
      | round =>
          show Exactly (a.round?.map _) _ _
          rw [Decimal.round?_eq]
          exact Decimal.exactly_ofInt? _

end NumericFunction

/-- The opposite of a number is exact where it fits, and missing where it does not. -/
theorem Numeric.neg?_exact {x : Numeric} {kind : ExactKind} {q : Rat} (h : x.HasValue kind q) :
    Exactly x.neg? kind (-q) := by
  cases h with
  | integer a =>
      show Exactly (a.neg?.map .integer) .integer (-a.toRat)
      exact exactly_integer (Int.cast_neg _)
  | decimal a =>
      show Exactly (a.neg?.map .decimal) .decimal (-a.toRat)
      refine exactly_decimal ?_
      rw [Int.cast_neg, neg_div]
      rfl

/-! ## Operands -/

/-- The exact result is written in the datatype of the operand, unless it does not fit the kind. -/
theorem NumericFunction.apply_operand (f : NumericFunction) (x : ExactOperand) :
    (∃ result : Numeric, result.HasValue x.kind (f.exact x.value) ∧
        f.apply x.term = .ok (.literal (result.toLiteralOf x.literal.datatypeIri))) ∨
      (f.apply x.term = evaluationError .numericOverflow ∧
        ¬ x.kind.Holds (f.exact x.value)) := by
  obtain ⟨number, hoperand, hnumber⟩ := x.numericOperand_term
  have hrun : f.apply x.term = (orOverflow (f.number? number)).map fun result =>
      .literal (result.toLiteralOf x.literal.datatypeIri) := by
    rw [f.apply_eq, keepingDatatype, hoperand]
    rfl
  rw [hrun]
  exact (f.number?_exact hnumber).written _

/-- The unary minus writes the opposite canonically or overflows. -/
theorem minus_operand (x : ExactOperand) :
    (∃ c : ExactOperand, minus x.term = .ok c.term ∧ c.literal.IsCanonical x.kind (-x.value)) ∨
      (minus x.term = evaluationError .numericOverflow ∧ ¬ x.kind.Holds (-x.value)) := by
  obtain ⟨number, hnumeric, hnumber⟩ := x.numeric_term
  have hrun : minus x.term = (orOverflow number.neg?).map fun result =>
      .literal result.toLiteral := by
    rw [minus, hnumeric]
    rfl
  rw [hrun]
  rcases (Numeric.neg?_exact hnumber).written fun result => .literal result.toLiteral with
    ⟨result, hresult, hwritten⟩ | hoverflow
  · exact Or.inl ⟨.ofNumber hresult, hwritten, hresult.toLiteral.1⟩
  · exact Or.inr hoverflow

/-- The canonical literal of the negative is what the minus sign gives. -/
theorem minus_eq_of_isCanonical {l l' : Literal} {kind : ExactKind} {q : Rat}
    (h : l.Denotes kind q) (hcanonical : l'.IsCanonical kind (-q)) (hfits : kind.Holds (-q)) :
    minus (.literal l) = .ok (.literal l') := by
  rcases minus_operand ⟨l, kind, q, h⟩ with ⟨c, hrun, hnegated⟩ | ⟨-, hnone⟩
  · rw [hcanonical.unique hnegated]
    exact hrun
  · exact absurd hfits hnone

/-- In the datatype of its kind a number is written as its canonical literal. -/
theorem Numeric.HasValue.toLiteralOf_datatype {x : Numeric} {kind : ExactKind} {q : Rat}
    (h : x.HasValue kind q) : x.toLiteralOf kind.datatype.iri = x.toLiteral := by
  cases h <;> rfl

/-! ## Decimals -/

/-- Away from zero is symmetric. -/
theorem roundAway_neg (q : Rat) : roundAway (-q) = -roundAway q := by
  rcases lt_trichotomy q 0 with hq | rfl | hq
  · have hneg : ¬ -q < 0 := by linarith
    rw [roundAway, roundAway, if_neg hneg, if_pos hq, abs_neg, neg_neg]
  · have hzero : roundAway 0 = 0 := roundAway_intCast 0
    rw [neg_zero, hzero, neg_zero]
  · have hneg : -q < 0 := by linarith
    rw [roundAway, roundAway, if_pos hneg, if_neg hq.not_gt, abs_neg]

theorem ExactKind.holds_decimal_neg_iff (n : Int) :
    ExactKind.decimal.Holds (-n : Int) ↔ ExactKind.decimal.Holds n := by
  have hneg : ∀ m : Int, ExactKind.decimal.Holds m → ExactKind.decimal.Holds (-m : Int) := by
    rintro m ⟨units, hunits, hlower, hupper⟩
    rw [eq_div_iff (by norm_num)] at hunits
    have hscaled : m * 10 ^ 18 = units := by exact_mod_cast hunits
    refine ⟨-units, ?_, by omega, by omega⟩
    rw [← hscaled]
    push_cast
    ring
  constructor
  · intro h
    have hback := hneg _ h
    rwa [neg_neg] at hback
  · exact hneg n

/-- A decimal is rounded to a canonical decimal, unless that does not fit. -/
theorem roundedOf_decimal {l : Literal} {q : Rat} (h : l.Denotes .decimal q) :
    ((∃ l' : Literal, roundedOf (.literal l) = .ok (.literal l') ∧
        l'.IsCanonical .decimal (roundAway q) ∧ l'.Denotes .decimal (roundAway q)) ∧
      ExactKind.decimal.Holds (roundAway q)) ∨
      (roundedOf (.literal l) = evaluationError .numericOverflow ∧
        ¬ ExactKind.decimal.Holds (roundAway q)) := by
  have hdatatype : l.datatypeIri = ExactKind.decimal.datatype.iri := by
    cases h with
    | decimal n hdatatype => exact Literal.datatypeIri_eq hdatatype
  rcases NumericFunction.round.apply_operand ⟨l, .decimal, q, h⟩ with
    ⟨result, hresult, hrun⟩ | hoverflow
  · rw [hdatatype, hresult.toLiteralOf_datatype] at hrun
    exact Or.inl ⟨⟨result.toLiteral, hrun, hresult.toLiteral⟩, hresult.holds⟩
  · exact Or.inr hoverflow

/-- **DECIMALS ARE ROUNDED HALF AWAY FROM ZERO**: over the whole range a decimal is rounded to the
whole number of its sign and of the magnitude `⌊|q| + 1 / 2⌋` if that is a decimal, and fails with
an overflow exactly if it is none.  A decimal and its negative are rounded to numbers that are
negatives of each other, or neither is rounded. -/
theorem decimal_rounding {l : Literal} {q : Rat} (h : l.Denotes .decimal q) :
    (ExactKind.decimal.Holds (roundAway q) →
      ∃ l' : Literal, roundedOf (.literal l) = .ok (.literal l') ∧
        l'.IsCanonical .decimal (roundAway q) ∧ l'.Denotes .decimal (roundAway q)) ∧
    (roundedOf (.literal l) = evaluationError .numericOverflow ↔
      ¬ ExactKind.decimal.Holds (roundAway q)) ∧
    (∀ l₂ : Literal, l₂.Denotes .decimal (-q) →
      (∃ x y : Term, roundedOf (.literal l) = .ok x ∧ roundedOf (.literal l₂) = .ok y ∧
          minus x = .ok y) ∨
        (roundedOf (.literal l) = evaluationError .numericOverflow ∧
          roundedOf (.literal l₂) = evaluationError .numericOverflow)) ∧
    EvaluationCause.numericOverflow.message = "numeric overflow" := by
  have hnegated : ∀ {l₂ : Literal}, l₂.Denotes .decimal (-q) →
      ((∃ l' : Literal, roundedOf (.literal l₂) = .ok (.literal l') ∧
          l'.IsCanonical .decimal (-roundAway q : Int) ∧
          l'.Denotes .decimal (-roundAway q : Int)) ∧
        ExactKind.decimal.Holds (roundAway q)) ∨
      (roundedOf (.literal l₂) = evaluationError .numericOverflow ∧
        ¬ ExactKind.decimal.Holds (roundAway q)) := by
    intro l₂ h₂
    rw [← ExactKind.holds_decimal_neg_iff, ← roundAway_neg]
    exact roundedOf_decimal h₂
  rcases roundedOf_decimal h with ⟨⟨x, hx, hcanonical, hdenotes⟩, hfits⟩ | ⟨hoverflow, hnone⟩
  · refine ⟨fun _ => ⟨x, hx, hcanonical, hdenotes⟩, ?_, ?_, rfl⟩
    · rw [hx]
      exact iff_of_false nofun (not_not_intro hfits)
    · intro l₂ h₂
      rcases hnegated h₂ with ⟨⟨y, hy, hynegative, -⟩, -⟩ | ⟨-, hnone⟩
      · have hnegfits := (ExactKind.holds_decimal_neg_iff _).mpr hfits
        rw [Int.cast_neg] at hynegative hnegfits
        exact Or.inl ⟨_, _, hx, hy, minus_eq_of_isCanonical hdenotes hynegative hnegfits⟩
      · exact absurd hfits hnone
  · refine ⟨fun hfits => absurd hfits hnone, iff_of_true hoverflow hnone, ?_, rfl⟩
    intro l₂ h₂
    rcases hnegated h₂ with ⟨-, hfits⟩ | ⟨hoverflow₂, -⟩
    · exact absurd hfits hnone
    · exact Or.inr ⟨hoverflow, hoverflow₂⟩

/-- Two and a half below zero is rounded to three below zero. -/
theorem decimal_rounding_of_tie :
    let l := Literal.typed "-2.5" Datatype.decimal.iri
    let l' := Literal.typed "-3" Datatype.decimal.iri
    l.Denotes .decimal (-5 / 2) ∧ roundAway (-5 / 2) = -3 ∧
      roundedOf (.literal l) = .ok (.literal l') ∧ l'.Denotes .decimal (-3) := by
  intro l l'
  obtain ⟨n, hntext, hn⟩ : ∃ n : Numeral, n.text = "-2.5".toList ∧ n.value = -5 / 2 := by
    refine ⟨⟨.minus, ['2'], some ['5'], by decide, by decide, by decide⟩, rfl, ?_⟩
    show ((-25 : Int) : Rat) / 10 ^ 1 = -5 / 2
    norm_num
  have hfits : ExactKind.decimal.Holds n.value := by
    refine ⟨-2500000000000000000, ?_, by decide, by decide⟩
    rw [hn]
    norm_num
  have hdenotes : l.Denotes .decimal n.value := .decimal n rfl hntext hfits
  rw [hn] at hdenotes
  have hround : roundAway (-5 / 2) = -3 := by norm_num [roundAway, abs_of_neg]
  have hroundfits : ExactKind.decimal.Holds (roundAway (-5 / 2)) := by
    rw [hround]
    refine ⟨-3000000000000000000, ?_, by decide, by decide⟩
    norm_num
  obtain ⟨x, hx, -, hrounded⟩ := (decimal_rounding hdenotes).1 hroundfits
  have hrun : roundedOf (.literal l) = .ok (.literal l') := by decide
  obtain rfl := Term.literal.inj (Except.ok.inj (hrun.symm.trans hx))
  rw [hround] at hrounded
  exact ⟨hdenotes, hround, hx, hrounded⟩

end SparqlScalar
