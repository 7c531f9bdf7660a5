import SparqlScalar.Proofs.CastTexts
import SparqlScalar.Proofs.DecimalQuotients

/-!
# Casts to exact datatypes

    What a cast has written can be cast again.  For strings, truth values, integers and decimals the
    second cast reads what the first one wrote, and on the way from numbers to integers and decimals
    nothing is lost but the places:

      fixed values  -- the literal that a value is written as is converted to this value again
                      (`CastTarget.convert_written`), so casts are idempotent
      numerals      -- numbers are written without an exponent, and so are let through on the way to
                      a decimal (`CastTarget.toDecimal_of_numeral`)
      numbers       -- a number of either kind is cast to the decimal of its value, and to the
                      integer of its whole part if there is one (`ExactOperand.apply_decimal`,
                      `ExactOperand.apply_integer`), so the way over a decimal changes nothing
-/

namespace SparqlScalar

/-- A number is read again from the literal that it is written as. -/
theorem Numeric.HasValue.value_toLiteral {x : Numeric} {kind : ExactKind} {q : Rat}
    (h : x.HasValue kind q) : x.toLiteral.value = .numeric x := by
  cases h with
  | integer a =>
      refine Literal.value_of_parse? (d := .integer .integer) rfl ?_
      show (IntegerType.integer.parse? (String.ofList a.text).toList).map _ = _
      rw [String.toList_ofList, IntegerType.parse?_integer, a.parse?_text]
      rfl
  | decimal a =>
      refine Literal.value_of_parse? (d := .decimal) rfl ?_
      show (Decimal.parse? (String.ofList a.text).toList).map _ = _
      rw [String.toList_ofList, a.parse?_text]
      rfl

namespace CastTarget

/-- The targets whose literals are all read again as they were written. -/
def exact : List CastTarget := [.string, .boolean, .integer, .decimal]

/-- A literal of a number that is written without an exponent is let through. -/
theorem toDecimal_of_numeral {l : Literal} {x : Numeric} {n : Numeral}
    (hvalue : l.value = .numeric x) (htext : n.text = l.lexical.toList) :
    toDecimal l = EvalResult.ofOption .outOfRange (decimalOf? x) := by
  have hexponent : (l.lexical.toList.any fun c => c = 'e' ∨ c = 'E') = false := by
    rw [List.any_eq_false, ← htext]
    intro c hc
    rw [decide_eq_true_iff]
    exact n.not_exponent hc
  simp only [toDecimal, toNumber, hvalue, hexponent, Bool.false_eq_true, if_false]

/-! ## Fixed values -/

/-- **WHAT IS WRITTEN IS READ AGAIN**: the value that a literal is cast to is written as a literal
of the target that has this value, and is cast to it again. -/
theorem convert_written {target : CastTarget} (htarget : target ∈ exact) {l : Literal} {v : Value}
    (h : target.convert l = .ok v) :
    ∃ written, v.toTerm = .literal written ∧ written.annotation = .datatype target.iri ∧
      written.value = v ∧ target.convert written = .ok v := by
  cases target with
  | dateTime | float | double => simp [exact] at htarget
  | string =>
      obtain rfl := Except.ok.inj h
      exact ⟨_, rfl, rfl, Literal.value_simple _, rfl⟩
  | boolean =>
      obtain ⟨b, -, rfl⟩ := EvalResult.map_eq_ok_iff.mp h
      refine ⟨Literal.ofBool b, rfl, rfl, ?_, ?_⟩
      · cases b <;> exact Literal.value_typed .boolean _
      · cases b <;> rfl
  | integer =>
      obtain ⟨a, -, rfl⟩ := EvalResult.map_eq_ok_iff.mp h
      have hvalue := (Numeric.HasValue.integer a).value_toLiteral
      refine ⟨_, rfl, rfl, hvalue, ?_⟩
      simp only [convert, toNumber, hvalue, integerOf?]
      rfl
  | decimal =>
      obtain ⟨a, -, rfl⟩ := EvalResult.map_eq_ok_iff.mp h
      have hvalue := (Numeric.HasValue.decimal a).value_toLiteral
      obtain ⟨n, -, htext, -⟩ := a.text_canonical
      refine ⟨_, rfl, rfl, hvalue, ?_⟩
      rw [convert, toDecimal_of_numeral hvalue (htext.trans String.toList_ofList.symm)]
      rfl

/-- **CASTS ARE IDEMPOTENT AND WELL-TYPED**: a result is a literal of the target that is decoded,
and is cast to itself. -/
theorem apply_idempotent {target : CastTarget} (htarget : target ∈ exact) {x y : Term}
    (h : target.apply x = .ok y) :
    (∃ l, y = .literal l ∧ l.annotation = .datatype target.iri ∧ l.value ≠ .other l) ∧
      target.apply y = .ok y := by
  by_cases hstring : target = .string
  · subst hstring
    obtain ⟨text, -, rfl⟩ := EvalResult.map_eq_ok_iff.mp h
    refine ⟨⟨_, rfl, rfl, ?_⟩, rfl⟩
    rw [Literal.value_simple]
    exact nofun
  · obtain ⟨l, -, v, hv, rfl⟩ := (apply_eq_ok_iff hstring).mp h
    obtain ⟨written, hterm, hdatatype, hvalue, hagain⟩ := convert_written htarget hv
    refine ⟨⟨written, hterm, hdatatype, ?_⟩, ?_⟩
    · intro hother
      rw [← hvalue, hother] at hv
      exact target.convert_ne_other l written hv
    · rw [hterm, apply_of_source hstring (source_of_target hdatatype), hagain]
      exact congrArg Except.ok hterm

end CastTarget

/-! ## Numbers -/

/-- A number of an exact kind has the decimal of its value. -/
theorem Numeric.HasValue.decimalOf? {x : Numeric} {kind : ExactKind} {q : Rat}
    (h : x.HasValue kind q) : ∃ a : Decimal, CastTarget.decimalOf? x = some a ∧ a.toRat = q := by
  cases h with
  | integer a => exact ⟨a.toDecimal, rfl, a.toRat_toDecimal⟩
  | decimal a => exact ⟨a, rfl, rfl⟩

/-- A number of an exact kind has the integer of its whole part, if there is one. -/
theorem Numeric.HasValue.integerOf? {x : Numeric} {kind : ExactKind} {q : Rat}
    (h : x.HasValue kind q) : CastTarget.integerOf? x = Integer.ofInt? (wholePart q) := by
  cases h with
  | integer a =>
      rw [Integer.toRat, wholePart_intCast, Integer.ofInt?_toInt]
      rfl
  | decimal a =>
      have hwhole : wholePart a.toRat = a.truncate := wholePart_div a.units Decimal.scale
      rw [hwhole]
      rfl

namespace ExactOperand

open CastTarget

/-- An operand is cast as it is. -/
theorem source_term (x : ExactOperand) (target : CastTarget) :
    target.source x.term = .ok x.literal := by
  rcases x.datatype_cases with ⟨-, hdatatype⟩ | ⟨type, k, -, -, hdatatype, -⟩
  · exact source_typed hdatatype nofun
  · exact source_typed hdatatype nofun

/-- The integer of the whole part of a number, if there is one. -/
def wholeResult (q : Rat) : EvalResult Term :=
  (EvalResult.ofOption .outOfRange (Integer.ofInt? (wholePart q))).map fun a =>
    .literal (Numeric.integer a).toLiteral

theorem apply_integer (x : ExactOperand) :
    CastTarget.integer.apply x.term = wholeResult x.value := by
  obtain ⟨number, hvalue, hnumber⟩ := x.denotes.value
  rw [apply_of_source (by decide) (x.source_term .integer), wholeResult,
    ← hnumber.integerOf?]
  simp only [convert, toNumber, hvalue]
  cases integerOf? number <;> rfl

theorem apply_decimal (x : ExactOperand) :
    ∃ y : ExactOperand, CastTarget.decimal.apply x.term = .ok y.term ∧ y.value = x.value ∧
      y.literal.IsCanonical .decimal x.value := by
  obtain ⟨number, hvalue, hnumber⟩ := x.denotes.value
  obtain ⟨n, htext, -⟩ := x.denotes.writes
  obtain ⟨a, ha, hsame⟩ := hnumber.decimalOf?
  have hwritten : (Numeric.decimal a).HasValue .decimal x.value := hsame ▸ .decimal a
  refine ⟨.ofNumber hwritten, ?_, rfl, hwritten.toLiteral.1⟩
  rw [apply_of_source (by decide) (x.source_term .decimal), convert,
    toDecimal_of_numeral hvalue htext, ha]
  rfl

/-- How a number is cast to decimals and to integers. -/
structure CastsExactly (x : ExactOperand) : Prop where
  toDecimal : ∃ l, CastTarget.decimal.apply x.term = .ok (.literal l) ∧
    l.IsCanonical .decimal x.value
  toInteger : ExactKind.integer.Holds (wholePart x.value) →
    ∃ l, CastTarget.integer.apply x.term = .ok (.literal l) ∧
      l.IsCanonical .integer (wholePart x.value)
  overflow : ¬ ExactKind.integer.Holds (wholePart x.value) →
    CastTarget.integer.apply x.term = evaluationError .outOfRange
  overDecimal : CastTarget.decimal.apply x.term >>= CastTarget.integer.apply =
    CastTarget.integer.apply x.term

theorem castsExactly (x : ExactOperand) : x.CastsExactly where
  toDecimal := by
    obtain ⟨y, hy, -, hcanonical⟩ := x.apply_decimal
    exact ⟨y.literal, hy, hcanonical⟩
  toInteger := by
    intro hholds
    obtain ⟨a, ha⟩ := Integer.ofInt?_of_holds hholds
    rw [← Integer.ofInt?_eq_some_iff.mp ha]
    refine ⟨(Numeric.integer a).toLiteral, ?_, (Numeric.HasValue.integer a).toLiteral.1⟩
    rw [apply_integer, wholeResult, ha]
    rfl
  overflow := by
    intro hholds
    rw [apply_integer, wholeResult]
    cases hn : Integer.ofInt? (wholePart x.value) with
    | none => rfl
    | some a =>
        rw [← Integer.ofInt?_eq_some_iff.mp hn] at hholds
        exact absurd a.holds hholds
  overDecimal := by
    obtain ⟨y, hy, hvalue, -⟩ := x.apply_decimal
    rw [hy, x.apply_integer, ← hvalue]
    exact y.apply_integer

end ExactOperand

/-- **EXACT CASTS**: casts to strings, truth values, integers and decimals are idempotent and
well-typed, and those of whole numbers and decimals to one another are exact. -/
theorem exact_casts :
    (∀ target ∈ CastTarget.exact, ∀ x y, target.apply x = .ok y →
        (∃ l, y = .literal l ∧ l.annotation = .datatype target.iri ∧ l.value ≠ .other l) ∧
          target.apply y = .ok y) ∧
      ∀ x : ExactOperand, x.CastsExactly :=
  ⟨fun _ htarget _ _ => CastTarget.apply_idempotent htarget, ExactOperand.castsExactly⟩

/-- A decimal with zeros around its digits, which loses them once, and its place on the way to an
integer. -/
theorem exact_casts_below_zero :
    let x := Term.literal (Literal.typed "-03.70" Datatype.decimal.iri)
    let y := Term.literal (Literal.typed "-3.7" Datatype.decimal.iri)
    let z := Term.literal (Literal.typed "-3" (Datatype.integer .integer).iri)
    CastTarget.decimal.apply x = .ok y ∧ CastTarget.decimal.apply y = .ok y ∧
      CastTarget.integer.apply x = .ok z ∧ CastTarget.integer.apply y = .ok z := by
  intro x y z
  obtain ⟨hidempotent, hexact⟩ := exact_casts
  have hx : CastTarget.decimal.apply x = .ok y := by decide
  have hz : CastTarget.integer.apply x = .ok z := by decide
  obtain ⟨-, hy⟩ := hidempotent .decimal (by decide) x y hx
  obtain ⟨kind, q, hdenotes⟩ := Literal.exists_denotes (l := .typed "-03.70" Datatype.decimal.iri)
    (Datatype.ofIri?_iri .decimal) rfl (by decide)
  have hsame : CastTarget.decimal.apply x >>= CastTarget.integer.apply =
      CastTarget.integer.apply x := (hexact ⟨_, kind, q, hdenotes⟩).overDecimal
  rw [hx, hz] at hsame
  exact ⟨hx, hy, hz, hsame⟩

end SparqlScalar
