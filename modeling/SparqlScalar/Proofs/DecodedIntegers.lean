import SparqlScalar.Operator.Terms
import SparqlScalar.Proofs.ExactComparisons

/-!
# Decoding whole numbers

    A literal of one of the thirteen datatypes of whole numbers is decoded by three checks in a row:
    its text, the width of a word, and the value range of its datatype.  Here the grammar and the
    ranges are written down once more, apart from the reader, and compared with it:

      ranges     -- each datatype has a least and a greatest value, or goes on for ever
                    (`IntegerType.contains_iff_inRange`)
      grammar    -- a text is an optional sign and digits, and denotes one number in base ten
                    (`Literal.writesInteger_iff`)
      literals   -- a literal is decoded exactly if it passes all three checks
                    (`Literal.value_eq_integer_iff`), and stands for itself otherwise
      operators  -- what gives no number is refused by every operator on numbers
                    (`Term.isRefused_of_operand`)
-/

namespace SparqlScalar

open Digits (AllDigits signed)

/-! ## Ranges -/

namespace IntegerType

/-- The least value of a datatype, if it has one. -/
def least? : IntegerType → Option Int
  | .integer | .negativeInteger | .nonPositiveInteger => none
  | .byte => some (-2 ^ 7)
  | .short => some (-2 ^ 15)
  | .int => some (-2 ^ 31)
  | .long => some (-2 ^ 63)
  | .unsignedByte | .unsignedShort | .unsignedInt | .unsignedLong | .nonNegativeInteger => some 0
  | .positiveInteger => some 1

/-- The greatest value of a datatype, if it has one. -/
def greatest? : IntegerType → Option Int
  | .integer | .positiveInteger | .nonNegativeInteger => none
  | .byte => some (2 ^ 7 - 1)
  | .short => some (2 ^ 15 - 1)
  | .int => some (2 ^ 31 - 1)
  | .long => some (2 ^ 63 - 1)
  | .unsignedByte => some (2 ^ 8 - 1)
  | .unsignedShort => some (2 ^ 16 - 1)
  | .unsignedInt => some (2 ^ 32 - 1)
  | .unsignedLong => some (2 ^ 64 - 1)
  | .negativeInteger => some (-1)
  | .nonPositiveInteger => some 0

/-- The number is neither below the least value nor above the greatest one. -/
def InRange (type : IntegerType) (v : Int) : Prop :=
  (∀ m ∈ type.least?, m ≤ v) ∧ ∀ m ∈ type.greatest?, v ≤ m

theorem contains_iff_inRange (type : IntegerType) (v : Int) :
    type.Contains v ↔ type.InRange v := by
  cases type <;> simp [Contains, InRange, least?, greatest?] <;> omega

end IntegerType

/-! ## Grammar -/

namespace Literal

variable {l : Literal} {type : IntegerType} {v : Int}

/-- The text of the literal is an optional sign followed by one or more digits, which denote a whole
number in base ten. -/
def WritesInteger (l : Literal) (v : Int) : Prop :=
  ∃ (sign : WrittenSign) (digits : List Char), l.lexical.toList = sign.text ++ digits ∧
    digits ≠ [] ∧ AllDigits digits ∧ signed sign.isMinus (Digits.value digits) = v

/-- Such a text is a numeral without a point. -/
theorem writesInteger_iff :
    l.WritesInteger v ↔
      ∃ n : Numeral, n.text = l.lexical.toList ∧ n.places = none ∧ n.value = v := by
  constructor
  · rintro ⟨sign, digits, htext, hne, hdigits, rfl⟩
    obtain ⟨hplain, -, hvalue⟩ :=
      Numeral.of_places_none (n := .ofDigits sign digits hdigits hne) rfl
    exact ⟨.ofDigits sign digits hdigits hne, hplain.trans htext.symm, rfl, hvalue⟩
  · rintro ⟨n, htext, hplaces, hvalue⟩
    obtain ⟨hplain, hne, hwritten⟩ := Numeral.of_places_none hplaces
    refine ⟨n.sign, n.whole, htext.symm.trans hplain, hne, n.whole_digits, ?_⟩
    exact Int.cast_injective (hwritten.symm.trans hvalue)

/-! ## Literals -/

/-- A literal of a datatype of whole numbers denotes the number that its text writes, if that fits a
word and lies in the range of the datatype. -/
theorem denotes_integer_iff (hdatatype : l.annotation = .datatype (Datatype.integer type).iri) :
    l.Denotes .integer v ↔
      l.WritesInteger v ∧ (-2 ^ 63 ≤ v ∧ v < 2 ^ 63) ∧ type.InRange v := by
  rw [writesInteger_iff, ← type.contains_iff_inRange]
  constructor
  · intro h
    generalize hq : (v : Rat) = q at h
    cases h with
    | integer type' n k hattached htext hplaces hvalue hrange hfits =>
        obtain rfl : v = k := Int.cast_injective hq
        obtain ⟨m, hm, hlower, hupper⟩ := hfits
        obtain rfl : v = m := Int.cast_injective hm
        have hsame : some (Datatype.integer type') = some (.integer type) :=
          (datatype?_eq_some hattached).symm.trans (datatype?_eq_some hdatatype)
        obtain rfl := Datatype.integer.inj (Option.some.inj hsame)
        exact ⟨⟨n, htext, hplaces, hvalue⟩, ⟨hlower, hupper⟩, hrange⟩
  · rintro ⟨⟨n, htext, hplaces, hvalue⟩, ⟨hlower, hupper⟩, hrange⟩
    exact .integer type n v hdatatype htext hplaces hvalue hrange ⟨v, rfl, hlower, hupper⟩

/-- **DECODED EXACTLY**: a literal of a datatype of whole numbers has an integer as its value if and
only if it is well-typed and denotes it. -/
theorem value_eq_integer_iff (hdatatype : l.annotation = .datatype (Datatype.integer type).iri) :
    (∃ a : Integer, a.toInt = v ∧ l.value = .numeric (.integer a)) ↔ l.Denotes .integer v := by
  constructor
  · rintro ⟨a, rfl, hvalue⟩
    obtain ⟨kind, q, hdenotes⟩ := exists_denotes (datatype?_eq_some hdatatype) rfl
      (by rw [hvalue]; exact nofun)
    obtain ⟨x, hx, hnumber⟩ := hdenotes.value
    obtain rfl := Value.numeric.inj (hvalue.symm.trans hx)
    cases hnumber with
    | integer a => exact hdenotes
  · intro h
    obtain ⟨x, hx, hnumber⟩ := h.value
    generalize hq : (v : Rat) = q at hnumber
    cases hnumber with
    | integer a => exact ⟨a, (Int.cast_injective hq).symm, hx⟩

/-- A literal of a datatype of whole numbers that is decoded at all denotes a whole number. -/
theorem exists_integer (hdatatype : l.annotation = .datatype (Datatype.integer type).iri)
    (h : l.value ≠ .other l) : ∃ v : Int, l.Denotes .integer v := by
  obtain ⟨kind, q, hdenotes⟩ := exists_denotes (datatype?_eq_some hdatatype) rfl h
  cases hdenotes with
  | integer type' n k hattached htext hplaces hvalue hrange hfits =>
      exact ⟨k, .integer type' n k hattached htext hplaces hvalue hrange hfits⟩
  | decimal n hattached =>
      have hsame : some Datatype.decimal = some (.integer type) :=
        (datatype?_eq_some hattached).symm.trans (datatype?_eq_some hdatatype)
      cases hsame

end Literal

/-! ## Operators -/

/-- The operators on one number. -/
def numericFunctions : List (Term → EvalResult Term) :=
  [minus, plus, magnitude, ceilingOf, floorOf, roundedOf]

/-- The operators on two numbers. -/
def numericOperators : List (Term → Term → EvalResult Term) :=
  [sum, difference, product, quotient]

/-- A term is no number: the test says so, and every operator on numbers refuses it with an error
that names it, unless the operand before it is refused already. -/
structure Term.IsRefused (t : Term) : Prop where
  numeric : t.numeric = typeError (.notNumeric t)
  isNumeric : isNumericTerm t = .ok (Term.ofBool false)
  functions : ∀ f ∈ numericFunctions, f t = typeError (.notNumeric t)
  leftOperand : ∀ f ∈ numericOperators, ∀ other, f t other = typeError (.notNumeric t)
  rightOperand : ∀ f ∈ numericOperators, ∀ other,
    f other t = other.numeric >>= fun _ => typeError (.notNumeric t)

section Refused

variable {t : Term} (h : t.numericOperand = typeError (.notNumeric t))

include h

theorem Term.numeric_of_refused : t.numeric = typeError (.notNumeric t) := by
  rw [Term.numeric, h]
  rfl

/-- An operator on two numbers asks its left operand first. -/
theorem withNumbers_of_refused (f : Numeric → Numeric → EvalResult Numeric) (other : Term) :
    withNumbers f t other = typeError (.notNumeric t) ∧
      withNumbers f other t = other.numeric >>= fun _ => typeError (.notNumeric t) := by
  constructor
  · rw [withNumbers, Term.numeric_of_refused h]
    rfl
  · rw [withNumbers, Term.numeric_of_refused h]
    rfl

/-- **NO NUMBER**: all operators on numbers refuse what gives no number. -/
theorem Term.isRefused_of_operand : t.IsRefused where
  numeric := Term.numeric_of_refused h
  isNumeric := by
    rw [isNumericTerm, Term.numeric_of_refused h]
    rfl
  functions := by
    intro f hf
    have hkeeping : ∀ g, keepingDatatype g t = typeError (.notNumeric t) := by
      intro g
      rw [keepingDatatype, h]
      rfl
    simp only [numericFunctions, List.mem_cons, List.not_mem_nil, or_false] at hf
    rcases hf with rfl | rfl | rfl | rfl | rfl | rfl
    · rw [minus, Term.numeric_of_refused h]
      rfl
    · rw [plus, Term.numeric_of_refused h]
      rfl
    · exact hkeeping Numeric.abs?
    · exact hkeeping Numeric.ceil?
    · exact hkeeping Numeric.floor?
    · exact hkeeping Numeric.round?
  leftOperand := by
    intro f hf other
    simp only [numericOperators, List.mem_cons, List.not_mem_nil, or_false] at hf
    rcases hf with rfl | rfl | rfl | rfl <;> exact (withNumbers_of_refused h _ other).1
  rightOperand := by
    intro f hf other
    simp only [numericOperators, List.mem_cons, List.not_mem_nil, or_false] at hf
    rcases hf with rfl | rfl | rfl | rfl <;> exact (withNumbers_of_refused h _ other).2

end Refused

/-- A literal that stands for itself gives no number. -/
theorem Term.isRefused_of_value_other {l : Literal} (h : l.value = .other l) :
    (Term.literal l).IsRefused := by
  refine Term.isRefused_of_operand ?_
  simp only [Term.numericOperand, Term.literalOperand, bind, Except.bind, h]

/-- **WHOLE NUMBERS ARE DECODED BY GRAMMAR AND RANGE**: a literal of one of the thirteen datatypes
has the integer `v` as its value exactly if its text is an optional sign and digits that denote `v`,
`v` fits a word of 64 bits, and `v` lies in the range of the datatype.  A literal for which there is
no such number stands for itself, and no operator on numbers takes it. -/
theorem integer_decoding (type : IntegerType) (lexical : String) :
    let l := Literal.typed lexical (Datatype.integer type).iri
    (∀ v : Int, (∃ a : Integer, a.toInt = v ∧ l.value = .numeric (.integer a)) ↔
      l.WritesInteger v ∧ (-2 ^ 63 ≤ v ∧ v < 2 ^ 63) ∧ type.InRange v) ∧
    ((∃ v : Int, l.WritesInteger v ∧ (-2 ^ 63 ≤ v ∧ v < 2 ^ 63) ∧ type.InRange v) ∨
      l.value = .other l ∧ (Term.literal l).IsRefused) := by
  intro l
  refine ⟨fun v => (Literal.value_eq_integer_iff rfl).trans (Literal.denotes_integer_iff rfl), ?_⟩
  by_cases hother : l.value = .other l
  · exact Or.inr ⟨hother, Term.isRefused_of_value_other hother⟩
  · obtain ⟨v, hdenotes⟩ := Literal.exists_integer rfl hother
    exact Or.inl ⟨v, (Literal.denotes_integer_iff rfl).mp hdenotes⟩

end SparqlScalar
