import SparqlScalar.Operator.Arithmetic
import SparqlScalar.Proofs.Numerals

/-!
# Operands that are exact numbers

    Integers and decimals are EXACT: a well-typed literal denotes a rational number, and an operator
    that is exact on rational numbers gives the exact result or an overflow.  Each step of a chain
    decodes two literals, brings them to the wider kind, computes with a check and writes a literal
    that the next step reads again:

      numbers   -- two numbers keep their values in the wider of their kinds
                   (`Numeric.promote_hasValue`)
      literals  -- a well-typed literal decodes to its number, and the literal that a number is
                   written as is canonical and well-typed (`Literal.Denotes.value`,
                   `Numeric.HasValue.toLiteral`)
      steps     -- an operator that is exact on numbers is exact on operands
                   (`combinesExactly_withNumbers`)
      chains    -- by induction over the continuations (`chain_combines`)

    Sums and products are chains of this sort.
-/

namespace SparqlScalar

/-- The kinds of number that are exact. -/
inductive ExactKind where
  | integer
  | decimal
deriving DecidableEq

namespace ExactKind

def datatype : ExactKind → Datatype
  | .integer => .integer .integer
  | .decimal => .decimal

/-- The wider of two kinds. -/
def join : ExactKind → ExactKind → ExactKind
  | .integer, .integer => .integer
  | _, _ => .decimal

/-- Two kinds join to the integers only if both are integers. -/
theorem join_eq_integer_iff {a b : ExactKind} :
    a.join b = .integer ↔ a = .integer ∧ b = .integer := by
  cases a <;> cases b <;> simp [join]

/-- A number fits a kind: a signed word of 64 bits, or one of 128 bits that counts `10 ^ -18`. -/
def Holds : ExactKind → Rat → Prop
  | .integer, q => ∃ n : Int, q = n ∧ -2 ^ 63 ≤ n ∧ n < 2 ^ 63
  | .decimal, q => ∃ n : Int, q = (n : Rat) / 10 ^ 18 ∧ -2 ^ 127 ≤ n ∧ n < 2 ^ 127

end ExactKind

/-! ## Numbers -/

/-- A number of an exact kind, and its value. -/
inductive Numeric.HasValue : Numeric → ExactKind → Rat → Prop where
  | integer (a : Integer) : HasValue (.integer a) .integer a.toRat
  | decimal (a : Decimal) : HasValue (.decimal a) .decimal a.toRat

/-- A number is zero exactly if its value is. -/
theorem Numeric.HasValue.isZero_iff {x : Numeric} {kind : ExactKind} {q : Rat}
    (h : x.HasValue kind q) : x.isZero = true ↔ q = 0 := by
  cases h with
  | integer a => exact beq_iff_eq.trans Int.cast_eq_zero.symm
  | decimal a => exact beq_iff_eq.trans a.toRat_eq_zero_iff.symm

/-- A number is told by its kind and its value. -/
theorem Numeric.HasValue.inj {x y : Numeric} {kind : ExactKind} {q : Rat}
    (hx : x.HasValue kind q) (hy : y.HasValue kind q) : x = y := by
  cases hx with
  | integer a =>
      generalize hq : a.toRat = q at hy
      cases hy with
      | integer b => exact congrArg Numeric.integer (Integer.toRat_injective hq)
  | decimal a =>
      generalize hq : a.toRat = q at hy
      cases hy with
      | decimal b => exact congrArg Numeric.decimal (Decimal.toRat_injective hq)

/-- The integers hold the value of an integer. -/
theorem Integer.holds (a : Integer) : ExactKind.integer.Holds a.toRat :=
  ⟨a.toInt, rfl, a.lower, a.upper⟩

/-- The decimals hold the value of a decimal. -/
theorem Decimal.holds (a : Decimal) : ExactKind.decimal.Holds a.toRat :=
  ⟨a.units, rfl, a.lower, a.upper⟩

/-- A kind of numbers holds the values of its numbers. -/
theorem Numeric.HasValue.holds {x : Numeric} {kind : ExactKind} {q : Rat} (h : x.HasValue kind q) :
    kind.Holds q := by
  cases h with
  | integer a => exact a.holds
  | decimal a => exact a.holds

/-- A whole number fits exactly if there is an integer of it. -/
theorem Integer.ofInt?_of_holds {n : Int} (h : ExactKind.integer.Holds n) :
    ∃ a, Integer.ofInt? n = some a := by
  obtain ⟨m, heq, hlower, hupper⟩ := h
  obtain rfl : n = m := by exact_mod_cast heq
  exact ⟨⟨n, hlower, hupper⟩, Integer.ofInt?_eq_some_iff.mpr rfl⟩

theorem Decimal.ofUnits?_of_holds {n : Int} (h : ExactKind.decimal.Holds ((n : Rat) / 10 ^ 18)) :
    ∃ a, Decimal.ofUnits? n = some a := by
  obtain ⟨m, heq, hlower, hupper⟩ := h
  obtain rfl : n = m := by
    field_simp at heq
    exact_mod_cast heq
  exact ⟨⟨n, hlower, hupper⟩, Decimal.ofUnits?_eq_some_iff.mpr rfl⟩

/-- An integer keeps its value as a decimal. -/
theorem Integer.toRat_toDecimal (a : Integer) : a.toDecimal.toRat = a.toRat := by
  show ((a.toInt * Decimal.scale : Int) : Rat) / 10 ^ 18 = a.toInt
  rw [Decimal.intCast_scale]
  push_cast
  field_simp
  norm_num

/-- Two numbers of one exact kind, and their values. -/
inductive Numeric.Pair.HasValues : Pair → ExactKind → Rat → Rat → Prop where
  | integer (a b : Integer) : HasValues (.integer a b) .integer a.toRat b.toRat
  | decimal (a b : Decimal) : HasValues (.decimal a b) .decimal a.toRat b.toRat

/-- Two numbers keep their values in the wider of their kinds. -/
theorem Numeric.promote_hasValue {x y : Numeric} {kind kind' : ExactKind} {p q : Rat}
    (hx : x.HasValue kind p) (hy : y.HasValue kind' q) :
    (promote x y).HasValues (kind.join kind') p q := by
  cases hx with
  | integer a =>
      cases hy with
      | integer b => exact .integer a b
      | decimal b =>
          rw [← a.toRat_toDecimal]
          exact .decimal a.toDecimal b
  | decimal a =>
      cases hy with
      | integer b =>
          rw [← b.toRat_toDecimal]
          exact .decimal a b.toDecimal
      | decimal b => exact .decimal a b

namespace AdditiveOperator

/-- What an operator gives is the exact result, and it gives one unless that does not fit. -/
def Exactly (result : Option Numeric) (kind : ExactKind) (q : Rat) : Prop :=
  match result with
  | some x => x.HasValue kind q
  | none => ¬ kind.Holds q

/-- An integer that is made of a value is exact. -/
theorem exactly_integer {n : Int} {q : Rat} (h : (n : Rat) = q) :
    Exactly ((Integer.ofInt? n).map .integer) .integer q := by
  subst h
  cases hn : Integer.ofInt? n with
  | some a =>
      obtain rfl := Integer.ofInt?_eq_some_iff.mp hn
      exact .integer a
  | none =>
      intro hholds
      obtain ⟨a, ha⟩ := Integer.ofInt?_of_holds hholds
      exact nomatch hn.symm.trans ha

/-- A decimal that is made of the units of a value is exact. -/
theorem exactly_decimal {n : Int} {q : Rat} (h : (n : Rat) / 10 ^ 18 = q) :
    Exactly ((Decimal.ofUnits? n).map .decimal) .decimal q := by
  subst h
  cases hn : Decimal.ofUnits? n with
  | some a =>
      obtain rfl := Decimal.ofUnits?_eq_some_iff.mp hn
      exact .decimal a
  | none =>
      intro hholds
      obtain ⟨a, ha⟩ := Decimal.ofUnits?_of_holds hholds
      exact nomatch hn.symm.trans ha

end AdditiveOperator

/-! ## Literals -/

namespace Literal

/-- A literal is well-typed for an exact kind and denotes a number: its datatype is one of those of
the kind, its text is a numeral for the number, and the number lies in the range of the datatype
and fits the kind. -/
inductive Denotes (l : Literal) : ExactKind → Rat → Prop where
  | integer (type : IntegerType) (n : Numeral) (k : Int)
      (hdatatype : l.annotation = .datatype (Datatype.integer type).iri)
      (htext : n.text = l.lexical.toList) (hplaces : n.places = none) (hvalue : n.value = k)
      (hrange : type.Contains k) (hfits : ExactKind.integer.Holds k) : Denotes l .integer k
  | decimal (n : Numeral) (hdatatype : l.annotation = .datatype Datatype.decimal.iri)
      (htext : n.text = l.lexical.toList) (hfits : ExactKind.decimal.Holds n.value) :
      Denotes l .decimal n.value

theorem datatypeIri_eq {l : Literal} {iri : Iri} (h : l.annotation = .datatype iri) :
    l.datatypeIri = iri := by
  rw [datatypeIri, h]

theorem datatype?_eq_some {l : Literal} {d : Datatype} (h : l.annotation = .datatype d.iri) :
    l.datatype? = some d := by
  rw [datatype?, datatypeIri_eq h]
  exact Datatype.ofIri?_iri d

/-- The canonical literal of a number of an exact kind. -/
def IsCanonical (l : Literal) (kind : ExactKind) (q : Rat) : Prop :=
  ∃ n : Numeral, n.IsCanonical ∧ n.value = q ∧
    l = Literal.typed (String.ofList n.text) kind.datatype.iri

/-- A number of an exact kind has one canonical literal. -/
theorem IsCanonical.unique {l l' : Literal} {kind : ExactKind} {q : Rat}
    (h : l.IsCanonical kind q) (h' : l'.IsCanonical kind q) : l = l' := by
  obtain ⟨n, hn, hvalue, rfl⟩ := h
  obtain ⟨n', hn', hvalue', rfl⟩ := h'
  rw [hn.eq_of_value_eq hn' (hvalue.trans hvalue'.symm)]

/-- **WELL-TYPED LITERALS ARE DECODED**: to the number that they denote. -/
theorem Denotes.value {l : Literal} {kind : ExactKind} {q : Rat} (h : l.Denotes kind q) :
    ∃ x : Numeric, l.value = .numeric x ∧ x.HasValue kind q := by
  cases h with
  | integer type n k hdatatype htext hplaces hvalue hrange hfits =>
      obtain ⟨a, ha⟩ := Integer.ofInt?_of_holds hfits
      obtain rfl := Integer.ofInt?_eq_some_iff.mp ha
      have hparse : Integer.parse? l.lexical.toList = some a :=
        Integer.parse?_eq_some_iff.mpr ⟨n, htext, hplaces, hvalue⟩
      refine ⟨.integer a, value_of_parse? hdatatype ?_, .integer a⟩
      simp only [Datatype.parse?, IntegerType.parse?, hparse, Option.bind_some, if_pos hrange,
        Option.map_some]
  | decimal n hdatatype htext hfits =>
      obtain ⟨units, heq, hlower, hupper⟩ := hfits
      let a : Decimal := ⟨units, hlower, hupper⟩
      have hparse : Decimal.parse? l.lexical.toList = some a :=
        Decimal.parse?_eq_some_iff.mpr ⟨n, htext, heq⟩
      refine ⟨.decimal a, value_of_parse? hdatatype ?_, ?_⟩
      · simp only [Datatype.parse?, hparse, Option.map_some]
      · rw [show n.value = a.toRat from heq]
        exact .decimal a

end Literal

/-- A number is written as its canonical literal, which is well-typed. -/
theorem Numeric.HasValue.toLiteral {x : Numeric} {kind : ExactKind} {q : Rat}
    (h : x.HasValue kind q) : x.toLiteral.IsCanonical kind q ∧ x.toLiteral.Denotes kind q := by
  cases h with
  | integer a =>
      obtain ⟨n, hcanonical, hplaces, htext, hvalue⟩ := a.text_canonical
      refine ⟨⟨n, hcanonical, hvalue, by rw [htext]; rfl⟩, ?_⟩
      exact .integer .integer n a.toInt rfl (htext.trans String.toList_ofList.symm) hplaces hvalue
        trivial a.holds
  | decimal a =>
      obtain ⟨n, hcanonical, htext, hvalue⟩ := a.text_canonical
      refine ⟨⟨n, hcanonical, hvalue, by rw [htext]; rfl⟩, ?_⟩
      rw [← hvalue]
      refine .decimal n rfl (htext.trans String.toList_ofList.symm) ?_
      rw [hvalue]
      exact a.holds

/-! ## Operands -/

/-- A well-typed literal with the number that it denotes. -/
structure ExactOperand where
  literal : Literal
  kind : ExactKind
  value : Rat
  denotes : literal.Denotes kind value

namespace ExactOperand

def term (x : ExactOperand) : Term := .literal x.literal

/-- An operand gives its number, with the datatype that it was written in. -/
theorem numericOperand_term (x : ExactOperand) :
    ∃ number : Numeric, x.term.numericOperand = .ok ⟨number, x.literal.datatypeIri⟩ ∧
      number.HasValue x.kind x.value := by
  obtain ⟨number, hvalue, hnumber⟩ := x.denotes.value
  refine ⟨number, ?_, hnumber⟩
  unfold Term.numericOperand
  simp only [term, Term.literalOperand, bind, Except.bind, hvalue]

/-- An exact operand is read as a number of its kind and value. -/
theorem numeric_term (x : ExactOperand) :
    ∃ number : Numeric, x.term.numeric = .ok number ∧ number.HasValue x.kind x.value := by
  obtain ⟨number, hoperand, hnumber⟩ := x.numericOperand_term
  refine ⟨number, ?_, hnumber⟩
  unfold Term.numeric
  rw [hoperand]
  rfl

/-- The operand that a number is written as. -/
def ofNumber {x : Numeric} {kind : ExactKind} {q : Rat} (h : x.HasValue kind q) : ExactOperand where
  literal := x.toLiteral
  kind := kind
  value := q
  denotes := h.toLiteral.2

/-- The operand of an integer in one of the datatypes of integers. -/
def ofInteger (type : IntegerType) (a : Integer) (h : type.Contains a.toInt) : ExactOperand where
  literal := (Datatype.integer type).literal a.text
  kind := .integer
  value := a.toRat
  denotes := .integer type a.numeral a.toInt rfl
    (a.text_numeral.trans String.toList_ofList.symm) rfl a.value_numeral h a.holds

/-- An operand is a decimal, or a whole number in one of the datatypes of these. -/
theorem datatype_cases (x : ExactOperand) :
    (x.kind = .decimal ∧ x.literal.annotation = .datatype Datatype.decimal.iri) ∨
      ∃ (type : IntegerType) (k : Int), x.kind = .integer ∧ x.value = k ∧
        x.literal.annotation = .datatype (Datatype.integer type).iri ∧ type.Contains k := by
  obtain ⟨literal, kind, value, denotes⟩ := x
  cases denotes with
  | integer type n k hdatatype htext hplaces hvalue hrange hfits =>
      exact Or.inr ⟨type, k, rfl, rfl, hdatatype, hrange⟩
  | decimal n hdatatype htext hfits => exact Or.inl ⟨rfl, hdatatype⟩

theorem isTemporal_term (x : ExactOperand) : x.term.isTemporal = false := by
  show x.literal.datatype?.any _ = false
  rcases x.datatype_cases with ⟨-, hdatatype⟩ | ⟨type, k, -, -, hdatatype, -⟩
  · rw [Literal.datatype?_eq_some hdatatype]
    rfl
  · rw [Literal.datatype?_eq_some hdatatype]
    rfl

/-- The kind of an exact operand holds its value. -/
theorem holds (x : ExactOperand) : x.kind.Holds x.value := by
  obtain ⟨literal, kind, value, denotes⟩ := x
  cases denotes with
  | integer _ _ _ _ _ _ _ _ hfits => exact hfits
  | decimal _ _ _ hfits => exact hfits

end ExactOperand

/-! ## Steps -/

open AdditiveOperator (Exactly)

/-- What is exact is written, or overflows because it does not fit. -/
theorem AdditiveOperator.Exactly.written {result : Option Numeric} {kind : ExactKind} {q : Rat}
    (h : Exactly result kind q) (write : Numeric → Term) :
    (∃ x : Numeric, x.HasValue kind q ∧ (orOverflow result).map write = .ok (write x)) ∨
      ((orOverflow result).map write = evaluationError .numericOverflow ∧ ¬ kind.Holds q) := by
  cases result with
  | some x => exact Or.inl ⟨x, h, rfl⟩
  | none => exact Or.inr ⟨rfl, h⟩

/-- An operator on numbers decodes its operands and writes its result. -/
theorem withNumbers_operands (f : Numeric → Numeric → EvalResult Numeric) (a b : ExactOperand) :
    ∃ x y : Numeric, x.HasValue a.kind a.value ∧ y.HasValue b.kind b.value ∧
      withNumbers f a.term b.term = (f x y).map fun result => .literal result.toLiteral := by
  obtain ⟨x, hx, hxvalue⟩ := a.numeric_term
  obtain ⟨y, hy, hyvalue⟩ := b.numeric_term
  refine ⟨x, y, hxvalue, hyvalue, ?_⟩
  unfold withNumbers
  rw [hx, hy]
  rfl

/-- Two operands give the operand of the exact result, in canonical form, or overflow because the
result does not fit the wider of their kinds. -/
def CombinesExactly (combine : Term → Term → EvalResult Term) (exact : Rat → Rat → Rat) : Prop :=
  ∀ a b : ExactOperand,
    (∃ c : ExactOperand, combine a.term b.term = .ok c.term ∧ c.kind = a.kind.join b.kind ∧
        c.value = exact a.value b.value ∧ c.literal.IsCanonical c.kind c.value) ∨
      (combine a.term b.term = evaluationError .numericOverflow ∧
        ¬ (a.kind.join b.kind).Holds (exact a.value b.value))

/-- **ONE STEP**: an operator that is exact on numbers is exact on operands. -/
theorem combinesExactly_withNumbers {f : Numeric → Numeric → Option Numeric}
    {exact : Rat → Rat → Rat}
    (h : ∀ {x y : Numeric} {kind kind' : ExactKind} {p q : Rat},
      x.HasValue kind p → y.HasValue kind' q → Exactly (f x y) (kind.join kind') (exact p q)) :
    CombinesExactly (withNumbers fun x y => orOverflow (f x y)) exact := by
  intro a b
  obtain ⟨x, y, hx, hy, hrun⟩ := withNumbers_operands (fun x y => orOverflow (f x y)) a b
  rw [hrun]
  rcases (h hx hy).written fun result => .literal result.toLiteral with
    ⟨z, hz, hwritten⟩ | hoverflow
  · exact Or.inl ⟨.ofNumber hz, hwritten, rfl, rfl, hz.toLiteral.1⟩
  · exact Or.inr hoverflow

/-! ## Chains -/

section Chains

variable {Op : Type}

/-- The continuations of a chain as terms. -/
def chainTerms (rest : List (Op × ExactOperand)) : List (Op × Term) :=
  rest.map fun (op, x) => (op, x.term)

/-- The exact result of a chain. -/
def chainValue (exact : Op → Rat → Rat → Rat) (start : Rat) (rest : List (Op × ExactOperand)) :
    Rat :=
  rest.foldl (fun q pair => exact pair.1 q pair.2.value) start

/-- The kind of the result of a chain, the widest of its operands. -/
def chainKind (kind : ExactKind) (rest : List (Op × ExactOperand)) : ExactKind :=
  rest.foldl (fun k pair => k.join pair.2.kind) kind

/-- All results on the way fit their kinds. -/
def PrefixesFit (exact : Op → Rat → Rat → Rat) (first : ExactOperand)
    (rest : List (Op × ExactOperand)) : Prop :=
  ∀ count ≤ rest.length,
    (chainKind first.kind (rest.take count)).Holds
      (chainValue exact first.value (rest.take count))

/-- Once a decimal was met, the results stay decimals. -/
theorem chainKind_eq (kind : ExactKind) (rest : List (Op × ExactOperand)) :
    chainKind kind rest =
      if kind = .integer ∧ ∀ pair ∈ rest, pair.2.kind = .integer then .integer else .decimal := by
  induction rest generalizing kind with
  | nil =>
      cases kind with
      | integer => exact (if_pos ⟨rfl, List.forall_mem_nil _⟩).symm
      | decimal => exact (if_neg fun h => nomatch h.1).symm
  | cons pair rest ih =>
      refine (ih (kind.join pair.2.kind)).trans (if_congr ?_ rfl rfl)
      rw [List.forall_mem_cons, ExactKind.join_eq_integer_iff, and_assoc]

variable {exact : Op → Rat → Rat → Rat} {first next x : ExactOperand} {op : Op}
  {rest : List (Op × ExactOperand)}

/-- Without continuations nothing can overflow. -/
theorem prefixesFit_nil (first : ExactOperand) : PrefixesFit exact first [] := by
  intro count _
  rw [List.take_nil]
  exact first.holds

/-- The results from the second operand on are those of the chain that starts with the result of
the first two. -/
theorem prefixesFit_cons_iff (hkind : next.kind = first.kind.join x.kind)
    (hvalue : next.value = exact op first.value x.value) :
    PrefixesFit exact first ((op, x) :: rest) ↔ PrefixesFit exact next rest := by
  unfold PrefixesFit
  rw [hkind, hvalue]
  constructor
  · intro hall count hcount
    exact hall (count + 1) (Nat.succ_le_succ hcount)
  · intro hall count hcount
    cases count with
    | zero => exact first.holds
    | succ count => exact hall count (Nat.le_of_succ_le_succ hcount)

theorem not_prefixesFit_cons
    (h : ¬ (first.kind.join x.kind).Holds (exact op first.value x.value)) :
    ¬ PrefixesFit exact first ((op, x) :: rest) :=
  fun hall => h (hall 1 (Nat.succ_le_succ (Nat.zero_le _)))

/-- **CHAINS**: a chain of exact operators steps through its results until one of them does not
fit. -/
theorem chain_combines (apply : Op → Term → Term → EvalResult Term)
    (exact : Op → Rat → Rat → Rat) (first : ExactOperand) (rest : List (Op × ExactOperand))
    (h : ∀ pair ∈ rest, CombinesExactly (apply pair.1) (exact pair.1)) :
    (∃ last : ExactOperand, chain apply first.term (chainTerms rest) = .ok last.term ∧
        last.kind = chainKind first.kind rest ∧
        last.value = chainValue exact first.value rest ∧
        (rest ≠ [] ∨ first.literal.IsCanonical first.kind first.value →
          last.literal.IsCanonical last.kind last.value) ∧
        PrefixesFit exact first rest) ∨
      (chain apply first.term (chainTerms rest) = evaluationError .numericOverflow ∧
        ¬ PrefixesFit exact first rest) := by
  induction rest generalizing first with
  | nil =>
      refine Or.inl ⟨first, rfl, rfl, rfl, ?_, prefixesFit_nil first⟩
      rintro (hne | hcanonical)
      · exact absurd rfl hne
      · exact hcanonical
  | cons pair rest ih =>
      obtain ⟨op, x⟩ := pair
      obtain ⟨hop, hrest⟩ := List.forall_mem_cons.mp h
      have hchain : chain apply first.term (chainTerms ((op, x) :: rest)) =
          apply op first.term x.term >>= fun next => chain apply next (chainTerms rest) := rfl
      rcases hop first x with ⟨next, hnext, hkind, hvalue, hcanonical⟩ | ⟨hoverflow, hfits⟩
      · rw [hchain, hnext, prefixesFit_cons_iff hkind hvalue]
        rcases ih next hrest with ⟨last, hrun, hlastkind, hlastvalue, hlast, hall⟩ | hrun
        · rw [hkind] at hlastkind
          rw [hvalue] at hlastvalue
          exact Or.inl ⟨last, hrun, hlastkind, hlastvalue, fun _ => hlast (Or.inr hcanonical), hall⟩
        · exact Or.inr hrun
      · refine Or.inr ⟨?_, not_prefixesFit_cons hfits⟩
        rw [hchain, hoverflow]
        rfl

/-- A chain that starts with a number is one of numbers, be it of one operand. -/
theorem numericChain_operand (apply : Op → Term → Term → EvalResult Term) (first : ExactOperand)
    (rest : List (Op × Term)) :
    numericChain apply first.term rest = chain apply first.term rest := by
  cases rest with
  | nil =>
      obtain ⟨x, hx, -⟩ := first.numeric_term
      unfold numericChain
      rw [hx]
      rfl
  | cons pair rest => rfl

end Chains

end SparqlScalar
