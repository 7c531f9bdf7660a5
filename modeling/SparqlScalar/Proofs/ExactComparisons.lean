import Mathlib.Order.Compare
import Mathlib.Tactic.NormNum
import SparqlScalar.Proofs.Comparisons
import SparqlScalar.Proofs.ExactOperands

/-!
# Exact numbers compare as they are written

    Between the digits of two literals and the answer of a comparison stand two readers, the wider
    of two kinds and a table of operators.  Nothing is lost on the way, as the order of the rational
    numbers goes through all of it:

      numbers    -- counts of units have the order of what they count, so numbers of exact kinds have
                    the order of their values (`Numeric.HasValue.compare?`)
      literals   -- a literal of an exact datatype that is decoded at all is well-typed, and its text
                    denotes one number (`Literal.exists_denotes`, `Literal.Denotes.writes_iff`)
      operators  -- the six operators read one order where there is one (`holds_of_termOrder`), and
                    read that of rational numbers as relations between these (`accepts_compare`)
-/

namespace SparqlScalar

/-! ## Numbers -/

/-- An increasing function keeps the order. -/
theorem compare_of_strictMono {α β : Type} [LinearOrder α] [LinearOrder β] {f : α → β}
    (h : StrictMono f) (x y : α) : compare (f x) (f y) = compare x y := by
  rw [← cmp_eq_compare, ← cmp_eq_compare, h.cmp_map_eq]

theorem Integer.compare_toRat (a b : Integer) : compare a.toRat b.toRat = compare a b :=
  compare_of_strictMono Int.cast_strictMono a.toInt b.toInt

theorem Decimal.compare_toRat (a b : Decimal) : compare a.toRat b.toRat = compare a b := by
  have hincreasing : StrictMono fun n : Int => (n : Rat) / 10 ^ 18 := by
    intro m n hlt
    have hcast : (m : Rat) < n := Int.cast_lt.mpr hlt
    show (m : Rat) / 10 ^ 18 < (n : Rat) / 10 ^ 18
    gcongr
  exact compare_of_strictMono hincreasing a.units b.units

/-- **EXACT NUMBERS HAVE THE ORDER OF THEIR VALUES**, whatever their kinds. -/
theorem Numeric.HasValue.compare? {x y : Numeric} {kind kind' : ExactKind} {p q : Rat}
    (hx : x.HasValue kind p) (hy : y.HasValue kind' q) : x.compare? y = some (compare p q) := by
  have hpair := promote_hasValue hx hy
  generalize kind.join kind' = wider at hpair
  rw [compare?_eq]
  generalize promote x y = pair at hpair ⊢
  cases hpair with
  | integer a b => exact congrArg some (a.compare_toRat b).symm
  | decimal a b => exact congrArg some (a.compare_toRat b).symm

/-! ## Literals -/

/-- The datatypes of exact numbers. -/
def Datatype.isExact : Datatype → Bool
  | .decimal => true
  | .integer _ => true
  | _ => false

namespace Numeral

/-- A text denotes one number. -/
theorem value_eq_of_text_eq {n m : Numeral} (h : n.text = m.text) : n.value = m.value := by
  obtain ⟨hsplit, hleading, hafter⟩ := n.splitSign_text
  obtain ⟨hsplit', hleading', hafter'⟩ := m.splitSign_text
  rw [h, hsplit'] at hsplit
  obtain ⟨hsign, hbody⟩ := Prod.mk.inj hsplit
  rw [hbody] at hleading' hafter'
  have hpointed : pointed n.places = pointed m.places := hafter.symm.trans hafter'
  have hplaces : n.places = m.places := by
    cases hn : n.places <;> cases hm : m.places <;> rw [hn, hm] at hpointed
    · cases hpointed
    · cases hpointed
    · exact congrArg some (List.cons.inj hpointed).2
  simp only [value, fraction]
  rw [hsign, ← hleading, hleading', hplaces]

end Numeral

namespace Literal

/-- The text of the literal is a numeral for a number. -/
def Writes (l : Literal) (q : Rat) : Prop := ∃ n : Numeral, n.text = l.lexical.toList ∧ n.value = q

variable {l : Literal} {kind : ExactKind} {d : Datatype} {p q : Rat}

theorem Writes.unique (hp : l.Writes p) (hq : l.Writes q) : p = q := by
  obtain ⟨n, hn, rfl⟩ := hp
  obtain ⟨m, hm, rfl⟩ := hq
  exact Numeral.value_eq_of_text_eq (hn.trans hm.symm)

theorem Denotes.writes (h : l.Denotes kind q) : l.Writes q := by
  cases h with
  | integer type n k hdatatype htext hplaces hvalue => exact ⟨n, htext, hvalue⟩
  | decimal n hdatatype htext => exact ⟨n, htext, rfl⟩

/-- A well-typed literal denotes what its text says. -/
theorem Denotes.writes_iff (h : l.Denotes kind q) : l.Writes p ↔ p = q := by
  constructor
  · intro hp
    exact hp.unique h.writes
  · rintro rfl
    exact h.writes

theorem Denotes.value_ne_other (h : l.Denotes kind q) : l.value ≠ .other l := by
  obtain ⟨x, hvalue, -⟩ := h.value
  rw [hvalue]
  exact nofun

/-- A literal that is decoded has a language tag or a text of its datatype. -/
theorem decoded_cases (h : l.value ≠ .other l) :
    (∃ tag, l.annotation = .language tag) ∨
      ∃ d : Datatype, l.annotation = .datatype d.iri ∧ d.parse? l.lexical = some l.value := by
  obtain ⟨text, annotation⟩ := l
  cases annotation with
  | language tag => exact Or.inl ⟨tag, rfl⟩
  | datatype iri =>
      cases hdecoded : (Datatype.ofIri? iri).bind fun datatype => datatype.parse? text with
      | none =>
          refine absurd ?_ h
          simp only [value, hdecoded, Option.getD_none]
      | some v =>
          obtain ⟨d, hiri, hparse⟩ := Option.bind_eq_some_iff.mp hdecoded
          obtain rfl := Datatype.ofIri?_eq_some_iff.mp hiri
          exact Or.inr ⟨d, rfl, hparse.trans (congrArg some (value_of_parse? rfl hparse).symm)⟩

theorem parse?_of_value_ne_other (hdatatype : l.datatype? = some d) (h : l.value ≠ .other l) :
    l.annotation = .datatype d.iri ∧ d.parse? l.lexical = some l.value := by
  rcases decoded_cases h with ⟨tag, htag⟩ | ⟨e, hiri, hparse⟩
  · -- the datatype of tagged texts is not among those that have values
    rw [datatype?, datatypeIri, htag] at hdatatype
    cases hdatatype
  · obtain rfl : e = d := Option.some.inj ((datatype?_eq_some hiri).symm.trans hdatatype)
    exact ⟨hiri, hparse⟩

/-- **DECODED LITERALS ARE WELL-TYPED**: of an exact datatype, they denote a number. -/
theorem exists_denotes (hdatatype : l.datatype? = some d) (hexact : d.isExact = true)
    (h : l.value ≠ .other l) : ∃ kind q, l.Denotes kind q := by
  obtain ⟨hattached, hparse⟩ := parse?_of_value_ne_other hdatatype h
  cases d with
  | decimal =>
      obtain ⟨a, ha, -⟩ := Option.map_eq_some_iff.mp hparse
      obtain ⟨n, htext, hvalue⟩ := Decimal.parse?_eq_some_iff.mp ha
      refine ⟨.decimal, n.value, .decimal n hattached htext ?_⟩
      rw [hvalue]
      exact a.holds
  | integer type =>
      obtain ⟨a, ha, -⟩ := Option.map_eq_some_iff.mp hparse
      obtain ⟨b, hb, hrange⟩ := Option.bind_eq_some_iff.mp ha
      obtain ⟨hcontains, -⟩ := Option.ite_none_right_eq_some.mp hrange
      obtain ⟨n, htext, hplaces, hvalue⟩ := Integer.parse?_eq_some_iff.mp hb
      exact ⟨.integer, _, .integer type n _ hattached htext hplaces hvalue hcontains b.holds⟩
  | _ => cases hexact

/-- The ordering operators are defined for literals that are decoded. -/
theorem isOrdered_of_value_ne_other (h : l.value ≠ .other l) : l.isOrdered = true := by
  rcases decoded_cases h with ⟨tag, htag⟩ | ⟨d, hiri, -⟩
  · simp [isOrdered, language?, htag]
  · simp [isOrdered, datatype?_eq_some hiri]

end Literal

/-! ## Operators -/

namespace ComparisonOperator

/-- The relation between two numbers that an operator stands for. -/
def Relates : ComparisonOperator → Rat → Rat → Prop
  | .equal, p, q => p = q
  | .notEqual, p, q => p ≠ q
  | .less, p, q => p < q
  | .greater, p, q => q < p
  | .lessOrEqual, p, q => p ≤ q
  | .greaterOrEqual, p, q => q ≤ p

instance : (op : ComparisonOperator) → (p q : Rat) → Decidable (op.Relates p q)
  | .equal, _, _ => inferInstanceAs (Decidable (_ = _))
  | .notEqual, _, _ => inferInstanceAs (Decidable (_ ≠ _))
  | .less, _, _ => inferInstanceAs (Decidable (_ < _))
  | .greater, _, _ => inferInstanceAs (Decidable (_ < _))
  | .lessOrEqual, _, _ => inferInstanceAs (Decidable (_ ≤ _))
  | .greaterOrEqual, _, _ => inferInstanceAs (Decidable (_ ≤ _))

/-- The orders that an operator accepts are those of the numbers that it relates. -/
theorem accepts_compare (op : ComparisonOperator) (p q : Rat) :
    op.accepts (compare p q) = decide (op.Relates p q) := by
  rw [Bool.eq_iff_iff, decide_eq_true_iff]
  rcases lt_trichotomy p q with hlt | rfl | hgt
  · rw [compare_lt_iff_lt.mpr hlt]
    cases op <;> simp [accepts, Relates, hlt, hlt.le, hlt.ne, hlt.not_gt]
  · rw [compare_eq_iff_eq.mpr rfl]
    cases op <;> simp [accepts, Relates]
  · rw [compare_gt_iff_gt.mpr hgt]
    cases op <;> simp [accepts, Relates, hgt, hgt.le, hgt.ne', hgt.not_gt]

end ComparisonOperator

/-- All six operators succeed on terms that have an order, and read it. -/
theorem holds_of_termOrder {a b : Term} {order : Ordering} (h : termOrder a b = .ok order)
    (op : ComparisonOperator) : holds op a b = .ok (op.accepts order) := by
  have hequal := equalTerms_of_termOrder h
  have horder : orderTerms op a b = .ok (op.accepts order) := by
    apply eq_ok_of_outcome
    rw [outcome_orderTerms, h]
    rfl
  cases op with
  | equal => exact hequal
  | notEqual => exact congrArg (Except.map not) hequal
  | _ => exact horder

/-- Literals that denote numbers have the order of these. -/
theorem termOrder_of_denotes {a b : Literal} {kind kind' : ExactKind} {p q : Rat}
    (ha : a.Denotes kind p) (hb : b.Denotes kind' q) :
    termOrder (.literal a) (.literal b) = .ok (compare p q) := by
  obtain ⟨x, hxvalue, hx⟩ := ha.value
  obtain ⟨y, hyvalue, hy⟩ := hb.value
  have hordered : a.isOrdered = true := a.isOrdered_of_value_ne_other ha.value_ne_other
  have hcompare : a.value.compareLiterals? b.value = some (compare p q) := by
    rw [hxvalue, hyvalue]
    exact hx.compare? hy
  simp only [termOrder, hordered, hcompare, Bool.true_or, if_true, Option.elim_some]

/-- **WRITTEN NUMBERS**: two literals of exact datatypes that are decoded each denote one number in
base ten, and all six operators succeed on them and relate these numbers. -/
theorem comparison_of_written_numbers {a b : Literal} {d e : Datatype}
    (ha : a.datatype? = some d) (hd : d.isExact = true) (hadecoded : a.value ≠ .other a)
    (hb : b.datatype? = some e) (he : e.isExact = true) (hbdecoded : b.value ≠ .other b) :
    ∃ p q : Rat, (∀ r, a.Writes r ↔ r = p) ∧ (∀ r, b.Writes r ↔ r = q) ∧
      ∀ op, holds op (.literal a) (.literal b) = .ok (decide (op.Relates p q)) := by
  obtain ⟨kind, p, hp⟩ := Literal.exists_denotes ha hd hadecoded
  obtain ⟨kind', q, hq⟩ := Literal.exists_denotes hb he hbdecoded
  refine ⟨p, q, fun r => hp.writes_iff, fun r => hq.writes_iff, ?_⟩
  intro op
  rw [holds_of_termOrder (termOrder_of_denotes hp hq), op.accepts_compare]

/-- A decimal with zeros around its digits is less than a byte with the same digit before the
point. -/
theorem comparison_of_written_numbers_below_zero :
    let a := Literal.typed "-01.50" Datatype.decimal.iri
    let b := Literal.typed "-1" (Datatype.integer .byte).iri
    a.datatype? = some .decimal ∧ a.value ≠ .other a ∧
      b.datatype? = some (.integer .byte) ∧ b.value ≠ .other b ∧
      a.Writes (-3 / 2) ∧ b.Writes (-1) ∧
      holds .less (.literal a) (.literal b) = .ok true ∧
      holds .equal (.literal a) (.literal b) = .ok false := by
  intro a b
  obtain ⟨n, hntext, hn⟩ : ∃ n : Numeral, n.text = "-01.50".toList ∧ n.value = -3 / 2 := by
    refine ⟨⟨.minus, ['0', '1'], some ['5', '0'], by decide, by decide, by decide⟩, rfl, ?_⟩
    show ((-150 : Int) : Rat) / 10 ^ 2 = -3 / 2
    norm_num
  obtain ⟨m, hmtext, hmplaces, hm⟩ :
      ∃ m : Numeral, m.text = "-1".toList ∧ m.places = none ∧ m.value = ((-1 : Int) : Rat) := by
    refine ⟨⟨.minus, ['1'], none, by decide, by decide, by decide⟩, rfl, rfl, ?_⟩
    show ((-1 : Int) : Rat) / 10 ^ 0 = ((-1 : Int) : Rat)
    norm_num
  have hfits : ExactKind.decimal.Holds n.value := by
    refine ⟨-1500000000000000000, ?_, by decide, by decide⟩
    rw [hn]
    norm_num
  have hadenotes : a.Denotes .decimal n.value := .decimal n rfl hntext hfits
  have hbdenotes : b.Denotes .integer ((-1 : Int) : Rat) :=
    .integer .byte m (-1) rfl hmtext hmplaces hm (by decide) ⟨-1, rfl, by decide, by decide⟩
  rw [hn] at hadenotes
  have ha : a.datatype? = some .decimal := Datatype.ofIri?_iri _
  have hb : b.datatype? = some (.integer .byte) := Datatype.ofIri?_iri _
  obtain ⟨p, q, hp, hq, hop⟩ := comparison_of_written_numbers ha rfl hadenotes.value_ne_other hb rfl
    hbdenotes.value_ne_other
  obtain rfl := (hp _).mp hadenotes.writes
  obtain rfl := (hq _).mp hbdenotes.writes
  have hless : ComparisonOperator.less.Relates (-3 / 2) ((-1 : Int) : Rat) := by
    show (-3 / 2 : Rat) < ((-1 : Int) : Rat)
    norm_num
  have hequal : ¬ ComparisonOperator.equal.Relates (-3 / 2) ((-1 : Int) : Rat) := hless.ne
  refine ⟨ha, hadenotes.value_ne_other, hb, hbdenotes.value_ne_other, hadenotes.writes,
    hbdenotes.writes, ?_, ?_⟩
  · rw [hop .less, decide_eq_true hless]
  · rw [hop .equal, decide_eq_false hequal]

end SparqlScalar
