import SparqlScalar.Proofs.ExactComparisons

/-!
# The order that sorts values

    Values of many sorts are compared with one another, and most pairs of sorts have no order.  A
    sort needs none: blank nodes come first, IRIs after them and literals last, and among literals
    each sort has an order of its own, in which nothing is lost.

      laws    -- what a sort needs of a comparison that may have no answer (`Sorts`), and that equal
                 elements can then stand for each other (`Sorts.congr_left`)
      sorts   -- the order within one sort is that of texts, truth values or numbers, so it can be
                 chained (`Value.Within.chain`)
      places  -- a comparison has an answer within a sort or between two places, and in no other
                 case (`Value.compare?_eq_some_iff`)

    Numbers in binary floating point, points in time and durations are left out: the first are not
    equal to themselves if they are no numbers, and the others have a partial order of their own.
-/

namespace SparqlScalar

/-! ## Laws -/

/-- A comparison that may have no answer sorts the elements of a sort: each equals itself, answers
are turned round with the operands, and two answers in a row that do not go down make a third. -/
structure Sorts {α : Type} (P : α → Prop) (compare? : α → α → Option Ordering) : Prop where
  self : ∀ {a}, P a → compare? a a = some .eq
  swap : ∀ {a b}, P a → P b → compare? b a = (compare? a b).map Ordering.swap
  chain : ∀ {a b c : α} {o o' : Ordering}, P a → P b → P c → compare? a b = some o →
    compare? b c = some o' → o.isLE = true → o'.isLE = true → compare? a c = some (o.then o')

namespace Sorts

variable {α : Type} {P : α → Prop} {compare? : α → α → Option Ordering} {a b c : α}

/-- To be less is transitive. -/
theorem lt_trans (h : Sorts P compare?) (ha : P a) (hb : P b) (hc : P c)
    (hab : compare? a b = some .lt) (hbc : compare? b c = some .lt) : compare? a c = some .lt :=
  h.chain ha hb hc hab hbc rfl rfl

/-- To be equal is transitive. -/
theorem eq_trans (h : Sorts P compare?) (ha : P a) (hb : P b) (hc : P c)
    (hab : compare? a b = some .eq) (hbc : compare? b c = some .eq) : compare? a c = some .eq :=
  h.chain ha hb hc hab hbc rfl rfl

/-- To be equal is symmetric. -/
theorem eq_symm (h : Sorts P compare?) (ha : P a) (hb : P b) (hab : compare? a b = some .eq) :
    compare? b a = some .eq := by
  rw [h.swap ha hb, hab]
  rfl

/-- An answer for one of two equal elements is an answer for the other. -/
theorem eq_some_of_eq (h : Sorts P compare?) (ha : P a) (hb : P b) (hc : P c)
    (hab : compare? a b = some .eq) {o : Ordering} (hbc : compare? b c = some o) :
    compare? a c = some o := by
  cases o with
  | lt => exact h.chain ha hb hc hab hbc rfl rfl
  | eq => exact h.chain ha hb hc hab hbc rfl rfl
  | gt =>
      -- read from the other side, the answers do not go down
      have hcb : compare? c b = some .lt := by
        rw [h.swap hb hc, hbc]
        rfl
      have hca : compare? c a = some .lt := h.chain hc hb ha hcb (h.eq_symm ha hb hab) rfl rfl
      rw [h.swap hc ha, hca]
      rfl

/-- **EQUAL ELEMENTS STAND FOR EACH OTHER**, also where there is no answer. -/
theorem congr_left (h : Sorts P compare?) (ha : P a) (hb : P b) (hc : P c)
    (hab : compare? a b = some .eq) : compare? a c = compare? b c := by
  apply Option.ext
  intro o
  constructor
  · intro hac
    exact h.eq_some_of_eq hb ha hc (h.eq_symm ha hb hab) hac
  · intro hbc
    exact h.eq_some_of_eq ha hb hc hab hbc

/-- Equal values compare alike with a third one on the other side. -/
theorem congr_right (h : Sorts P compare?) (ha : P a) (hb : P b) (hc : P c)
    (hab : compare? a b = some .eq) : compare? c a = compare? c b := by
  rw [h.swap ha hc, h.swap hb hc, h.congr_left ha hb hc hab]

end Sorts

/-- Two answers of an order in a row that do not go down make a third. -/
theorem compare_chain {α : Type} [Ord α] [Std.TransOrd α] {x y z : α} {o o' : Ordering}
    (h : compare x y = o) (h' : compare y z = o') (ho : o.isLE = true) (ho' : o'.isLE = true) :
    compare x z = o.then o' := by
  cases o with
  | lt =>
      cases o' with
      | lt => exact Std.TransCmp.lt_trans h h'
      | eq => exact Std.TransCmp.lt_of_lt_of_eq h h'
      | gt => cases ho'
  | eq =>
      rw [Std.TransCmp.congr_left h, h']
      rfl
  | gt => cases ho

/-! ## Sorts of values -/

/-- The kinds of numbers that are exact. -/
def Numeric.isExact : Numeric → Bool
  | .integer _ => true
  | .decimal _ => true
  | _ => false

/-- An exact number has a kind and a value. -/
theorem Numeric.exists_hasValue {x : Numeric} (h : x.isExact = true) :
    ∃ kind q, x.HasValue kind q := by
  cases x with
  | integer a => exact ⟨.integer, a.toRat, .integer a⟩
  | decimal a => exact ⟨.decimal, a.toRat, .decimal a⟩
  | float _ | double _ => cases h

/-- An exact number has no two values. -/
theorem Numeric.HasValue.unique {x : Numeric} {kind kind' : ExactKind} {p q : Rat}
    (hp : x.HasValue kind p) (hq : x.HasValue kind' q) : p = q := by
  cases hp <;> cases hq <;> rfl

namespace Value

/-- The values that are sorted: all but numbers in binary floating point, points in time and
durations. -/
def isSortable : Value → Bool
  | .numeric x => x.isExact
  | .dateTime _ | .time _ | .date _ => false
  | .duration _ | .yearMonthDuration _ | .dayTimeDuration _ => false
  | _ => true

/-- Two values of one sort and their order: nodes by their names, truth values, exact numbers, and
texts of one language or of none.  A literal without a value is in order with itself only. -/
inductive Within : Value → Value → Ordering → Prop where
  | blank {x y : BlankNode} {o : Ordering} (h : compare x.label y.label = o) :
      Within (.blank x) (.blank y) o
  | iri {x y : Iri} {o : Ordering} (h : compare x.text y.text = o) : Within (.iri x) (.iri y) o
  | boolean {x y : Bool} {o : Ordering} (h : compare x y = o) : Within (.boolean x) (.boolean y) o
  | numeric {x y : Numeric} {kind kind' : ExactKind} {p q : Rat} {o : Ordering}
      (hx : x.HasValue kind p) (hy : y.HasValue kind' q) (h : compare p q = o) :
      Within (.numeric x) (.numeric y) o
  | simple {s t : String} {o : Ordering} (h : compare s t = o) : Within (.simple s) (.simple t) o
  | tagged {s t tag : String} {o : Ordering} (h : compare s t = o) :
      Within (.tagged s tag) (.tagged t tag) o
  | other {l m : Literal} (hiri : l.datatypeIri = m.datatypeIri) (htext : l.lexical = m.lexical) :
      Within (.other l) (.other m) .eq

/-- Blank nodes come first, IRIs after them, and literals last. -/
def place : Value → Nat
  | .blank _ => 0
  | .iri _ => 1
  | _ => 2

variable {a b c : Value} {o o' : Ordering}

/-- Values that are compared within a class are of one class. -/
theorem Within.place_eq (h : Within a b o) : a.place = b.place := by
  cases h <;> rfl

theorem within_self (h : a.isSortable = true) : Within a a .eq := by
  cases a with
  | blank _ => exact .blank Std.ReflCmp.compare_self
  | iri _ => exact .iri Std.ReflCmp.compare_self
  | boolean _ => exact .boolean Std.ReflCmp.compare_self
  | numeric x =>
      obtain ⟨kind, q, hx⟩ := Numeric.exists_hasValue h
      exact .numeric hx hx Std.ReflCmp.compare_self
  | simple _ => exact .simple Std.ReflCmp.compare_self
  | tagged _ _ => exact .tagged Std.ReflCmp.compare_self
  | other _ => exact .other rfl rfl
  | dateTime _ | time _ | date _ => cases h
  | duration _ | yearMonthDuration _ | dayTimeDuration _ => cases h

/-- **CHAINS WITHIN A SORT.** -/
theorem Within.chain (h : Within a b o) (h' : Within b c o') (ho : o.isLE = true)
    (ho' : o'.isLE = true) : Within a c (o.then o') := by
  cases h with
  | blank hab => cases h' with | blank hbc => exact .blank (compare_chain hab hbc ho ho')
  | iri hab => cases h' with | iri hbc => exact .iri (compare_chain hab hbc ho ho')
  | boolean hab => cases h' with | boolean hbc => exact .boolean (compare_chain hab hbc ho ho')
  | numeric hx hy hab =>
      cases h' with
      | numeric hy' hz hbc =>
          obtain rfl := hy.unique hy'
          exact .numeric hx hz (compare_chain hab hbc ho ho')
  | simple hab => cases h' with | simple hbc => exact .simple (compare_chain hab hbc ho ho')
  | tagged hab => cases h' with | tagged hbc => exact .tagged (compare_chain hab hbc ho ho')
  | other hiri htext =>
      cases h' with
      | other hiri' htext' => exact .other (hiri.trans hiri') (htext.trans htext')

/-! ## The order -/

/-- Literals are compared by what they stand for. -/
theorem compare?_of_literals (ha : a.isLiteral = true) (hb : b.isLiteral = true) :
    a.compare? b = a.compareLiterals? b := by
  cases a with
  | iri _ | blank _ => cases ha
  | _ =>
      cases b with
      | iri _ | blank _ => cases hb
      | _ => rfl

theorem isLiteral_iff_place : a.isLiteral = true ↔ a.place = 2 := by
  cases a <;> simp [isLiteral, place]

/-- Values of different classes are in the order of the classes. -/
theorem compare?_of_place_ne (h : a.place ≠ b.place) :
    a.compare? b = some (compare a.place b.place) := by
  cases a with
  | blank _ =>
      cases b with
      | blank _ => exact absurd rfl h
      | _ => rfl
  | iri _ =>
      cases b with
      | iri _ => exact absurd rfl h
      | _ => rfl
  | _ =>
      cases b with
      | blank _ | iri _ => rfl
      | _ => exact absurd rfl h

/-- The order is turned round with the values. -/
theorem compare?_swap (a b : Value) : b.compare? a = (a.compare? b).map Ordering.swap := by
  by_cases hplace : a.place = b.place
  · by_cases ha : a.isLiteral = true
    · have hb : b.isLiteral = true := by rwa [isLiteral_iff_place, ← hplace, ← isLiteral_iff_place]
      rw [compare?_of_literals ha hb, compare?_of_literals hb ha, compareLiterals?_swap]
    · cases a with
      | blank x =>
          cases b with
          | blank y => exact congrArg some Std.OrientedOrd.eq_swap
          | _ => cases hplace
      | iri x =>
          cases b with
          | iri y => exact congrArg some Std.OrientedOrd.eq_swap
          | _ => cases hplace
      | _ => exact absurd rfl ha
  · rw [compare?_of_place_ne hplace, compare?_of_place_ne (Ne.symm hplace)]
    exact congrArg some Std.OrientedOrd.eq_swap

theorem Within.compare? (h : Within a b o) : a.compare? b = some o := by
  cases h with
  | blank h | iri h | boolean h | simple h => exact congrArg some h
  | numeric hx hy h => exact (hx.compare? hy).trans (congrArg some h)
  | tagged h => exact (if_pos rfl).trans (congrArg some h)
  | other hiri htext => exact if_pos ⟨hiri, htext⟩

/-- In one place, only values of one sort have an order. -/
theorem within_of_compare? (ha : a.isSortable = true) (hb : b.isSortable = true)
    (hplace : a.place = b.place) (h : a.compare? b = some o) : Within a b o := by
  cases a with
  | blank x =>
      cases b with
      | blank y => exact .blank (Option.some.inj h)
      | _ => cases hplace
  | iri x =>
      cases b with
      | iri y => exact .iri (Option.some.inj h)
      | _ => cases hplace
  | boolean x =>
      cases b with
      | boolean y => exact .boolean (Option.some.inj h)
      | blank _ | iri _ => cases hplace
      | _ => cases h
  | numeric x =>
      cases b with
      | numeric y =>
          obtain ⟨kind, p, hx⟩ := Numeric.exists_hasValue ha
          obtain ⟨kind', q, hy⟩ := Numeric.exists_hasValue hb
          exact .numeric hx hy (Option.some.inj ((hx.compare? hy).symm.trans h))
      | blank _ | iri _ => cases hplace
      | _ => cases h
  | simple s =>
      cases b with
      | simple t => exact .simple (Option.some.inj h)
      | blank _ | iri _ => cases hplace
      | _ => cases h
  | tagged s tag =>
      cases b with
      | tagged t tag' =>
          obtain ⟨rfl, horder⟩ := Option.ite_none_right_eq_some.mp h
          exact .tagged (Option.some.inj horder)
      | blank _ | iri _ => cases hplace
      | _ => cases h
  | other l =>
      cases b with
      | other m =>
          obtain ⟨⟨hiri, htext⟩, horder⟩ := Option.ite_none_right_eq_some.mp h
          obtain rfl := Option.some.inj horder
          exact .other hiri htext
      | blank _ | iri _ => cases hplace
      | _ => cases h
  | dateTime _ | time _ | date _ => cases ha
  | duration _ | yearMonthDuration _ | dayTimeDuration _ => cases ha

/-- **WHERE THERE IS AN ORDER**: within one sort, or else between two places. -/
theorem compare?_eq_some_iff (ha : a.isSortable = true) (hb : b.isSortable = true) :
    a.compare? b = some o ↔ Within a b o ∨ a.place ≠ b.place ∧ compare a.place b.place = o := by
  by_cases hplace : a.place = b.place
  · constructor
    · intro h
      exact Or.inl (within_of_compare? ha hb hplace h)
    · rintro (h | ⟨hne, -⟩)
      · exact h.compare?
      · exact absurd hplace hne
  · rw [compare?_of_place_ne hplace, Option.some_inj]
    constructor
    · intro h
      exact Or.inr ⟨hplace, h⟩
    · rintro (h | ⟨-, h⟩)
      · exact absurd h.place_eq hplace
      · exact h

/-- Between two places, what does not go down goes up. -/
theorem place_lt_of_isLE (hne : a.place ≠ b.place) (h : compare a.place b.place = o)
    (ho : o.isLE = true) : a.place < b.place ∧ o = .lt := by
  cases o with
  | lt => exact ⟨Nat.compare_eq_lt.mp h, rfl⟩
  | eq => exact absurd (Nat.compare_eq_eq.mp h) hne
  | gt => cases ho

/-- **THE ORDER SORTS VALUES.** -/
theorem sorts_compare? : Sorts (fun v => v.isSortable = true) Value.compare? where
  self := fun ha => (within_self ha).compare?
  swap := fun _ _ => compare?_swap _ _
  chain := by
    intro a b c o o' ha hb hc hab hbc ho ho'
    rw [compare?_eq_some_iff ha hb] at hab
    rw [compare?_eq_some_iff hb hc] at hbc
    rw [compare?_eq_some_iff ha hc]
    rcases hab with hab | ⟨hne, hab⟩ <;> rcases hbc with hbc | ⟨hne', hbc⟩
    · exact Or.inl (hab.chain hbc ho ho')
    · -- a sort lies in one place, so the step between places decides
      obtain ⟨hlt, rfl⟩ := place_lt_of_isLE hne' hbc ho'
      rw [← hab.place_eq] at hlt
      refine Or.inr ⟨hlt.ne, (Nat.compare_eq_lt.mpr hlt).trans ?_⟩
      cases o with
      | lt | eq => rfl
      | gt => cases ho
    · obtain ⟨hlt, rfl⟩ := place_lt_of_isLE hne hab ho
      rw [hbc.place_eq] at hlt
      exact Or.inr ⟨hlt.ne, Nat.compare_eq_lt.mpr hlt⟩
    · obtain ⟨hlt, rfl⟩ := place_lt_of_isLE hne hab ho
      obtain ⟨hlt', rfl⟩ := place_lt_of_isLE hne' hbc ho'
      have hfar := hlt.trans hlt'
      exact Or.inr ⟨hfar.ne, Nat.compare_eq_lt.mpr hfar⟩

/-- Values that can always be compared: two nodes, two texts with one language tag or with none, two
truth values and two exact numbers. -/
inductive SameSort : Value → Value → Prop where
  | nodes {a b : Value} (ha : a.isLiteral = false) (hb : b.isLiteral = false) : SameSort a b
  | tagged (s t tag : String) : SameSort (.tagged s tag) (.tagged t tag)
  | simple (s t : String) : SameSort (.simple s) (.simple t)
  | boolean (x y : Bool) : SameSort (.boolean x) (.boolean y)
  | numeric {x y : Numeric} (hx : x.isExact = true) (hy : y.isExact = true) :
      SameSort (.numeric x) (.numeric y)

/-- Values of one sort always have an order. -/
theorem SameSort.exists_order (h : SameSort a b) : ∃ order, a.compare? b = some order := by
  cases h with
  | nodes ha hb =>
      cases a with
      | blank x => cases b <;> exact ⟨_, rfl⟩
      | iri x => cases b <;> exact ⟨_, rfl⟩
      | _ => cases ha
  | tagged s t tag => exact ⟨_, Within.compare? (.tagged rfl)⟩
  | simple s t => exact ⟨_, Within.compare? (.simple rfl)⟩
  | boolean x y => exact ⟨_, Within.compare? (.boolean rfl)⟩
  | numeric hx hy =>
      obtain ⟨kind, p, hp⟩ := Numeric.exists_hasValue hx
      obtain ⟨kind', q, hq⟩ := Numeric.exists_hasValue hy
      exact ⟨_, Within.compare? (.numeric hp hq rfl)⟩

/-- **SORTING**: among sortable values, answers are turned round with the values, less is transitive,
equal is an equivalence whose elements stand for each other in every comparison, blank nodes come
before IRIs and IRIs before literals, and values of one sort can always be compared. -/
theorem sort_order (ha : a.isSortable = true) (hb : b.isSortable = true)
    (hc : c.isSortable = true) :
    b.compare? a = (a.compare? b).map Ordering.swap ∧
      (a.compare? b = some .lt → b.compare? c = some .lt → a.compare? c = some .lt) ∧
      a.compare? a = some .eq ∧
      (a.compare? b = some .eq → b.compare? a = some .eq) ∧
      (a.compare? b = some .eq → b.compare? c = some .eq → a.compare? c = some .eq) ∧
      (a.compare? b = some .eq → a.compare? c = b.compare? c ∧ c.compare? a = c.compare? b) ∧
      (∀ node i, compare? (.blank node) (.iri i) = some .lt) ∧
      (a.isLiteral = true → ∀ i, compare? (.iri i) a = some .lt) ∧
      (SameSort a b → ∃ order, a.compare? b = some order) := by
  have hsorts := sorts_compare?
  refine ⟨hsorts.swap ha hb, hsorts.lt_trans ha hb hc, hsorts.self ha, hsorts.eq_symm ha hb,
    hsorts.eq_trans ha hb hc, ?_, ?_, ?_, SameSort.exists_order⟩
  · intro hab
    exact ⟨hsorts.congr_left ha hb hc hab, hsorts.congr_right ha hb hc hab⟩
  · intro node i
    rfl
  · intro hliteral i
    have hlast : a.place = 2 := isLiteral_iff_place.mp hliteral
    have hne : (Value.iri i).place ≠ a.place := by
      rw [hlast]
      exact nofun
    rw [compare?_of_place_ne hne, hlast]
    rfl

/-- The integer one and the decimal one stand for each other before the integer two. -/
theorem sort_order_of_ones :
    let one := Value.numeric (.integer Integer.one)
    let same := Value.numeric (.decimal Decimal.one)
    let two := Value.numeric (.integer ⟨2, by decide, by decide⟩)
    one.isSortable = true ∧ same.isSortable = true ∧ two.isSortable = true ∧
      one.compare? same = some .eq ∧ one.compare? two = some .lt ∧ same.compare? two = some .lt := by
  intro one same two
  obtain ⟨-, -, -, -, -, hcongr, -⟩ := sort_order (a := one) (b := same) (c := two) rfl rfl rfl
  have hone : one.compare? same = some .eq := rfl
  have htwo : one.compare? two = some .lt := rfl
  exact ⟨rfl, rfl, rfl, hone, htwo, (hcongr hone).1.symm.trans htwo⟩

end Value

end SparqlScalar
