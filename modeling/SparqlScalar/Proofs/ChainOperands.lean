import SparqlScalar.Proofs.IllTypedCasts
import SparqlScalar.Proofs.TemporalChains

/-!
# The operands of chains

    A chain starts with its first operand and takes the others one by one.  Each step reads both of
    its sides, so that a chain with a result has read all its operands, and its sort, numbers or
    points in time and durations, is that of the first one:

      numbers  -- a step reads two numbers and makes one, and so does a run, by induction over the
                  other operands (`StaysWithin.withNumbers`, `StaysWithin.of_chain`)
      points   -- the two shapes of chains that have a result have no other operands
                  (`StaysWithin.of_temporalChain`)
      lone     -- a lone operand is in no step: a number is read all the same, but of a point or a
                  duration only the datatype is (`Term.isTemporal_iff`), and an ill-typed one is handed
                  on (`additiveChain_of_isIllTyped`)
-/

namespace SparqlScalar

/-! ## Sorts -/

/-- The datatypes of points in time and durations. -/
def Datatype.isTemporal (d : Datatype) : Bool := d.isDateTime || d.isDuration

namespace Term

/-- A literal of a datatype among some, as which its text is read. -/
def Decodes (t : Term) (sort : Datatype → Bool) : Prop :=
  ∃ (l : Literal) (d : Datatype), t = .literal l ∧ sort d = true ∧ l.IsOf d

/-- A literal of a datatype among some, as which its text is not read. -/
def IsIllTyped (t : Term) (sort : Datatype → Bool) : Prop :=
  ∃ (l : Literal) (d : Datatype), t = .literal l ∧ sort d = true ∧
    l.annotation = .datatype d.iri ∧ d.parse? l.lexical = none

end Term

/-- A chain within a sort of datatypes: all operands are decoded, and the result is a literal of one
of the datatypes. -/
structure StaysWithin (sort : Datatype → Bool) (first : Term) (others : List Term) (t : Term) :
    Prop where
  operands : ∀ operand ∈ first :: others, operand.Decodes sort
  result : ∃ (l : Literal) (d : Datatype), t = .literal l ∧ sort d = true ∧
    l.annotation = .datatype d.iri

section Sorts

variable {sort : Datatype → Bool} {t first : Term}

theorem Term.Decodes.exists_literal (h : t.Decodes sort) :
    ∃ (l : Literal) (d : Datatype), t = .literal l ∧ sort d = true ∧
      l.annotation = .datatype d.iri := by
  obtain ⟨l, d, rfl, hsort, hdatatype, -⟩ := h
  exact ⟨l, d, rfl, hsort, hdatatype⟩

/-- No datatype reads the text of an ill-typed literal. -/
theorem Term.IsIllTyped.not_decodes (h : t.IsIllTyped sort) (other : Datatype → Bool) :
    ¬ t.Decodes other := by
  obtain ⟨l, d, rfl, -, hdatatype, hparse⟩ := h
  rintro ⟨l', d', hliteral, -, hdatatype', v, hparse'⟩
  obtain rfl := Term.literal.inj hliteral
  have hsame : some d = some d' :=
    (Literal.datatype?_eq_some hdatatype).symm.trans (Literal.datatype?_eq_some hdatatype')
  obtain rfl := Option.some.inj hsame
  exact nomatch hparse.symm.trans hparse'

/-- A lone operand is the result. -/
theorem StaysWithin.lone (h : first.Decodes sort) : StaysWithin sort first [] first where
  operands := List.forall_mem_singleton.mpr h
  result := h.exists_literal

end Sorts

/-! ## Numbers -/

/-- What gives a number is a literal that is decoded to it. -/
theorem Term.exists_literal_of_numeric {t : Term} {a : Numeric} (h : t.numeric = .ok a) :
    ∃ l : Literal, t = .literal l ∧ l.value = .numeric a := by
  cases t with
  | iri i | blank node => cases h
  | literal l =>
      refine ⟨l, rfl, ?_⟩
      cases hvalue : l.value with
      | numeric n =>
          simp only [numeric, numericOperand, literalOperand, bind, Except.bind, hvalue] at h
          exact congrArg Value.numeric (Except.ok.inj h)
      | _ =>
          simp only [numeric, numericOperand, literalOperand, bind, Except.bind, hvalue] at h
          cases h

/-- The texts of numbers belong to the datatypes of numbers. -/
theorem Datatype.isNumeric_of_parse? {d : Datatype} {lexical : String} {a : Numeric}
    (h : d.parse? lexical = some (.numeric a)) : d.isNumeric = true := by
  cases d with
  | float | double | decimal | integer => rfl
  | string => cases h
  | boolean | dateTime | date | time | duration | yearMonthDuration | dayTimeDuration =>
      obtain ⟨w, -, hw⟩ := Option.map_eq_some_iff.mp h
      cases hw

theorem Term.decodes_of_numeric {t : Term} {a : Numeric} (h : t.numeric = .ok a) :
    t.Decodes Datatype.isNumeric := by
  obtain ⟨l, rfl, hvalue⟩ := exists_literal_of_numeric h
  have hother : l.value ≠ .other l := by
    rw [hvalue]
    exact nofun
  rcases Literal.decoded_cases hother with ⟨tag, htag⟩ | ⟨d, hdatatype, hparse⟩
  · rw [Literal.value, htag] at hvalue
    cases hvalue
  · rw [hvalue] at hparse
    exact ⟨l, d, rfl, Datatype.isNumeric_of_parse? hparse, hdatatype, _, hparse⟩

/-- The literal of a number is of the datatype of its kind. -/
theorem Numeric.exists_literal (n : Numeric) :
    ∃ (l : Literal) (d : Datatype), (Value.numeric n).toTerm = .literal l ∧
      d.isNumeric = true ∧ l.annotation = .datatype d.iri := by
  refine ⟨n.toLiteral, n.kind.datatype, rfl, ?_, rfl⟩
  cases n <;> rfl

/-- **ONE STEP** reads two numbers and makes one. -/
theorem StaysWithin.withNumbers {f : Numeric → Numeric → EvalResult Numeric}
    {left right t : Term} (h : withNumbers f left right = .ok t) :
    StaysWithin Datatype.isNumeric left [right] t := by
  obtain ⟨a, ha, h⟩ := EvalResult.exists_of_bind_eq_ok h
  obtain ⟨b, hb, h⟩ := EvalResult.exists_of_bind_eq_ok h
  obtain ⟨n, -, h⟩ := EvalResult.exists_of_bind_eq_ok h
  obtain rfl := Except.ok.inj h
  refine ⟨?_, n.exists_literal⟩
  rw [List.forall_mem_cons, List.forall_mem_singleton]
  exact ⟨Term.decodes_of_numeric ha, Term.decodes_of_numeric hb⟩

theorem AdditiveOperator.apply_staysWithin {op : AdditiveOperator} {left right t : Term}
    (h : op.apply left right = .ok t) : StaysWithin Datatype.isNumeric left [right] t := by
  cases op <;> exact .withNumbers h

theorem MultiplicativeOperator.apply_staysWithin {op : MultiplicativeOperator}
    {left right t : Term} (h : op.apply left right = .ok t) :
    StaysWithin Datatype.isNumeric left [right] t := by
  cases op <;> exact .withNumbers h

section Runs

variable {Op : Type} {apply : Op → Term → Term → EvalResult Term} {first t : Term}
  {rest : List (Op × Term)}

/-- **RUNS**: if steps stay within a sort, so do runs of one step or more. -/
theorem StaysWithin.of_chain {sort : Datatype → Bool}
    (hstep : ∀ op left right t, apply op left right = .ok t → StaysWithin sort left [right] t)
    (hrest : rest ≠ []) (h : chain apply first rest = .ok t) :
    StaysWithin sort first (rest.map Prod.snd) t := by
  induction rest generalizing first with
  | nil => exact absurd rfl hrest
  | cons pair rest ih =>
      obtain ⟨op, second⟩ := pair
      obtain ⟨next, hnext, hrun⟩ := EvalResult.exists_of_bind_eq_ok h
      have hhead := hstep op first second next hnext
      by_cases hmore : rest = []
      · subst hmore
        obtain rfl := Except.ok.inj hrun
        exact hhead
      · -- what the step makes is an operand of the remaining run, and none of the whole one
        have htail := ih hmore hrun
        obtain ⟨hfirst, hsecond⟩ := List.forall_mem_cons.mp hhead.operands
        obtain ⟨-, hothers⟩ := List.forall_mem_cons.mp htail.operands
        refine ⟨?_, htail.result⟩
        rw [List.map_cons, List.forall_mem_cons, List.forall_mem_cons]
        exact ⟨hfirst, hsecond second List.mem_cons_self, hothers⟩

/-- **CHAINS OF NUMBERS** read all their operands, a lone one too. -/
theorem StaysWithin.of_numericChain
    (hstep : ∀ op left right t, apply op left right = .ok t →
      StaysWithin Datatype.isNumeric left [right] t)
    (h : numericChain apply first rest = .ok t) :
    StaysWithin Datatype.isNumeric first (rest.map Prod.snd) t := by
  by_cases hrest : rest = []
  · subst hrest
    obtain ⟨a, ha, hlone⟩ := EvalResult.exists_of_bind_eq_ok h
    obtain rfl := Except.ok.inj hlone
    exact .lone (Term.decodes_of_numeric ha)
  · rw [numericChain, if_neg (mt List.isEmpty_iff.mp hrest)] at h
    exact .of_chain hstep hrest h

end Runs

/-! ## Points in time and durations -/

section Points

variable {first t : Term} {rest : List (AdditiveOperator × Term)} {d : Datatype}

theorem Term.IsPoint.decodes (h : t.IsPoint d) : t.Decodes Datatype.isTemporal := by
  obtain ⟨hd, l, rfl, hl⟩ := h
  exact ⟨l, d, rfl, Bool.or_eq_true_iff.mpr (Or.inl hd), hl⟩

theorem Term.IsSpanFor.decodes (h : t.IsSpanFor d) : t.Decodes Datatype.isTemporal := by
  obtain ⟨l, span, hspan, rfl, hl, -⟩ := h
  exact ⟨l, span, rfl, Bool.or_eq_true_iff.mpr (Or.inr hspan), hl⟩

/-- A difference has two operands, which are decoded. -/
theorem IsDifference.decodes (h : IsDifference first rest) :
    ∀ operand ∈ first :: rest.map Prod.snd, operand.Decodes Datatype.isTemporal := by
  cases h with
  | mk hfirst hsecond =>
      rw [List.map_cons, List.map_nil, List.forall_mem_cons, List.forall_mem_singleton]
      exact ⟨hfirst.decodes, hsecond.decodes⟩

/-- The operands of a shift are decoded. -/
theorem IsShift.decodes (h : IsShift d first rest) :
    ∀ operand ∈ first :: rest.map Prod.snd, operand.Decodes Datatype.isTemporal := by
  cases h with
  | pointFirst hpoint hspans =>
      rw [List.forall_mem_cons, List.forall_mem_map]
      exact ⟨hpoint.decodes, fun pair hpair => (hspans pair hpair).decodes⟩
  | pointSecond hspan hpoint hspans =>
      rw [List.map_cons, List.forall_mem_cons, List.forall_mem_cons, List.forall_mem_map]
      exact ⟨hspan.decodes, hpoint.decodes, fun pair hpair => (hspans pair hpair).decodes⟩

theorem IsShift.isDateTime (h : IsShift d first rest) : d.isDateTime = true := by
  cases h with
  | pointFirst hpoint _ => exact hpoint.1
  | pointSecond => rfl

/-- **CHAINS OF POINTS AND DURATIONS** read all their operands if there is more than one. -/
theorem StaysWithin.of_temporalChain (hrest : rest ≠ []) (h : temporalChain first rest = .ok t) :
    StaysWithin Datatype.isTemporal first (rest.map Prod.snd) t := by
  rcases isDifference_or_isShift_of_ok hrest h with hdifference | ⟨d, hshift⟩
  · refine ⟨hdifference.decodes, ?_⟩
    rcases temporalChain_of_isDifference hdifference with ⟨duration, hok⟩ | hoverflow
    · obtain rfl := Except.ok.inj (h.symm.trans hok)
      exact ⟨_, .duration, rfl, rfl, rfl⟩
    · exact nomatch h.symm.trans hoverflow
  · refine ⟨hshift.decodes, ?_⟩
    rcases temporalChain_of_isShift hrest hshift with ⟨l, hok, hdatatype⟩ | hoverflow
    · obtain rfl := Except.ok.inj (h.symm.trans hok)
      exact ⟨l, d, rfl, Bool.or_eq_true_iff.mpr (Or.inl hshift.isDateTime), hdatatype⟩
    · exact nomatch h.symm.trans hoverflow

end Points

/-! ## Chains -/

section Chains

variable {first t : Term} {rest : List (AdditiveOperator × Term)}

/-- The datatype alone tells the sort of a chain, whether the text belongs to it or not. -/
theorem Term.isTemporal_iff : t.isTemporal = true ↔
    t.Decodes Datatype.isTemporal ∨ t.IsIllTyped Datatype.isTemporal := by
  have hliteral : ∀ {l : Literal} {d : Datatype}, d.isTemporal = true →
      l.annotation = .datatype d.iri → (Term.literal l).isTemporal = true := by
    intro l d hsort hdatatype
    show l.datatype?.any Datatype.isTemporal = true
    rw [Literal.datatype?_eq_some hdatatype]
    exact hsort
  constructor
  · intro h
    cases t with
    | iri i | blank node => cases h
    | literal l =>
        cases hd : l.datatype? with
        | none =>
            rw [Term.isTemporal, hd] at h
            cases h
        | some d =>
            rw [Term.isTemporal, hd] at h
            have hdatatype := Literal.annotation_of_datatype? hd
            cases hparse : d.parse? l.lexical with
            | some v => exact Or.inl ⟨l, d, rfl, h, hdatatype, v, hparse⟩
            | none => exact Or.inr ⟨l, d, rfl, h, hdatatype, hparse⟩
  · rintro (⟨l, d, rfl, hsort, hdatatype, -⟩ | ⟨l, d, rfl, hsort, hdatatype, -⟩)
    · exact hliteral hsort hdatatype
    · exact hliteral hsort hdatatype

/-- **THE LONE OPERAND** of the datatype of a point or a duration is handed on as it is. -/
theorem additiveChain_of_isIllTyped (h : first.IsIllTyped Datatype.isTemporal) :
    additiveChain first [] = .ok first := by
  rw [additiveChain, if_pos (Term.isTemporal_iff.mpr (Or.inr h))]
  rfl

/-- **SUMS** read all their operands unless there is only one, which is ill-typed. -/
theorem additiveChain_staysWithin (h : additiveChain first rest = .ok t)
    (hlone : ¬ (rest = [] ∧ first.IsIllTyped Datatype.isTemporal)) :
    StaysWithin Datatype.isNumeric first (rest.map Prod.snd) t ∨
      StaysWithin Datatype.isTemporal first (rest.map Prod.snd) t := by
  by_cases htemporal : first.isTemporal = true
  · rw [additiveChain, if_pos htemporal] at h
    right
    by_cases hrest : rest = []
    · subst hrest
      obtain rfl := Except.ok.inj h
      have hdecodes := (Term.isTemporal_iff.mp htemporal).resolve_right fun hill => hlone ⟨rfl, hill⟩
      exact .lone hdecodes
    · exact .of_temporalChain hrest h
  · rw [additiveChain, if_neg htemporal] at h
    exact Or.inl (.of_numericChain (fun op _ _ _ => op.apply_staysWithin) h)

end Chains

/-- **CHAINS READ THEIR OPERANDS**: a product with a result has numbers only, and a sum has numbers
only or points in time and durations only.  The exception are sums of one operand that is ill-typed
for the datatype of a point or a duration: it is handed on. -/
theorem chains_read_operands (first : Term) (factors : List (MultiplicativeOperator × Term))
    (summands : List (AdditiveOperator × Term)) :
    (∀ t, multiplicativeChain first factors = .ok t →
        StaysWithin Datatype.isNumeric first (factors.map Prod.snd) t) ∧
      ((∀ t, additiveChain first summands = .ok t →
          StaysWithin Datatype.isNumeric first (summands.map Prod.snd) t ∨
            StaysWithin Datatype.isTemporal first (summands.map Prod.snd) t) ↔
        ¬ (summands = [] ∧ first.IsIllTyped Datatype.isTemporal)) ∧
      (summands = [] ∧ first.IsIllTyped Datatype.isTemporal →
        additiveChain first summands = .ok first) := by
  refine ⟨fun t h => ?_, ⟨fun hreads => ?_, fun hlone t h => ?_⟩, ?_⟩
  · exact .of_numericChain (fun op _ _ _ => op.apply_staysWithin) h
  · rintro ⟨rfl, hill⟩
    have hfirst : ∀ sort, ¬ StaysWithin sort first [] first := fun sort hwithin =>
      hill.not_decodes sort (hwithin.operands first List.mem_cons_self)
    rcases hreads first (additiveChain_of_isIllTyped hill) with hwithin | hwithin
    · exact hfirst _ hwithin
    · exact hfirst _ hwithin
  · exact additiveChain_staysWithin h hlone
  · rintro ⟨rfl, hill⟩
    exact additiveChain_of_isIllTyped hill

/-- A product of numbers, a day and what comes after it, and a text that is no day. -/
theorem chains_read_operands_of_days :
    let two := Term.literal (Literal.typed "2" (Datatype.integer .integer).iri)
    let day := Term.literal (Literal.typed "2020-02-28" Datatype.date.iri)
    let span := Term.literal (Literal.typed "P2D" Datatype.dayTimeDuration.iri)
    let text := Term.literal (Literal.typed "abc" Datatype.date.iri)
    (∃ t, multiplicativeChain two [(.multiply, two)] = .ok t ∧
        StaysWithin Datatype.isNumeric two [two] t) ∧
      (∃ t, additiveChain day [(.add, span)] = .ok t ∧
        (StaysWithin Datatype.isNumeric day [span] t ∨
          StaysWithin Datatype.isTemporal day [span] t)) ∧
      additiveChain text [] = .ok text := by
  intro two day span text
  have hproduct : multiplicativeChain two [(.multiply, two)] =
      .ok (.literal (Literal.typed "4" (Datatype.integer .integer).iri)) := rfl
  have hsum : additiveChain day [(.add, span)] =
      .ok (.literal (Literal.typed "2020-03-01" Datatype.date.iri)) := rfl
  refine ⟨⟨_, hproduct, ?_⟩, ⟨_, hsum, ?_⟩, ?_⟩
  · exact (chains_read_operands two [(.multiply, two)] []).1 _ hproduct
  · exact (chains_read_operands day [] [(.add, span)]).2.1.mpr (fun h => nomatch h.1) _ hsum
  · exact (chains_read_operands text [] []).2.2 ⟨rfl, _, .date, rfl, rfl, rfl, rfl⟩

/-- A lone operand of a datatype of numbers is read. -/
example : additiveChain (.literal (Literal.typed "abc" (Datatype.integer .integer).iri)) [] =
    typeError (.notNumeric (.literal (Literal.typed "abc" (Datatype.integer .integer).iri))) := by
  decide

/-- A lone operand of the datatype of a day is not: it is handed on, and no datatype reads it. -/
theorem lone_operand_is_not_read :
    let text := Term.literal (Literal.typed "abc" Datatype.date.iri)
    additiveChain text [] = .ok text ∧
      ¬ text.Decodes Datatype.isNumeric ∧ ¬ text.Decodes Datatype.isTemporal := by
  intro text
  have hill : text.IsIllTyped Datatype.isTemporal := ⟨_, .date, rfl, rfl, rfl, rfl⟩
  exact ⟨additiveChain_of_isIllTyped hill, hill.not_decodes _, hill.not_decodes _⟩

end SparqlScalar
