import SparqlScalar.Proofs.CastTexts

/-!
# Casts of ill-typed literals

    A literal whose text is not read by its datatype stands for itself.  The coercions and the casts
    to numbers ask for its value, and are refused.  Two casts ask for its text instead:

      values  -- there is no number, text, date or date-time in a literal that stands for itself,
                 and it is not cast to any kind of number (`Literal.refusesValue_of_value_other`)
      texts   -- it is cast to the truth value that it says, in any case of letters, and from one
                 date-time to another if only the blanks around its text were in the way
                 (`CastTarget.apply_boolean_eq_ok_iff`, `CastTarget.apply_dateTime_eq_ok_iff`)
-/

namespace SparqlScalar

namespace Literal

variable {l : Literal} {d : Datatype}

/-- A datatype with values is attached to the literal, since that of tagged texts has none. -/
theorem annotation_of_datatype? (h : l.datatype? = some d) : l.annotation = .datatype d.iri := by
  obtain ⟨text, annotation⟩ := l
  cases annotation with
  | language tag => cases h
  | datatype iri => exact congrArg Annotation.datatype (Datatype.ofIri?_eq_some_iff.mp h)

/-- The words that a truth value is written as. -/
def wordsOf (b : Bool) : List String := if b then ["1", "true"] else ["0", "false"]

/-- The text of the literal is a word for a truth value, in any case of letters. -/
def Says (l : Literal) (b : Bool) : Prop :=
  ∃ word ∈ wordsOf b, l.lexical.toList.map Char.toLower = word.toList

end Literal

/-! ## Values -/

namespace CastTarget

/-- The targets that are numbers. -/
def numbers : List CastTarget := [.integer, .decimal, .float, .double]

variable {target : CastTarget} {l : Literal}

/-- A literal that stands for itself is not converted to a number. -/
theorem convert_of_value_other (htarget : target ∈ numbers) (h : l.value = .other l) :
    target.convert l = target.refuse l := by
  cases target with
  | string | boolean | dateTime => simp [numbers] at htarget
  | decimal =>
      simp only [convert, toDecimal, toNumber, h]
      split <;> rfl
  | _ =>
      simp only [convert, toNumber, h]
      rfl

/-- The refusal of a literal that stands for itself: its datatype has no values, or it is none of
them. -/
def refuseOther {α : Type} (target : CastTarget) (l : Literal) : EvalResult α :=
  if l.datatype? = none then evaluationError (.castFromUnknownDatatype l.datatypeIri)
  else target.refuse l

theorem apply_of_value_other (htarget : target ∈ numbers) (h : l.value = .other l) :
    target.apply (.literal l) = target.refuseOther l := by
  have hstring : target ≠ .string := by
    rintro rfl
    simp [numbers] at htarget
  have hdateTime : target ≠ .dateTime := by
    rintro rfl
    simp [numbers] at htarget
  rw [apply_eq hstring, source_untagged (Literal.self_of_value_other h).2, refuseOther]
  cases l.datatype? with
  | none => rfl
  | some d =>
      rw [if_neg (Option.some_ne_none d)]
      show (if d = .dateTime ∧ target ≠ .dateTime then target.refuse l else .ok l) >>= _ = _
      by_cases hd : d = .dateTime
      · rw [if_pos ⟨hd, hdateTime⟩]
        rfl
      · rw [if_neg fun h => hd h.1]
        show (target.convert l).map _ = _
        rw [convert_of_value_other htarget h]
        rfl

/-! ## Texts -/

/-- A literal is converted to the truth value that it says. -/
theorem toBoolean_eq_ok_iff {b : Bool} : toBoolean l = .ok b ↔ l.Says b := by
  simp only [toBoolean, Literal.Says]
  generalize l.lexical.toList.map Char.toLower = text
  split
  case isTrue hone =>
    rcases hone with rfl | rfl <;> cases b <;> decide
  case isFalse hone =>
    split
    case isTrue hzero => rcases hzero with rfl | rfl <;> cases b <;> decide
    case isFalse hzero =>
      refine iff_of_false nofun ?_
      rintro ⟨word, hword, rfl⟩
      cases b with
      | true =>
          rcases List.mem_pair.mp hword with rfl | rfl
          · exact hone (Or.inl rfl)
          · exact hone (Or.inr rfl)
      | false =>
          rcases List.mem_pair.mp hword with rfl | rfl
          · exact hzero (Or.inl rfl)
          · exact hzero (Or.inr rfl)

/-- A literal without a tag is cast to the truth value that it says, unless its datatype has no
values or is that of date-times. -/
theorem apply_boolean_eq_ok_iff (hlanguage : l.language? = none) {y : Term} :
    CastTarget.boolean.apply (.literal l) = .ok y ↔
      (∃ d, l.datatype? = some d ∧ d ≠ .dateTime) ∧ ∃ b, l.Says b ∧ y = Term.ofBool b := by
  have hallowed : ∀ d : Datatype, (d = .dateTime → CastTarget.boolean = .dateTime) ↔
      d ≠ .dateTime := fun d =>
    ⟨fun h hd => absurd (h hd) (by decide), fun h hd => absurd hd h⟩
  rw [apply_eq_ok_iff (by decide)]
  simp only [source_eq_ok_iff hlanguage, hallowed, convert, EvalResult.map_eq_ok_iff,
    toBoolean_eq_ok_iff]
  constructor
  · rintro ⟨source, ⟨rfl, hd⟩, v, ⟨b, hb, rfl⟩, rfl⟩
    exact ⟨hd, b, hb, rfl⟩
  · rintro ⟨hd, b, hb, rfl⟩
    exact ⟨l, ⟨rfl, hd⟩, _, ⟨b, hb, rfl⟩, rfl⟩

/-- A date-time is read from the core of a text, as the literal of the core is decoded. -/
theorem readTrimmed_dateTime_eq_ok_iff {text : String} {v : DateTime} :
    readTrimmed DateTime.parse? text = .ok v ↔
      ∃ core : String, IsCore text.toList core.toList ∧
        (Literal.typed core Datatype.dateTime.iri).value = .dateTime v := by
  have hread : ∀ core : String, IsCore text.toList core.toList →
      (readTrimmed DateTime.parse? text = .ok v ↔
        (Literal.typed core Datatype.dateTime.iri).value = .dateTime v) := by
    intro core hcore
    rw [readTrimmed_eq hcore, Literal.value_typed_eq_iff fun _ => Value.noConfusion]
    show _ ↔ (DateTime.parse? core.toList).map Value.dateTime = some (.dateTime v)
    cases DateTime.parse? core.toList with
    | none => exact iff_of_false nofun nofun
    | some w => exact ⟨fun h => congrArg (some ∘ Value.dateTime) (Except.ok.inj h),
        fun h => congrArg Except.ok (Value.dateTime.inj (Option.some.inj h))⟩
  constructor
  · intro hok
    obtain ⟨core, hcore⟩ := exists_isCore text
    exact ⟨core, hcore, (hread core hcore).mp hok⟩
  · rintro ⟨core, hcore, hvalue⟩
    exact (hread core hcore).mpr hvalue

/-- A literal that stands for itself is converted to a date-time if its datatype is that of
date-times and reads the core of its text. -/
theorem toDateTime_eq_ok_iff (h : l.value = .other l) {v : DateTime} :
    toDateTime l = .ok v ↔
      l.datatype? = some .dateTime ∧ ∃ core : String, IsCore l.lexical.toList core.toList ∧
        (Literal.typed core l.datatypeIri).value = .dateTime v := by
  unfold toDateTime
  cases hd : l.datatype? with
  | none => exact iff_of_false nofun fun h => nomatch h.1
  | some d =>
      have hattached := Literal.annotation_of_datatype? hd
      cases d with
      | dateTime =>
          rw [Literal.datatypeIri_eq hattached, and_iff_right rfl]
          exact readTrimmed_dateTime_eq_ok_iff
      | string =>
          rw [Literal.value_of_parse? hattached rfl] at h
          cases h
      | _ => exact iff_of_false nofun fun h => nomatch h.1

/-- A literal that stands for itself is cast to a date-time if only the blanks around its text were
in the way. -/
theorem apply_dateTime_eq_ok_iff (h : l.value = .other l) {y : Term} :
    CastTarget.dateTime.apply (.literal l) = .ok y ↔
      l.datatype? = some .dateTime ∧ ∃ (core : String) (v : DateTime),
        IsCore l.lexical.toList core.toList ∧
          (Literal.typed core l.datatypeIri).value = .dateTime v ∧
          y = (Value.dateTime v).toTerm := by
  rw [apply_eq_ok_iff (by decide)]
  simp only [source_eq_ok_iff (Literal.self_of_value_other h).2, convert,
    EvalResult.map_eq_ok_iff]
  constructor
  · rintro ⟨source, ⟨rfl, -⟩, _, ⟨v, hv, rfl⟩, rfl⟩
    obtain ⟨hdatatype, core, hcore, hvalue⟩ := (toDateTime_eq_ok_iff h).mp hv
    exact ⟨hdatatype, core, v, hcore, hvalue, rfl⟩
  · rintro ⟨hdatatype, core, v, hcore, hvalue, rfl⟩
    have hv := (toDateTime_eq_ok_iff h).mpr ⟨hdatatype, core, hcore, hvalue⟩
    exact ⟨l, ⟨rfl, .dateTime, hdatatype, fun _ => trivial⟩, _, ⟨v, hv, rfl⟩, rfl⟩

end CastTarget

/-! ## All coercions -/

namespace Literal

/-- Whoever asks for the value of the literal is refused. -/
structure RefusesValue (l : Literal) : Prop where
  numeric : (Term.literal l).numeric = typeError (.notNumeric (.literal l))
  string : (Term.literal l).string = typeError (.notString (.literal l))
  date : (Term.literal l).date = typeError (.notDate (.literal l))
  dateTime : (Term.literal l).dateTime = typeError (.notDateTime (.literal l))
  numbers : ∀ target ∈ CastTarget.numbers,
    target.apply (.literal l) = CastTarget.refuseOther target l

theorem refusesValue_of_value_other {l : Literal} (h : l.value = .other l) : l.RefusesValue where
  numeric := by
    simp only [Term.numeric, Term.numericOperand, Term.literalOperand, bind, Except.bind, h]
    rfl
  string := by
    rw [Term.string, Term.value, h]
  date := by
    rw [Term.date, Term.value, h]
  dateTime := by
    rw [Term.dateTime, Term.value, h]
  numbers := fun _ htarget => CastTarget.apply_of_value_other htarget h

/-- **ILL-TYPED LITERALS**: one that stands for itself refuses its value, is cast to a truth value
exactly if it says one in a datatype that has values and is not that of date-times, and to a
date-time exactly if it is one but for the blanks around its text. -/
theorem ill_typed_casts {l : Literal} (h : l.value = .other l) :
    l.RefusesValue ∧
      (∀ y, CastTarget.boolean.apply (.literal l) = .ok y ↔
        (∃ d, l.datatype? = some d ∧ d ≠ .dateTime) ∧ ∃ b, l.Says b ∧ y = Term.ofBool b) ∧
      ∀ y, CastTarget.dateTime.apply (.literal l) = .ok y ↔
        l.datatype? = some .dateTime ∧ ∃ (core : String) (v : DateTime),
          IsCore l.lexical.toList core.toList ∧
            (typed core l.datatypeIri).value = .dateTime v ∧ y = (Value.dateTime v).toTerm := by
  refine ⟨refusesValue_of_value_other h, fun y => ?_, fun y => ?_⟩
  · exact CastTarget.apply_boolean_eq_ok_iff (self_of_value_other h).2
  · exact CastTarget.apply_dateTime_eq_ok_iff h

/-- A truth value in capitals is ill-typed.  It is not a number, and is cast to what it says. -/
theorem ill_typed_casts_of_capitals :
    let l := typed "TRUE" Datatype.boolean.iri
    l.value = .other l ∧ l.Says true ∧
      CastTarget.boolean.apply (.literal l) = .ok (Term.ofBool true) ∧
      CastTarget.integer.apply (.literal l) =
        evaluationError (.castImpossible l CastTarget.integer.iri) := by
  intro l
  have hother : l.value = .other l := by decide
  have hdatatype : l.datatype? = some .boolean := Datatype.ofIri?_iri .boolean
  have hsays : l.Says true := ⟨"true", by decide, by decide⟩
  obtain ⟨hrefuses, hboolean, -⟩ := ill_typed_casts hother
  refine ⟨hother, hsays, ?_, ?_⟩
  · exact (hboolean _).mpr ⟨⟨.boolean, hdatatype, by decide⟩, true, hsays, rfl⟩
  · rw [hrefuses.numbers .integer (by decide), CastTarget.refuseOther, hdatatype]
    rfl

/-- So not every ill-typed literal fails every cast but that to strings. -/
theorem not_all_casts_fail :
    ¬ ∀ l : Literal, l.value = .other l →
      (∃ e, (Term.literal l).numeric = .error e) ∧ (∃ e, (Term.literal l).string = .error e) ∧
        (∃ e, (Term.literal l).date = .error e) ∧ (∃ e, (Term.literal l).dateTime = .error e) ∧
        ∀ target : CastTarget, target ≠ .string → ∃ e, target.apply (.literal l) = .error e := by
  intro hall
  let l := typed "TRUE" Datatype.boolean.iri
  obtain ⟨-, -, -, -, hcasts⟩ := hall l (by decide)
  obtain ⟨e, he⟩ := hcasts .boolean (by decide)
  have hcast : CastTarget.boolean.apply (.literal l) = .ok (Term.ofBool true) := by decide
  rw [hcast] at he
  cases he

end Literal

end SparqlScalar
