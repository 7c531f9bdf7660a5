import SparqlScalar.Proofs.IllTypedCasts

/-!
# Values that are read as they are written

    Truth values, whole numbers of 64 bits, decimals and texts are EXACT: they are written without
    rounding.  Each of them is written as one literal and read from many, with zeros around the
    digits, with a sign or in a narrower datatype:

      meaning  -- what a literal stands for is told by the words for truth values, the grammar of
                  numerals and the ranges of the datatypes, and not by its reader
                  (`Literal.StandsFor`)
      writing  -- the literal that an exact value is written as stands for it
                  (`ExactValue.standsFor_toLiteral`)
      reading  -- a literal is read as an exact value if and only if it stands for it
                  (`Literal.standsFor_iff`)

    So what is written is read again, and two literals are written alike if and only if they stand
    for one value.
-/

namespace SparqlScalar

/-! ## Exact values -/

/-- A value that is written without rounding. -/
inductive ExactValue where
  | boolean (value : Bool)
  | integer (value : Integer)
  | decimal (value : Decimal)
  | simple (text : String)
  | tagged (text tag : String)

namespace ExactValue

/-- The value, among those of all terms. -/
def toValue : ExactValue → Value
  | .boolean b => .boolean b
  | .integer a => .numeric (.integer a)
  | .decimal a => .numeric (.decimal a)
  | .simple text => .simple text
  | .tagged text tag => .tagged text tag

/-- The literal that operators write the value as. -/
def toLiteral : ExactValue → Literal
  | .boolean b => Literal.ofBool b
  | .integer a => (Numeric.integer a).toLiteral
  | .decimal a => (Numeric.decimal a).toLiteral
  | .simple text => StringValue.toLiteral ⟨text, none⟩
  | .tagged text tag => StringValue.toLiteral ⟨text, some tag⟩

theorem toValue_injective : Function.Injective toValue := by
  intro v w h
  cases v <;> cases w <;> cases h <;> rfl

theorem toTerm_toValue (v : ExactValue) : v.toValue.toTerm = .literal v.toLiteral := by
  cases v <;> rfl

theorem toValue_ne_other (v : ExactValue) (l : Literal) : v.toValue ≠ .other l := by
  cases v <;> exact nofun

end ExactValue

/-! ## Meaning -/

/-- A literal stands for an exact value: its text is a word for a truth value, a numeral for a
number in the range of the datatype, or the text itself. -/
inductive Literal.StandsFor (l : Literal) : ExactValue → Prop where
  | boolean {b : Bool} (hdatatype : l.annotation = .datatype Datatype.boolean.iri)
      (hword : l.lexical ∈ wordsOf b) : StandsFor l (.boolean b)
  | integer {a : Integer} (h : l.Denotes .integer a.toRat) : StandsFor l (.integer a)
  | decimal {a : Decimal} (h : l.Denotes .decimal a.toRat) : StandsFor l (.decimal a)
  | simple (hdatatype : l.annotation = .datatype Datatype.string.iri) :
      StandsFor l (.simple l.lexical)
  | tagged {tag : String} (htag : l.annotation = .language tag) :
      StandsFor l (.tagged l.lexical tag)

/-- **WRITING**: the literal that an exact value is written as stands for it. -/
theorem ExactValue.standsFor_toLiteral (v : ExactValue) : v.toLiteral.StandsFor v := by
  cases v with
  | boolean b => exact .boolean rfl (by cases b <;> decide)
  | integer a => exact .integer (Numeric.HasValue.integer a).toLiteral.2
  | decimal a => exact .decimal (Numeric.HasValue.decimal a).toLiteral.2
  | simple text => exact .simple rfl
  | tagged text tag => exact .tagged rfl

/-! ## Reading -/

/-- The words that are read as a truth value. -/
theorem parseBool?_eq_some_iff {text : String} {b : Bool} :
    parseBool? text = some b ↔ text ∈ Literal.wordsOf b := by
  unfold parseBool?
  split
  case isTrue htrue => rcases htrue with rfl | rfl <;> cases b <;> decide
  case isFalse htrue =>
    split
    case isTrue hfalse => rcases hfalse with rfl | rfl <;> cases b <;> decide
    case isFalse hfalse =>
      refine iff_of_false nofun ?_
      intro hword
      cases b with
      | true => exact htrue (List.mem_pair.mp hword).symm
      | false => exact hfalse (List.mem_pair.mp hword).symm

namespace Literal

variable {l : Literal} {v : ExactValue}

/-- A literal is read as what it stands for. -/
theorem StandsFor.value (h : l.StandsFor v) : l.value = v.toValue := by
  cases h with
  | boolean hdatatype hword =>
      refine value_of_parse? hdatatype ?_
      show (parseBool? l.lexical).map Value.boolean = _
      rw [parseBool?_eq_some_iff.mpr hword]
      rfl
  | integer h =>
      obtain ⟨x, hvalue, hx⟩ := h.value
      rw [hvalue, hx.inj (.integer _)]
      rfl
  | decimal h =>
      obtain ⟨x, hvalue, hx⟩ := h.value
      rw [hvalue, hx.inj (.decimal _)]
      rfl
  | simple hdatatype => exact value_of_parse? hdatatype rfl
  | tagged htag => rw [Literal.value, htag, ExactValue.toValue]

/-- A literal that denotes a number stands for it. -/
theorem Denotes.exists_standsFor {kind : ExactKind} {q : Rat} (h : l.Denotes kind q) :
    ∃ v, l.StandsFor v := by
  obtain ⟨x, -, hx⟩ := h.value
  cases hx with
  | integer a => exact ⟨.integer a, .integer h⟩
  | decimal a => exact ⟨.decimal a, .decimal h⟩

/-- A literal that is read as an exact value stands for one. -/
theorem exists_standsFor (h : l.value = v.toValue) : ∃ w, l.StandsFor w := by
  have hdecoded : l.value ≠ .other l := by
    rw [h]
    exact v.toValue_ne_other l
  rcases decoded_cases hdecoded with ⟨tag, htag⟩ | ⟨d, hdatatype, hparse⟩
  · exact ⟨_, .tagged htag⟩
  · cases d with
    | string => exact ⟨_, .simple hdatatype⟩
    | boolean =>
        obtain ⟨b, hb, -⟩ := Option.map_eq_some_iff.mp hparse
        exact ⟨_, .boolean hdatatype (parseBool?_eq_some_iff.mp hb)⟩
    | decimal | integer _ =>
        obtain ⟨kind, q, hdenotes⟩ := exists_denotes (datatype?_eq_some hdatatype) rfl hdecoded
        exact hdenotes.exists_standsFor
    | float | double | dateTime | date | time | duration | yearMonthDuration
    | dayTimeDuration =>
        -- the values of these datatypes are not exact
        obtain ⟨x, -, hx⟩ := Option.map_eq_some_iff.mp hparse
        rw [h] at hx
        cases v <;> cases hx

/-- **READING**: a literal is read as an exact value if and only if it stands for it. -/
theorem standsFor_iff : l.StandsFor v ↔ l.value = v.toValue := by
  constructor
  · exact StandsFor.value
  · intro h
    obtain ⟨w, hw⟩ := exists_standsFor h
    obtain rfl := ExactValue.toValue_injective (h.symm.trans hw.value)
    exact hw

/-- A literal is written again as what it stands for is. -/
theorem StandsFor.toTerm (h : l.StandsFor v) : l.value.toTerm = .literal v.toLiteral := by
  rw [h.value, v.toTerm_toValue]

end Literal

namespace ExactValue

theorem value_toLiteral (v : ExactValue) : v.toLiteral.value = v.toValue :=
  v.standsFor_toLiteral.value

/-- Values that are written alike are one. -/
theorem toLiteral_injective : Function.Injective toLiteral := by
  intro v w h
  refine toValue_injective ?_
  rw [← v.value_toLiteral, h, w.value_toLiteral]

/-- **READING UNDOES WRITING**: an exact value is read from the literal that it is written as.  A
literal is read as an exact value if and only if it stands for it; to write and read it again gives
the same value, and literals are written alike if and only if they stand for the same. -/
theorem reading_undoes_writing :
    (∀ v : ExactValue, (Term.literal v.toLiteral).value = v.toValue) ∧
      (∀ (l : Literal) (v : ExactValue), l.value = v.toValue ↔ l.StandsFor v) ∧
      ∀ {l m : Literal} {v w : ExactValue}, l.StandsFor v → m.StandsFor w →
        l.value.toTerm.value = l.value ∧ (l.value.toTerm = m.value.toTerm ↔ v = w) := by
  refine ⟨value_toLiteral, fun l v => Literal.standsFor_iff.symm, ?_⟩
  intro l m v w hl hm
  rw [hl.toTerm, hm.toTerm, hl.value]
  refine ⟨v.value_toLiteral, fun h => toLiteral_injective (Term.literal.inj h), ?_⟩
  rintro rfl
  rfl

/-- The least decimal with zeros around its digits is written without them, and read again. -/
theorem reading_undoes_writing_of_least_decimal :
    let least : Decimal := ⟨-0x80000000000000000000000000000000, by decide, by decide⟩
    let l := Literal.typed "-0170141183460469231731.6873037158841057280" Datatype.decimal.iri
    let m := Literal.typed "-170141183460469231731.687303715884105728" Datatype.decimal.iri
    l.StandsFor (.decimal least) ∧ m.StandsFor (.decimal least) ∧
      l.value.toTerm = .literal m ∧ m.value.toTerm = .literal m ∧
      l.value.toTerm.value = .numeric (.decimal least) := by
  intro least l m
  obtain ⟨-, hreading, hwriting⟩ := reading_undoes_writing
  have hl : l.value = (ExactValue.decimal least).toValue := by decide
  have hm : m.value = (ExactValue.decimal least).toValue := by decide
  have hlstands := (hreading l (.decimal least)).mp hl
  have hmstands := (hreading m (.decimal least)).mp hm
  obtain ⟨hagain, hsame⟩ := hwriting hlstands hmstands
  have hterm : l.value.toTerm = .literal m := by decide
  refine ⟨hlstands, hmstands, hterm, ?_, hagain.trans hl⟩
  rw [← hsame.mpr rfl, hterm]

end ExactValue

end SparqlScalar
