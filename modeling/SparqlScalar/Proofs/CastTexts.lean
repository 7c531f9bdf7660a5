import Mathlib.Data.List.DropRight
import SparqlScalar.Proofs.Casts
import SparqlScalar.Proofs.ExactComparisons

/-!
# Casts of texts

    A literal is decoded where it is read, and a text where it is cast.  The decoder takes the whole
    text of the literal, while a cast drops the blanks around it, forgets its tag and, on the way to
    a decimal, looks for an exponent before any of this.  Both read the same texts all the same:

      cores      -- a text has one core, what is left without the blanks around it
                    (`isCore_iff_trimBlank`)
      exponents  -- a text with an exponent has it in its core, which then is no numeral
                    (`IsCore.mem_of_not_blank`, `Decimal.parse?_eq_none_of_exponent`)
      casts      -- so a cast writes what its datatype reads the core as, and fails where it reads
                    nothing (`CastTarget.convert_simple`)
-/

namespace SparqlScalar

/-! ## Cores -/

/-- What is left of a text without the blanks around it. -/
structure IsCore (text core : List Char) : Prop where
  cut : ∃ before after, text = before ++ core ++ after ∧
    (∀ c ∈ before, isBlankChar c = true) ∧ ∀ c ∈ after, isBlankChar c = true
  first : ∀ hne : core ≠ [], ¬ isBlankChar (core.head hne) = true
  last : ∀ hne : core ≠ [], ¬ isBlankChar (core.getLast hne) = true

section Cores

variable {text core : List Char}

theorem isCore_trimBlank (text : List Char) : IsCore text (trimBlank text) where
  cut := by
    refine ⟨text.takeWhile isBlankChar, (text.dropWhile isBlankChar).rtakeWhile isBlankChar, ?_,
      fun c hc => List.mem_takeWhile_imp hc, fun c hc => List.mem_rtakeWhile_imp hc⟩
    show text =
      text.takeWhile isBlankChar ++ (text.dropWhile isBlankChar).rdropWhile isBlankChar ++ _
    rw [List.append_assoc, List.rdropWhile_append_rtakeWhile, List.takeWhile_append_dropWhile]
  first := by
    intro hne
    have hkept : trimBlank text <+: text.dropWhile isBlankChar :=
      List.rdropWhile_prefix isBlankChar _
    rw [hkept.head hne]
    exact Bool.eq_false_iff.mp (List.head_dropWhile_not isBlankChar _)
  last := List.rdropWhile_last_not isBlankChar _

/-- **ONE CORE**: a text has the core that casts read, and no other. -/
theorem isCore_iff_trimBlank : IsCore text core ↔ core = trimBlank text := by
  constructor
  · rintro ⟨⟨before, after, rfl, hbefore, hafter⟩, hfirst, hlast⟩
    show core = List.rdropWhile isBlankChar (List.dropWhile isBlankChar _)
    rw [List.append_assoc, List.dropWhile_append_of_pos hbefore]
    cases core with
    | nil => rw [List.nil_append, List.dropWhile_eq_nil_iff.mpr hafter, List.rdropWhile_nil]
    | cons c rest =>
        -- both searches stop at once: the first at `c`, the second at the last character
        have hc : ¬ isBlankChar c = true := hfirst (List.cons_ne_nil c rest)
        have hend : ∀ hne, ¬ isBlankChar ((c :: rest).getLast hne) = true := hlast
        rw [List.cons_append, List.dropWhile_cons_of_neg hc, ← List.cons_append, List.rdropWhile,
          List.reverse_append,
          List.dropWhile_append_of_pos fun d hd => hafter d (List.mem_reverse.mp hd)]
        exact (List.rdropWhile_eq_self_iff.mpr hend).symm
  · rintro rfl
    exact isCore_trimBlank text

theorem exists_isCore (text : String) : ∃ core : String, IsCore text.toList core.toList :=
  ⟨_, isCore_iff_trimBlank.mpr String.toList_ofList⟩

/-- Characters that are not blank are in the core. -/
theorem IsCore.mem_of_not_blank (h : IsCore text core) {c : Char} (hc : c ∈ text)
    (hblank : isBlankChar c = false) : c ∈ core := by
  obtain ⟨before, after, rfl, hbefore, hafter⟩ := h.cut
  have habsent : ∀ {cs : List Char}, (∀ d ∈ cs, isBlankChar d = true) → c ∉ cs := fun hcs hmem =>
    Bool.eq_false_iff.mp hblank (hcs c hmem)
  rcases List.mem_append.mp hc with hleft | hright
  · exact (List.mem_append.mp hleft).resolve_left (habsent hbefore)
  · exact absurd hright (habsent hafter)

end Cores

/-! ## Exponents -/

/-- A numeral is written with digits, signs and points. -/
theorem Numeral.mem_text {n : Numeral} {c : Char} (h : c ∈ n.text) :
    c.isDigit = true ∨ c ∈ ['+', '-', '.'] := by
  have hsign : ∀ {sign : WrittenSign}, c ∈ sign.text → c ∈ ['+', '-', '.'] := by
    intro sign hmem
    cases sign with
    | absent => exact nomatch hmem
    | plus | minus =>
        obtain rfl := List.mem_singleton.mp hmem
        decide
  rcases List.mem_append.mp h with hmem | hbody
  · exact Or.inr (hsign hmem)
  · rcases List.mem_append.mp hbody with hwhole | hplaces
    · exact Or.inl (n.whole_digits c hwhole)
    · have hdigits := n.places_digits
      cases hn : n.places with
      | none =>
          rw [hn] at hplaces
          exact nomatch hplaces
      | some cs =>
          rw [hn] at hplaces hdigits
          rcases List.mem_cons.mp hplaces with rfl | hmem
          · exact Or.inr (by decide)
          · exact Or.inl (hdigits c hmem)

/-- A numeral has no exponent. -/
theorem Numeral.not_exponent {n : Numeral} {c : Char} (h : c ∈ n.text) : ¬ (c = 'e' ∨ c = 'E') := by
  have hwritten := n.mem_text h
  rintro (rfl | rfl)
  · exact absurd hwritten (by decide)
  · exact absurd hwritten (by decide)

/-- A text with an exponent is not read as a decimal. -/
theorem Decimal.parse?_eq_none_of_exponent {text : List Char} {c : Char} (hmem : c ∈ text)
    (hc : c = 'e' ∨ c = 'E') : Decimal.parse? text = none := by
  cases hparse : Decimal.parse? text with
  | none => rfl
  | some a =>
      obtain ⟨n, rfl⟩ := exists_numeral hparse
      exact absurd hc (n.not_exponent hmem)

/-! ## Casts -/

namespace CastTarget

/-- The targets that read a text as their datatypes do. -/
def readers : List CastTarget := [.integer, .decimal, .float, .double, .dateTime]

section Readers

variable {text core : String} {α : Type}

theorem readTrimmed_eq (h : IsCore text.toList core.toList) (parse : List Char → Option α) :
    readTrimmed parse text = EvalResult.ofOption .malformed (parse core.toList) := by
  rw [readTrimmed, isCore_iff_trimBlank.mp h]

theorem toNumber_simple (h : IsCore text.toList core.toList) (target : CastTarget)
    (ofBool : Bool → α) (parse : List Char → Option α) (narrow : Numeric → Option α) :
    target.toNumber (Literal.simple text) ofBool parse narrow =
      EvalResult.ofOption .malformed (parse core.toList) := by
  simp only [toNumber, Literal.value_simple, readTrimmed_eq h]

/-- Whether a text has an exponent or not, a decimal is read from its core. -/
theorem toDecimal_simple (h : IsCore text.toList core.toList) :
    ∃ cause, toDecimal (Literal.simple text) =
      EvalResult.ofOption cause (Decimal.parse? core.toList) := by
  simp only [toDecimal, Literal.value_simple]
  split
  case isTrue hexponent =>
    obtain ⟨c, hc, hletter⟩ := List.any_eq_true.mp hexponent
    have hletter : c = 'e' ∨ c = 'E' := of_decide_eq_true hletter
    have hblank : isBlankChar c = false := by
      rcases hletter with rfl | rfl <;> decide
    rw [Decimal.parse?_eq_none_of_exponent (h.mem_of_not_blank hc hblank) hletter]
    exact ⟨_, rfl⟩
  case isFalse => exact ⟨_, toNumber_simple h _ _ _ _⟩

/-- **A CAST READS THE CORE**: a text is converted to what the datatype of the target reads its core
as, and to nothing else. -/
theorem convert_simple {target : CastTarget} (htarget : target ∈ readers)
    (h : IsCore text.toList core.toList) :
    ∃ cause, target.convert (Literal.simple text) =
      EvalResult.ofOption cause (target.datatype.parse? core) := by
  have hmap : ∀ {α : Type} (cause : EvaluationCause) (found : Option α) (embed : α → Value),
      (EvalResult.ofOption cause found).map embed =
        EvalResult.ofOption cause (found.map embed) := by
    intro α cause found embed
    cases found <;> rfl
  cases target with
  | string | boolean => simp [readers] at htarget
  | integer =>
      refine ⟨.malformed, ?_⟩
      simp only [convert, toNumber_simple h, datatype, Datatype.parse?,
        IntegerType.parse?_integer, hmap]
  | decimal =>
      obtain ⟨cause, hread⟩ := toDecimal_simple h
      refine ⟨cause, ?_⟩
      simp only [convert, hread, datatype, Datatype.parse?, hmap]
  | float | double =>
      refine ⟨.malformed, ?_⟩
      simp only [convert, toNumber_simple h, datatype, Datatype.parse?, hmap]
  | dateTime =>
      have hdatatype : (Literal.simple text).datatype? = some .string :=
        Literal.datatype?_eq_some rfl
      refine ⟨.malformed, ?_⟩
      simp only [convert, toDateTime, hdatatype]
      show (readTrimmed DateTime.parse? text).map _ = _
      rw [readTrimmed_eq h, hmap]
      rfl

end Readers

/-- **CASTS READ TEXTS AS LITERALS ARE DECODED**: a text, with a tag or without, has one core, and
its cast gives the literal of the value that the literal of the core is decoded to, or fails where
that one is not decoded. -/
theorem cast_of_text {target : CastTarget} (htarget : target ∈ readers) (text : String)
    (tag : Option String) :
    ∃ core : String, (∀ other, IsCore text.toList other ↔ other = core.toList) ∧
      let l := Literal.typed core target.iri
      let cast := target.apply (.literal (Literal.ofString text tag))
      ((∃ t, cast = .ok t) ↔ l.value ≠ .other l) ∧
        (∀ t, cast = .ok t → t = l.value.toTerm ∧
          ∃ written, t = .literal written ∧ written.annotation = .datatype target.iri) ∧
        ∀ e, cast = .error e → e.kind = .evaluation := by
  obtain ⟨core, hcore⟩ := exists_isCore text
  refine ⟨core, fun other => ?_, ?_⟩
  · rw [isCore_iff_trimBlank, ← isCore_iff_trimBlank.mp hcore]
  intro l cast
  obtain ⟨cause, hconvert⟩ := convert_simple htarget hcore
  have hcast : cast = (target.convert (Literal.simple text)).map Value.toTerm :=
    apply_of_source (by rintro rfl; simp [readers] at htarget) (source_ofString target text tag)
  have hvalue : l.value = (target.datatype.parse? core).getD (.other l) :=
    Literal.value_typed target.datatype core
  rw [hcast, hvalue]
  cases hparse : target.datatype.parse? core with
  | none =>
      rw [hconvert, hparse]
      refine ⟨iff_of_false (fun ⟨_, ht⟩ => nomatch ht) fun hne => hne rfl, fun t => nofun, ?_⟩
      intro e he
      obtain rfl := Except.error.inj he
      rfl
  | some v =>
      rw [hparse] at hconvert
      rw [hconvert]
      refine ⟨iff_of_true ⟨_, rfl⟩ ((Datatype.decoded_of_parse? hparse).2 l), ?_, fun e => nofun⟩
      intro t ht
      obtain rfl := Except.ok.inj ht
      exact ⟨rfl, written_of_convert hconvert⟩

/-- A decimal in a language, with blanks around it and zeros around its digits. -/
theorem cast_of_text_spaced :
    CastTarget.decimal ∈ readers ∧
      CastTarget.decimal.apply (.literal (Literal.ofString " -01.50\n" (some "en"))) =
        .ok (.literal (Literal.typed "-1.5" Datatype.decimal.iri)) := by
  have hmem : CastTarget.decimal ∈ readers := by decide
  obtain ⟨core, hcore, hsucceeds, hgives, -⟩ := cast_of_text hmem " -01.50\n" (some "en")
  obtain rfl : core = "-01.50" :=
    String.toList_inj.mp ((hcore _).mp (isCore_trimBlank _)).symm
  obtain ⟨t, ht⟩ := hsucceeds.mpr (by decide)
  refine ⟨hmem, ht.trans ?_⟩
  rw [(hgives t ht).1]
  decide

end CastTarget

end SparqlScalar
