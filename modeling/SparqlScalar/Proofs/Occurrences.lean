import SparqlScalar.Operator.Strings
import SparqlScalar.Proofs.ByteSearch
import SparqlScalar.Proofs.ExactComparisons

/-!
# Occurrences of one text in another

    Five functions search a text for a needle.  They answer one question, how the text is cut by the
    needle, and what they answer fits together:

      cuts       -- a search finds the cut with the shortest first part, and misses none
                    (`splitAtFirst?_eq_some_iff`, `splitAtFirst?_eq_none_iff`)
      operands   -- the terms that are searched are those of strings (`Term.string_eq_ok_iff`), and
                    two of them are searched or refused by their tags alone (`compatible_toTerm`)
      answers    -- each function reads its answer off the first cut (`SearchAnswers.ofCut`)
      bytes      -- a search over the bytes of both texts finds the same cut, between characters
                    (`SearchAnswers.Slices`)
-/

namespace SparqlScalar

/-! ## Cuts -/

/-- A needle cuts a text into two parts around it, of which the first is as short as can be. -/
structure IsFirstCut (needle text before after : List Char) : Prop where
  cut : text = before ++ needle ++ after
  first : ∀ before' after', text = before' ++ needle ++ after' → before.length ≤ before'.length

section Cuts

variable {needle text before after : List Char}

/-- A text is cut at one place first. -/
theorem IsFirstCut.unique {before' after' : List Char} (h : IsFirstCut needle text before after)
    (h' : IsFirstCut needle text before' after') : before = before' ∧ after = after' := by
  have hlength : before.length = before'.length :=
    Nat.le_antisymm (h.first _ _ h'.cut) (h'.first _ _ h.cut)
  have hcut := h.cut.symm.trans h'.cut
  rw [List.append_assoc, List.append_assoc] at hcut
  obtain ⟨rfl, hrest⟩ := List.append_inj hcut hlength
  exact ⟨rfl, List.append_cancel_left hrest⟩

/-- Where there is a cut, a search finds one that is no later. -/
theorem splitAtFirst?_of_cut (h : text = before ++ needle ++ after) :
    ∃ parts, splitAtFirst? needle text = some parts ∧ parts.1.length ≤ before.length := by
  induction text generalizing before with
  | nil =>
      obtain ⟨hleft, -⟩ := List.append_eq_nil_iff.mp h.symm
      obtain ⟨-, hneedle⟩ := List.append_eq_nil_iff.mp hleft
      exact ⟨([], []), if_pos hneedle, Nat.zero_le _⟩
  | cons c rest ih =>
      by_cases hfound : needle.isPrefixOf (c :: rest) = true
      · exact ⟨([], (c :: rest).drop needle.length), if_pos hfound, Nat.zero_le _⟩
      · cases before with
        | nil =>
            refine absurd (List.isPrefixOf_iff_prefix.mpr ?_) hfound
            rw [h]
            exact List.prefix_append _ _
        | cons d before =>
            obtain ⟨parts, hparts, hlength⟩ := ih (List.cons.inj h).2
            refine ⟨(c :: parts.1, parts.2), ?_, Nat.succ_le_succ hlength⟩
            rw [splitAtFirst?, if_neg hfound, hparts]
            rfl

/-- **THE FIRST CUT IS FOUND**. -/
theorem splitAtFirst?_eq_some_iff :
    splitAtFirst? needle text = some (before, after) ↔ IsFirstCut needle text before after := by
  have hfirst : ∀ {b a : List Char}, splitAtFirst? needle text = some (b, a) →
      IsFirstCut needle text b a := by
    intro b a h
    refine ⟨(append_of_splitAtFirst? h).symm, fun before' after' hcut => ?_⟩
    obtain ⟨parts, hparts, hlength⟩ := splitAtFirst?_of_cut hcut
    obtain rfl := Option.some.inj (h.symm.trans hparts)
    exact hlength
  constructor
  · exact hfirst
  · intro h
    obtain ⟨⟨b, a⟩, hparts, -⟩ := splitAtFirst?_of_cut h.cut
    obtain ⟨rfl, rfl⟩ := h.unique (hfirst hparts)
    exact hparts

/-- **NO CUT IS MISSED**. -/
theorem splitAtFirst?_eq_none_iff :
    splitAtFirst? needle text = none ↔ ¬ ∃ before after, text = before ++ needle ++ after := by
  constructor
  · rintro h ⟨before, after, hcut⟩
    obtain ⟨parts, hparts, -⟩ := splitAtFirst?_of_cut hcut
    exact nomatch h.symm.trans hparts
  · intro h
    cases hparts : splitAtFirst? needle text with
    | none => rfl
    | some parts => exact absurd ⟨_, _, (append_of_splitAtFirst? hparts).symm⟩ h

/-- A text starts with a needle if the first part of its first cut is empty. -/
theorem isPrefixOf_iff_splitAtFirst? :
    needle.isPrefixOf text = true ↔ ∃ after, splitAtFirst? needle text = some ([], after) := by
  rw [List.isPrefixOf_iff_prefix]
  constructor
  · rintro ⟨after, hafter⟩
    refine ⟨after, splitAtFirst?_eq_some_iff.mpr ⟨hafter.symm, fun _ _ _ => Nat.zero_le _⟩⟩
  · rintro ⟨after, h⟩
    exact ⟨after, append_of_splitAtFirst? h⟩

end Cuts

/-! ## Operands -/

theorem Term.simpleText_simple (text : String) : (Term.simple text).simpleText = .ok text := by
  rw [simpleText, simple, value, Literal.value_simple]

namespace StringValue

/-- A text is searched for a needle without a language tag, or with its own. -/
def Takes (s p : StringValue) : Prop := p.tag = none ∨ p.tag = s.tag

instance (s p : StringValue) : Decidable (s.Takes p) := inferInstanceAs (Decidable (_ ∨ _))

/-- The bytes of the text. -/
def bytes (s : StringValue) : List UInt8 := Utf8.bytes s.chars

theorem string_toTerm (s : StringValue) : s.toTerm.string = .ok s := by
  obtain ⟨text, _ | tag⟩ := s
  · show (Term.simple text).string = .ok ⟨text, none⟩
    rw [Term.string, Term.simple, Term.value, Literal.value_simple]
  · rfl

theorem chars_withChars (s : StringValue) (chars : List Char) : (s.withChars chars).chars = chars :=
  String.toList_ofList

end StringValue

/-- **STRINGS ARE SIMPLE OR TAGGED LITERALS**: a term gives a string exactly if it is the literal of
this string. -/
theorem Term.string_eq_ok_iff {t : Term} {s : StringValue} : t.string = .ok s ↔ t = s.toTerm := by
  constructor
  · intro h
    cases t with
    | iri _ | blank _ => cases h
    | literal l =>
        by_cases hother : l.value = .other l
        · rw [string, Term.value, hother] at h
          cases h
        · rcases Literal.decoded_cases hother with ⟨tag, htag⟩ | ⟨d, hiri, hparse⟩
          · have hvalue : l.value = .tagged l.lexical tag := by rw [Literal.value, htag]
            rw [string, Term.value, hvalue] at h
            obtain rfl := Except.ok.inj h
            obtain ⟨text, annotation⟩ := l
            obtain rfl : annotation = .language tag := htag
            rfl
          · cases d with
            | string =>
                rw [string, Term.value, ← Option.some.inj hparse] at h
                obtain rfl := Except.ok.inj h
                obtain ⟨text, annotation⟩ := l
                obtain rfl : annotation = .datatype Datatype.string.iri := hiri
                rfl
            | _ =>
                obtain ⟨w, -, hvalue⟩ := Option.map_eq_some_iff.mp hparse
                rw [string, Term.value, ← hvalue] at h
                cases h
  · rintro rfl
    exact s.string_toTerm

/-- Two strings are compatible by their tags alone. -/
theorem compatible_toTerm (s p : StringValue) :
    compatible s.toTerm p.toTerm =
      if s.Takes p then .ok (s, p) else typeError (.incompatibleTags s.tag p.tag) := by
  have htakes : (p.tag = none ∨ s.tag = p.tag) = s.Takes p := by
    rw [StringValue.Takes, eq_comm (a := s.tag)]
  unfold compatible
  rw [s.string_toTerm, p.string_toTerm]
  show (if p.tag = none ∨ s.tag = p.tag then _ else _) = _
  simp only [htakes]
  rfl

/-! ## Answers -/

/-- The functions that search a text. -/
def searchFunctions : List (Term → Term → EvalResult Term) :=
  [startsWith, endsWith, contains, textBefore, textAfter]

/-- An answer of each of the five functions. -/
structure SearchAnswers where
  starts : Bool
  ends : Bool
  occurs : Bool
  before : StringValue
  after : StringValue

namespace SearchAnswers

/-- The answers are those that the functions give. -/
structure AreGiven (r : SearchAnswers) (s p : StringValue) : Prop where
  starts : startsWith s.toTerm p.toTerm = .ok (Term.ofBool r.starts)
  ends : endsWith s.toTerm p.toTerm = .ok (Term.ofBool r.ends)
  occurs : contains s.toTerm p.toTerm = .ok (Term.ofBool r.occurs)
  before : textBefore s.toTerm p.toTerm = .ok r.before.toTerm
  after : textAfter s.toTerm p.toTerm = .ok r.after.toTerm

/-- The answers decompose the text: they are told by how the needle cuts it. -/
structure Decompose (r : SearchAnswers) (s p : StringValue) : Prop where
  occurs_iff : r.occurs = true ↔ ∃ before after, s.chars = before ++ p.chars ++ after
  around : r.occurs = true → r.before.tag = s.tag ∧ r.after.tag = s.tag ∧
    IsFirstCut p.chars s.chars r.before.chars r.after.chars
  absent : r.occurs = false → r.before = ⟨"", none⟩ ∧ r.after = ⟨"", none⟩
  starts_iff : r.starts = true ↔ r.occurs = true ∧ r.before.chars = []
  ends_iff : r.ends = true ↔ ∃ before, s.chars = before ++ p.chars

/-- A search over the bytes of both texts gives the same answers: what it finds are the bytes before
an offset and those after another one, and both lie within the text and between characters. -/
structure Slices (r : SearchAnswers) (s p : StringValue) : Prop where
  starts_iff : r.starts = true ↔ p.bytes <+: s.bytes
  ends_iff : r.ends = true ↔ p.bytes <:+ s.bytes
  occurs_iff : r.occurs = true ↔ ∃ start, Utf8.offset? p.bytes s.bytes = some start
  around : ∀ start, Utf8.offset? p.bytes s.bytes = some start →
    let finish := start + p.bytes.length
    Utf8.IsBoundary s.chars start ∧ Utf8.IsBoundary s.chars finish ∧ finish ≤ s.bytes.length ∧
      s.bytes.take start = r.before.bytes ∧ s.bytes.drop finish = r.after.bytes

/-- The answers that are read off the first cut. -/
def ofCut (s p : StringValue) : SearchAnswers where
  starts := p.chars.isPrefixOf s.chars
  ends := p.chars.isSuffixOf s.chars
  occurs := (splitAtFirst? p.chars s.chars).isSome
  before := (splitAtFirst? p.chars s.chars).elim ⟨"", none⟩ fun parts => s.withChars parts.1
  after := (splitAtFirst? p.chars s.chars).elim ⟨"", none⟩ fun parts => s.withChars parts.2

variable {s p : StringValue}

/-- A part around a needle is read off the first cut. -/
theorem partAround_eq (h : s.Takes p) (part : List Char × List Char → List Char) :
    partAround part s.toTerm p.toTerm =
      .ok ((splitAtFirst? p.chars s.chars).elim ⟨"", none⟩ fun parts =>
        s.withChars (part parts)).toTerm := by
  unfold partAround
  rw [compatible_toTerm, if_pos h]
  simp only [bind, Except.bind]
  cases splitAtFirst? p.chars s.chars <;> rfl

theorem areGiven_ofCut (h : s.Takes p) : (ofCut s p).AreGiven s p where
  starts := by
    rw [startsWith, compatible_toTerm, if_pos h]
    rfl
  ends := by
    rw [endsWith, compatible_toTerm, if_pos h]
    rfl
  occurs := by
    rw [contains, compatible_toTerm, if_pos h]
    rfl
  before := partAround_eq h Prod.fst
  after := partAround_eq h Prod.snd

/-- The parts of a cut are the answers to what stands before the needle and after it. -/
theorem ofCut_of_splitAtFirst? {before after : List Char}
    (h : splitAtFirst? p.chars s.chars = some (before, after)) :
    (ofCut s p).before = s.withChars before ∧ (ofCut s p).after = s.withChars after := by
  simp only [ofCut, h, Option.elim_some, and_self]

theorem decompose_ofCut (s p : StringValue) : (ofCut s p).Decompose s p where
  occurs_iff := by
    show (splitAtFirst? p.chars s.chars).isSome = true ↔ _
    rw [← Option.ne_none_iff_isSome, ne_eq, splitAtFirst?_eq_none_iff, not_not]
  around := by
    intro h
    obtain ⟨⟨before, after⟩, hcut⟩ := Option.isSome_iff_exists.mp h
    obtain ⟨hbefore, hafter⟩ := ofCut_of_splitAtFirst? hcut
    rw [hbefore, hafter]
    refine ⟨rfl, rfl, ?_⟩
    rw [StringValue.chars_withChars, StringValue.chars_withChars]
    exact splitAtFirst?_eq_some_iff.mp hcut
  absent := by
    intro h
    have hcut : splitAtFirst? p.chars s.chars = none :=
      Option.isNone_iff_eq_none.mp (Option.isSome_eq_false_iff.mp h)
    simp only [ofCut, hcut, Option.elim_none, and_self]
  starts_iff := by
    show p.chars.isPrefixOf s.chars = true ↔ (splitAtFirst? p.chars s.chars).isSome = true ∧ _
    rw [isPrefixOf_iff_splitAtFirst?]
    constructor
    · rintro ⟨after, hcut⟩
      obtain ⟨hbefore, -⟩ := ofCut_of_splitAtFirst? hcut
      rw [hcut, hbefore, StringValue.chars_withChars]
      exact ⟨rfl, rfl⟩
    · rintro ⟨hoccurs, hempty⟩
      obtain ⟨⟨before, after⟩, hcut⟩ := Option.isSome_iff_exists.mp hoccurs
      obtain ⟨hbefore, -⟩ := ofCut_of_splitAtFirst? hcut
      rw [hbefore, StringValue.chars_withChars] at hempty
      subst hempty
      exact ⟨after, hcut⟩
  ends_iff := by
    show p.chars.isSuffixOf s.chars = true ↔ _
    rw [List.isSuffixOf_iff_suffix]
    exact exists_congr fun before => eq_comm

theorem slices_ofCut (s p : StringValue) : (ofCut s p).Slices s p where
  starts_iff := List.isPrefixOf_iff_prefix.trans Utf8.bytes_prefix_iff.symm
  ends_iff := List.isSuffixOf_iff_suffix.trans Utf8.bytes_suffix_iff.symm
  occurs_iff := by
    show (splitAtFirst? p.chars s.chars).isSome = true ↔ ∃ start, Utf8.offset? _ _ = some start
    rw [StringValue.bytes, StringValue.bytes, Utf8.offset?_bytes, ← Option.isSome_iff_exists,
      Option.isSome_map]
  around := by
    intro start hstart finish
    rw [StringValue.bytes, StringValue.bytes, Utf8.offset?_bytes] at hstart
    obtain ⟨⟨before, after⟩, hcut, rfl⟩ := Option.map_eq_some_iff.mp hstart
    obtain ⟨hbefore, hafter⟩ := ofCut_of_splitAtFirst? hcut
    rw [hbefore, hafter, StringValue.bytes, StringValue.bytes, StringValue.bytes,
      StringValue.chars_withChars, StringValue.chars_withChars]
    exact Utf8.cuts_of_append (append_of_splitAtFirst? hcut)

end SearchAnswers

/-- **THE SEARCH FUNCTIONS AGREE**: all five give an answer, and their answers are told by the first
cut of the text, which a search over bytes finds between characters, or all five refuse the
language tag of the needle. -/
theorem search_decomposes (s p : StringValue) :
    (s.Takes p ∧ ∃ r : SearchAnswers, r.AreGiven s p ∧ r.Decompose s p ∧ r.Slices s p) ∨
      (¬ s.Takes p ∧ ∀ f ∈ searchFunctions,
        f s.toTerm p.toTerm = typeError (.incompatibleTags s.tag p.tag)) := by
  by_cases h : s.Takes p
  · exact Or.inl ⟨h, .ofCut s p, SearchAnswers.areGiven_ofCut h, SearchAnswers.decompose_ofCut s p,
      SearchAnswers.slices_ofCut s p⟩
  · refine Or.inr ⟨h, fun f hf => ?_⟩
    have hrefused := (compatible_toTerm s p).trans (if_neg h)
    simp only [searchFunctions, List.mem_cons, List.not_mem_nil, or_false] at hf
    rcases hf with rfl | rfl | rfl | rfl | rfl
    · rw [startsWith, hrefused]
      rfl
    · rw [endsWith, hrefused]
      rfl
    · rw [contains, hrefused]
      rfl
    · rw [textBefore, partAround, hrefused]
      rfl
    · rw [textAfter, partAround, hrefused]
      rfl

/-- Of two occurrences that overlap, behind a character of two bytes, the first one counts. -/
example : textAfter (.literal (.tagged "\u00e9ababa" "fr")) (.simple "aba") =
    .ok (.literal (.tagged "ba" "fr")) := by decide

end SparqlScalar
