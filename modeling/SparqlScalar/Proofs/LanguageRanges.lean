import SparqlScalar.Proofs.CastTexts
import SparqlScalar.Proofs.Occurrences

/-!
# Language ranges

    A tag lies in a range if its first subtags are, one by one, those of the range, and an asterisk in
    the range stands for any subtag.  Tags are ranges too, so that the operator compares texts of one
    kind with each other:

      subtags -- a subtag covers itself, and it covers what is covered by a subtag that it covers,
                 asterisks included (`Covers.trans`)
      lists   -- so the lists of subtags are ordered as lists are by their prefixes
                 (`subtagsMatch_refl`, `subtagsMatch_trans`), and a longer tag stays where it was
                 (`subtagsMatch_append`)
      texts   -- letters in another case and blanks around a text are no marks, so that a variant
                 of a text gets the same answer (`languageMatches_variants`)
-/

namespace SparqlScalar

/-! ## Letters -/

section Letters

variable {c : Char}

/-- A letter in upper case moves by 32 places, and nothing else changes. -/
theorem toLower_eq_or (c : Char) :
    c.toLower = c ∨ (65 ≤ c.toNat ∧ c.toNat ≤ 90) ∧ c.toLower.toNat = c.toNat + 32 := by
  by_cases h : c.val ≥ 'A'.val ∧ c.val ≤ 'Z'.val
  · have hrange : 65 ≤ c.toNat ∧ c.toNat ≤ 90 := h
    have hlower : c.toLower = ⟨c.val + 32, _⟩ := dif_pos h
    have hfits : c.toNat + 32 < 2 ^ 32 := by omega
    refine Or.inr ⟨hrange, ?_⟩
    rw [hlower]
    show (c.val + 32).toNat = c.toNat + 32
    rw [UInt32.toNat_add]
    exact Nat.mod_eq_of_lt hfits
  · exact Or.inl (dif_neg h)

theorem toLower_toLower (c : Char) : c.toLower.toLower = c.toLower := by
  rcases toLower_eq_or c with heq | ⟨hrange, hcode⟩
  · rw [heq, heq]
  · -- a letter in lower case is not between the ones in upper case
    rcases toLower_eq_or c.toLower with hsame | ⟨hupper, -⟩
    · exact hsame
    · omega

/-- A mark that stands before the letters is no letter in another case. -/
theorem toLower_eq_iff {mark : Char} (h : mark.toNat < 65) : c.toLower = mark ↔ c = mark := by
  rcases toLower_eq_or c with heq | ⟨hrange, hcode⟩
  · rw [heq]
  · constructor
    · rintro rfl
      omega
    · rintro rfl
      omega

/-- A letter is not blank in either case. -/
theorem isBlankChar_toLower (c : Char) : isBlankChar c.toLower = isBlankChar c := by
  rcases toLower_eq_or c with heq | ⟨hrange, hcode⟩
  · rw [heq]
  · rw [Bool.eq_iff_iff]
    simp only [isBlankChar, hcode, Bool.or_eq_true, Bool.and_eq_true, decide_eq_true_eq, beq_iff_eq]
    omega

end Letters

/-! ## Subtags -/

/-- Whether a subtag of a range stands for a subtag. -/
def Covers (range subtag : List Char) : Prop :=
  range = ['*'] ∨ range.map Char.toLower = subtag.map Char.toLower

theorem Covers.refl (subtag : List Char) : Covers subtag subtag := Or.inr rfl

/-- Only an asterisk is an asterisk in lower case. -/
theorem map_toLower_eq_asterisk {subtag : List Char} :
    subtag.map Char.toLower = ['*'] ↔ subtag = ['*'] := by
  rw [List.map_eq_singleton_iff]
  constructor
  · rintro ⟨c, rfl, hc⟩
    rw [(toLower_eq_iff (by decide)).mp hc]
  · rintro rfl
    exact ⟨'*', rfl, rfl⟩

/-- **COVERING** is transitive: what covers an asterisk is an asterisk. -/
theorem Covers.trans {wide range subtag : List Char} (h : Covers wide range)
    (h' : Covers range subtag) : Covers wide subtag := by
  rcases h with hwide | hwide
  · exact Or.inl hwide
  · rcases h' with rfl | hrange
    · exact Or.inl (map_toLower_eq_asterisk.mp hwide)
    · exact Or.inr (hwide.trans hrange)

/-- The case of letters does not count. -/
theorem covers_map_toLower {range subtag : List Char} :
    Covers (range.map Char.toLower) (subtag.map Char.toLower) ↔ Covers range subtag := by
  have hidem : ∀ text : List Char,
      (text.map Char.toLower).map Char.toLower = text.map Char.toLower := by
    intro text
    rw [List.map_map]
    exact List.map_congr_left fun c _ => toLower_toLower c
  rw [Covers, Covers, map_toLower_eq_asterisk, hidem, hidem]

/-! ## Lists of subtags -/

section Lists

variable {wide ranges subtags : List (List Char)} {range subtag : List Char}

theorem subtagsMatch_cons_cons :
    subtagsMatch (range :: ranges) (subtag :: subtags) = true ↔
      Covers range subtag ∧ subtagsMatch ranges subtags = true := by
  rw [subtagsMatch, Bool.and_eq_true, Bool.or_eq_true, beq_iff_eq, beq_iff_eq, Covers]

theorem subtagsMatch_refl (subtags : List (List Char)) : subtagsMatch subtags subtags = true := by
  induction subtags with
  | nil => rfl
  | cons subtag subtags ih => exact subtagsMatch_cons_cons.mpr ⟨.refl subtag, ih⟩

/-- **RANGES OF RANGES**: what a range covers, a wider one does. -/
theorem subtagsMatch_trans (hwide : subtagsMatch wide ranges = true)
    (h : subtagsMatch ranges subtags = true) : subtagsMatch wide subtags = true := by
  induction wide generalizing ranges subtags with
  | nil => rfl
  | cons first wide ih =>
      cases ranges with
      | nil => exact nomatch hwide
      | cons range ranges =>
          cases subtags with
          | nil => exact nomatch h
          | cons subtag subtags =>
              obtain ⟨hfirst, hwide⟩ := subtagsMatch_cons_cons.mp hwide
              obtain ⟨hrange, h⟩ := subtagsMatch_cons_cons.mp h
              exact subtagsMatch_cons_cons.mpr ⟨hfirst.trans hrange, ih hwide h⟩

/-- **LONGER TAGS**: subtags after those that are there make no difference. -/
theorem subtagsMatch_append (h : subtagsMatch ranges subtags = true)
    (further : List (List Char)) : subtagsMatch ranges (subtags ++ further) = true := by
  induction ranges generalizing subtags with
  | nil => rfl
  | cons range ranges ih =>
      cases subtags with
      | nil => exact nomatch h
      | cons subtag subtags =>
          obtain ⟨hrange, h⟩ := subtagsMatch_cons_cons.mp h
          exact subtagsMatch_cons_cons.mpr ⟨hrange, ih h⟩

theorem subtagsMatch_map_toLower (ranges subtags : List (List Char)) :
    subtagsMatch (ranges.map (List.map Char.toLower)) (subtags.map (List.map Char.toLower)) =
      subtagsMatch ranges subtags := by
  induction ranges generalizing subtags with
  | nil => rfl
  | cons range ranges ih =>
      cases subtags with
      | nil => rfl
      | cons subtag subtags =>
          rw [Bool.eq_iff_iff, List.map_cons, List.map_cons, subtagsMatch_cons_cons,
            subtagsMatch_cons_cons, covers_map_toLower, ih]

end Lists

/-! ## Texts -/

section Texts

variable {text : List Char}

/-- The parts between marks are those of the library's split. -/
theorem splitOnMark_eq_splitOn (mark : Char) (text : List Char) :
    splitOnMark mark text = text.splitOn mark := by
  induction text with
  | nil => rw [splitOnMark, List.splitOn_nil]
  | cons c rest ih =>
      rw [splitOnMark, ih, List.splitOn_cons_eq_if_modifyHead]
      by_cases hc : c = mark
      · rw [if_pos hc, if_pos (beq_iff_eq.mpr hc)]
      · rw [if_neg hc, if_neg fun heq => hc (beq_iff_eq.mp heq)]
        cases hparts : rest.splitOn mark with
        | nil => exact absurd hparts (List.splitOn_ne_nil mark rest)
        | cons first others => rfl

theorem splitOnMark_ne_nil (mark : Char) (text : List Char) : splitOnMark mark text ≠ [] := by
  rw [splitOnMark_eq_splitOn]
  exact List.splitOn_ne_nil mark text

/-- Letters are no marks in either case. -/
theorem splitOnMark_map_toLower (text : List Char) :
    splitOnMark '-' (text.map Char.toLower) =
      (splitOnMark '-' text).map (List.map Char.toLower) := by
  induction text with
  | nil => rfl
  | cons c rest ih =>
      have hmark : c.toLower = '-' ↔ c = '-' := toLower_eq_iff (by decide)
      rw [List.map_cons, splitOnMark, splitOnMark, ih]
      by_cases hc : c = '-'
      · rw [if_pos hc, if_pos (hmark.mpr hc), List.map_cons, List.map_nil]
      · rw [if_neg hc, if_neg fun heq => hc (hmark.mp heq)]
        cases splitOnMark '-' rest <;> rfl

/-- Letters are not blank in either case. -/
theorem trimBlank_map_toLower (text : List Char) :
    trimBlank (text.map Char.toLower) = (trimBlank text).map Char.toLower := by
  have hblank : isBlankChar ∘ Char.toLower = isBlankChar := funext isBlankChar_toLower
  rw [trimBlank, List.dropWhile_map, ← List.map_reverse, List.dropWhile_map, hblank,
    ← List.map_reverse, trimBlank]

/-- Blanks around a text are not in its core. -/
theorem trimBlank_append {before after : List Char} (hbefore : ∀ c ∈ before, isBlankChar c = true)
    (hafter : ∀ c ∈ after, isBlankChar c = true) :
    trimBlank (before ++ text ++ after) = trimBlank text := by
  -- the core of the text is the one of the longer text, with more blanks on both sides
  have hcore := isCore_trimBlank text
  obtain ⟨left, right, htext, hleft, hright⟩ := hcore.cut
  refine (isCore_iff_trimBlank.mp ⟨⟨before ++ left, right ++ after, ?_, ?_, ?_⟩, hcore.first,
    hcore.last⟩).symm
  · conv_lhs => rw [htext]
    simp only [List.append_assoc]
  · exact List.forall_mem_append.mpr ⟨hbefore, hleft⟩
  · exact List.forall_mem_append.mpr ⟨hright, hafter⟩

end Texts

/-! ## Tags and ranges -/

/-- Whether a tag lies in a range, as the operator has it. -/
def InRange (tag range : String) : Prop :=
  languageMatches (.simple tag) (.simple range) = .ok (Term.ofBool true)

instance (tag range : String) : Decidable (InRange tag range) :=
  inferInstanceAs (Decidable (_ = _))

/-- A tag or a range: a text that is not empty and has no blanks around it. -/
structure Trimmed where
  text : String
  nonempty : text ≠ ""
  isCore : IsCore text.toList text.toList

/-- Whether a text differs from another one only in the case of ASCII letters and in the blanks
around it. -/
def IsVariant (text other : String) : Prop :=
  ∃ before core after, other.toList = before ++ core ++ after ∧
    (∀ c ∈ before, isBlankChar c = true) ∧ (∀ c ∈ after, isBlankChar c = true) ∧
      core.map Char.toLower = text.toList.map Char.toLower

/-- Whether the core of a tag lies in that of a range. -/
def coreMatches (tag range : List Char) : Bool :=
  !tag.isEmpty && subtagsMatch (splitOnMark '-' range) (splitOnMark '-' tag)

theorem coreMatches_map_toLower (tag range : List Char) :
    coreMatches (tag.map Char.toLower) (range.map Char.toLower) = coreMatches tag range := by
  rw [coreMatches, splitOnMark_map_toLower, splitOnMark_map_toLower, subtagsMatch_map_toLower,
    List.isEmpty_map, coreMatches]

section Ranges

variable {tag tag' range range' wide : String}

theorem languageMatches_simple (tag range : String) :
    languageMatches (.simple tag) (.simple range) =
      .ok (Term.ofBool (coreMatches (trimBlank tag.toList) (trimBlank range.toList))) := by
  rw [languageMatches, Term.simpleText_simple, Term.simpleText_simple]
  rfl

theorem inRange_iff : InRange tag range ↔ trimBlank tag.toList ≠ [] ∧
    subtagsMatch (splitOnMark '-' (trimBlank range.toList))
      (splitOnMark '-' (trimBlank tag.toList)) = true := by
  have hofBool : ∀ b : Bool, Term.ofBool b = Term.ofBool true ↔ b = true := by decide
  rw [InRange, languageMatches_simple, Except.ok.injEq, hofBool, coreMatches, Bool.and_eq_true,
    Bool.not_eq_true', List.isEmpty_eq_false_iff]

/-- **WIDER RANGES**: a tag lies in every range that a range of it lies in. -/
theorem InRange.trans (h : InRange tag range) (hwide : InRange range wide) : InRange tag wide := by
  obtain ⟨htag, hsubtags⟩ := inRange_iff.mp h
  obtain ⟨-, hranges⟩ := inRange_iff.mp hwide
  exact inRange_iff.mpr ⟨htag, subtagsMatch_trans hranges hsubtags⟩

/-- The core of a variant has the same letters. -/
theorem IsVariant.map_toLower (h : IsVariant tag tag') :
    (trimBlank tag'.toList).map Char.toLower = (trimBlank tag.toList).map Char.toLower := by
  obtain ⟨before, core, after, hcut, hbefore, hafter, hcore⟩ := h
  rw [hcut, trimBlank_append hbefore hafter, ← trimBlank_map_toLower, hcore,
    trimBlank_map_toLower]

/-- **VARIANTS** of a tag and a range get the answer that the tag and the range get. -/
theorem languageMatches_variants (htag : IsVariant tag tag') (hrange : IsVariant range range') :
    languageMatches (.simple tag') (.simple range') =
      languageMatches (.simple tag) (.simple range) := by
  rw [languageMatches_simple, ← coreMatches_map_toLower, htag.map_toLower, hrange.map_toLower,
    coreMatches_map_toLower, ← languageMatches_simple]

namespace Trimmed

theorem toList_ne_nil (t : Trimmed) : t.text.toList ≠ [] := fun h =>
  t.nonempty (String.toList_eq_nil_iff.mp h)

theorem trimBlank_eq (t : Trimmed) : trimBlank t.text.toList = t.text.toList :=
  (isCore_iff_trimBlank.mp t.isCore).symm

theorem inRange_iff (t : Trimmed) : InRange t.text range ↔
    subtagsMatch (splitOnMark '-' (trimBlank range.toList)) (splitOnMark '-' t.text.toList) =
      true := by
  rw [SparqlScalar.inRange_iff, t.trimBlank_eq, and_iff_right t.toList_ne_nil]

/-- What stands after a mark may lose blanks at its end, but the mark stays. -/
theorem exists_trimBlank_append (t : Trimmed) (further : String) :
    ∃ rest, trimBlank (t.text ++ "-" ++ further).toList = t.text.toList ++ '-' :: rest := by
  have hcut := List.rdropWhile_append_rtakeWhile (p := isBlankChar) (l := further.toList)
  have hlast := List.rdropWhile_last_not isBlankChar further.toList
  generalize List.rdropWhile isBlankChar further.toList = rest at hcut hlast
  refine ⟨rest, (isCore_iff_trimBlank.mp ⟨⟨[], further.toList.rtakeWhile isBlankChar, ?_,
    List.forall_mem_nil _, fun c hc => List.mem_rtakeWhile_imp hc⟩, ?_, ?_⟩).symm⟩
  · rw [String.toList_append, String.toList_append, List.nil_append]
    conv_lhs => rw [← hcut]
    simp
  · intro hne
    rw [List.head_append_left t.toList_ne_nil]
    exact t.isCore.first t.toList_ne_nil
  · -- the last character is the mark itself if only blanks follow it
    intro hne
    rw [List.getLast_append_right (List.cons_ne_nil _ _)]
    cases rest with
    | nil => decide
    | cons c rest =>
        rw [List.getLast_cons (List.cons_ne_nil c rest)]
        exact hlast (List.cons_ne_nil c rest)

/-- **LONGER TAGS** lie in the ranges that a tag lies in. -/
theorem inRange_append (t : Trimmed) (h : InRange t.text range) (further : String) :
    InRange (t.text ++ "-" ++ further) range := by
  obtain ⟨rest, hrest⟩ := t.exists_trimBlank_append further
  rw [SparqlScalar.inRange_iff, hrest, splitOnMark_eq_splitOn _ (_ ++ _),
    List.splitOn_append_cons_self, ← splitOnMark_eq_splitOn]
  exact ⟨List.append_ne_nil_of_left_ne_nil t.toList_ne_nil _,
    subtagsMatch_append (t.inRange_iff.mp h) _⟩

end Trimmed

end Ranges

/-- **LANGUAGE RANGES** are ordered by their prefixes: each tag lies in itself as a range, a tag
lies in what a range of it lies in, a longer tag lies in the ranges of a shorter one, and all tags
lie in the range of an asterisk.  Neither the case of letters nor blanks around a text make a
difference, and a text of blanks lies in no range. -/
theorem languageMatches_preorder :
    (∀ t : Trimmed, InRange t.text t.text) ∧
      (∀ t r q : Trimmed, InRange t.text r.text → InRange r.text q.text → InRange t.text q.text) ∧
      (∀ t r : Trimmed, InRange t.text r.text →
        ∀ further : String, InRange (t.text ++ "-" ++ further) r.text) ∧
      (∀ t : Trimmed, InRange t.text "*") ∧
      (∀ tag tag' range range' : String, IsVariant tag tag' → IsVariant range range' →
        languageMatches (.simple tag') (.simple range') =
          languageMatches (.simple tag) (.simple range)) ∧
      ∀ tag range : String, (∀ c ∈ tag.toList, isBlankChar c = true) →
        languageMatches (.simple tag) (.simple range) = .ok (Term.ofBool false) := by
  refine ⟨fun t => ?_, fun t r q => InRange.trans, fun t r => t.inRange_append, fun t => ?_,
    fun _ _ _ _ => languageMatches_variants, fun tag range hblank => ?_⟩
  · rw [t.inRange_iff, t.trimBlank_eq]
    exact subtagsMatch_refl _
  · rw [t.inRange_iff]
    cases hparts : splitOnMark '-' t.text.toList with
    | nil => exact absurd hparts (splitOnMark_ne_nil '-' _)
    | cons subtag subtags => rfl
  · have hcore : trimBlank (tag.toList ++ [] ++ []) = [] :=
      trimBlank_append hblank (List.forall_mem_nil _)
    rw [List.append_nil, List.append_nil] at hcore
    rw [languageMatches_simple, hcore]
    rfl

/-- A tag in a range with an asterisk, which has a wider one; the tag with an empty subtag after it,
in another case and between blanks; and a blank. -/
theorem languageMatches_preorder_asterisks :
    InRange "de-CH-1996" "DE-*" ∧ InRange "DE-*" "*-*" ∧ InRange "de-CH-1996" "*-*" ∧
      InRange "de-CH-1996-" "DE-*" ∧
      (IsVariant "de-CH-1996" " DE-ch-1996" ∧ IsVariant "DE-*" "de-*\t" ∧
        InRange " DE-ch-1996" "de-*\t") ∧
      ¬ InRange " " "*" := by
  obtain ⟨-, htrans, happend, -, hvariants, hblank⟩ := languageMatches_preorder
  let t : Trimmed := ⟨"de-CH-1996", by decide, isCore_iff_trimBlank.mpr (by decide)⟩
  let r : Trimmed := ⟨"DE-*", by decide, isCore_iff_trimBlank.mpr (by decide)⟩
  let q : Trimmed := ⟨"*-*", by decide, isCore_iff_trimBlank.mpr (by decide)⟩
  have ht : InRange t.text r.text := by decide
  have hr : InRange r.text q.text := by decide
  have htag : IsVariant t.text " DE-ch-1996" :=
    ⟨[' '], "DE-ch-1996".toList, [], by decide, List.forall_mem_singleton.mpr (by decide),
      List.forall_mem_nil _, by decide⟩
  have hrange : IsVariant r.text "de-*\t" :=
    ⟨[], "de-*".toList, ['\t'], by decide, List.forall_mem_nil _,
      List.forall_mem_singleton.mpr (by decide), by decide⟩
  have hnone := hblank " " "*" (List.forall_mem_singleton.mpr (by decide))
  refine ⟨ht, hr, htrans t r q ht hr, happend t r ht "",
    ⟨htag, hrange, (hvariants _ _ _ _ htag hrange).trans ht⟩, fun h => ?_⟩
  exact absurd (h.symm.trans hnone) (by decide)

/-- An empty subtag is covered by an empty one and by an asterisk, and by no other. -/
example : InRange "de--CH" "de-" ∧ InRange "de--CH" "*-*-ch" ∧ ¬ InRange "de--CH" "de-CH" := by
  decide

end SparqlScalar
