import Mathlib.Data.List.Basic
import SparqlScalar.Pattern.OfText

/-!
# Escaped patterns

    A text is escaped by a backslash before each of its characters that mean something in a pattern.
    Read as a pattern it stands for itself:

      characters -- an escaped character is read as the character, whether it has a backslash or
                    needs none (`Reading.finish?_escapeChar`)
      texts      -- so an escaped text is read character by character, but for the blanks that are
                    ignored, which no backslash saves (`Reading.finish?_escape`)
      trees      -- the tree that is read is the one of the text as a literal
                    (`Tree.ofText?_escape`)
-/

namespace SparqlScalar.Pattern

/-- The characters of a text that count, where blanks may be ignored. -/
def kept (ignoring : Bool) (text : List Char) : List Char :=
  text.filter fun c => !(ignoring && isBlankChar c)

/-- A text with blanks that are ignored loses them. -/
theorem kept_eq_self_iff {ignoring : Bool} {text : List Char} :
    kept ignoring text = text ↔ (ignoring = true → ∀ c ∈ text, isBlankChar c = false) := by
  rw [kept, List.filter_eq_self]
  cases ignoring with
  | false => exact iff_of_true (fun _ _ => rfl) nofun
  | true =>
      rw [imp_iff_right rfl]
      exact forall₂_congr fun c _ => by rw [Bool.true_and, Bool.not_eq_true']

/-! ## Characters -/

/-- No blank needs a backslash. -/
theorem not_isBlankChar_of_mem {c : Char} (h : c ∈ metaCharacters) : isBlankChar c = false := by
  have hall : metaCharacters.all (fun c => !isBlankChar c) = true := by decide
  exact (Bool.not_eq_true' _).mp (List.all_eq_true.mp hall c h)

/-- A backslash before a character that stands for itself is passed over. -/
theorem readEscape_of_standsForItself {ignoring : Bool} {c : Char} (rest : List Char)
    (h : standsForItself c = true) : readEscape ignoring (c :: rest) = some (.plain c, rest) := by
  unfold readEscape
  dsimp only
  split <;> first | exact absurd h (by decide) | exact if_pos h

theorem skip_cons {ignoring : Bool} {c : Char} (rest : List Char) (hmark : c ≠ '#')
    (hblank : (ignoring && isBlankChar c) = false) : skip ignoring (c :: rest) = c :: rest := by
  cases ignoring with
  | false => rfl
  | true =>
      rw [Bool.true_and] at hblank
      rw [skip, if_pos rfl, afterBlank, if_neg Bool.false_ne_true, if_neg hmark, hblank,
        if_neg Bool.false_ne_true]

/-- A blank that is ignored is passed over with those after it. -/
theorem skip_blank {c : Char} (rest : List Char) (h : isBlankChar c = true) :
    skip true (c :: rest) = skip true rest := by
  have hmark : c ≠ '#' := by
    rintro rfl
    exact absurd h (by decide)
  rw [skip, if_pos rfl, afterBlank, if_neg Bool.false_ne_true, if_neg hmark, if_pos h]
  rfl

namespace Reading

variable {r : Reading}

/-- A character without a meaning of its own is read as it is. -/
theorem step_of_not_mem {c : Char} (rest : List Char) (h : c ∉ metaCharacters) :
    r.step c rest = some (r.add (.char ⟨c, false⟩), rest) := by
  unfold step
  split <;> first | exact absurd (by decide) h | rfl

/-- **AN ESCAPED CHARACTER STANDS FOR ITSELF**, if it is no blank that is ignored. -/
theorem finish?_escapeChar {steps : Nat} {c : Char} (rest : List Char)
    (h : (r.ignoring && isBlankChar c) = false) :
    finish? (steps + 1) r (escapeChar c ++ rest) =
      finish? steps (r.add (.char ⟨c, false⟩)) rest := by
  unfold escapeChar
  split
  case isTrue hmeta =>
    have hall : metaCharacters.all standsForItself = true := by decide
    have hstands : standsForItself c = true := List.all_eq_true.mp hall c hmeta
    have hstep : r.step '\\' (c :: rest) = some (r.add (.char ⟨c, false⟩), rest) := by
      show (readEscape r.ignoring (c :: rest)).map _ = _
      rw [readEscape_of_standsForItself rest hstands]
      rfl
    have hskip : skip r.ignoring ('\\' :: c :: rest) = '\\' :: c :: rest :=
      skip_cons _ (by decide) (by rw [show isBlankChar '\\' = false by decide, Bool.and_false])
    show finish? (steps + 1) r ('\\' :: c :: rest) = _
    rw [finish?, hskip]
    dsimp only
    rw [hstep]
  case isFalse hplain =>
    have hmark : c ≠ '#' := by
      rintro rfl
      exact hplain (by decide)
    show finish? (steps + 1) r (c :: rest) = _
    rw [finish?, skip_cons rest hmark h]
    dsimp only
    rw [step_of_not_mem rest hplain]

/-! ## Texts -/

/-- The same with a text more, character by character. -/
def addText (r : Reading) (text : List Char) : Reading :=
  text.foldl (fun r c => r.add (.char ⟨c, false⟩)) r

/-- **AN ESCAPED TEXT STANDS FOR ITSELF**, but for the blanks that are ignored. -/
theorem finish?_escape {steps : Nat} (text : List Char) (hgroups : r.groups = [])
    (hsteps : (escape text).length < steps) :
    finish? steps r (escape text) = some (r.addText (kept r.ignoring text)).level.tree := by
  induction text generalizing steps r with
  | nil =>
      cases steps with
      | zero => exact absurd hsteps (Nat.not_lt_zero _)
      | succ steps =>
          have hskip : skip r.ignoring [] = [] := by
            cases r.ignoring <;> rfl
          show finish? (steps + 1) r [] = _
          rw [finish?, hskip]
          dsimp only
          rw [hgroups]
          rfl
  | cons c rest ih =>
      have hescape : escape (c :: rest) = escapeChar c ++ escape rest := List.flatMap_cons
      rw [hescape, List.length_append] at hsteps
      rw [hescape]
      by_cases hblank : (r.ignoring && isBlankChar c) = true
      · obtain ⟨hignoring, hc⟩ := Bool.and_eq_true_iff.mp hblank
        have hplain : c ∉ metaCharacters := fun hmeta =>
          Bool.false_ne_true ((not_isBlankChar_of_mem hmeta).symm.trans hc)
        have hsame : ∀ steps, finish? steps r (escapeChar c ++ escape rest) =
            finish? steps r (escape rest) := fun steps => by
          rw [escapeChar, if_neg hplain]
          cases steps with
          | zero => rfl
          | succ steps =>
              rw [List.singleton_append, finish?, finish?, hignoring, skip_blank _ hc]
        have hkept : kept r.ignoring (c :: rest) = kept r.ignoring rest :=
          List.filter_cons_of_neg (by rw [hblank]; decide)
        rw [hsame, hkept]
        exact ih hgroups (by omega)
      · rw [Bool.not_eq_true] at hblank
        have hpositive : 0 < (escapeChar c).length := by
          unfold escapeChar
          split
          · exact Nat.two_pos
          · exact Nat.one_pos
        obtain ⟨steps, rfl⟩ := Nat.exists_eq_succ_of_ne_zero (show steps ≠ 0 by omega)
        have hkept : kept r.ignoring (c :: rest) = c :: kept r.ignoring rest :=
          List.filter_cons_of_pos (by rw [hblank]; rfl)
        rw [finish?_escapeChar _ hblank, hkept]
        exact ih (r := r.add (.char ⟨c, false⟩)) hgroups (by omega)

theorem items_addText (text : List Char) :
    (r.addText text).level =
      { r.level with
        items := (text.map fun c => .char ⟨c, false⟩).reverse ++ r.level.items } := by
  induction text generalizing r with
  | nil => rfl
  | cons c rest ih =>
      show ((r.add (.char ⟨c, false⟩)).addText rest).level = _
      rw [ih, List.map_cons, List.reverse_cons, List.append_assoc]
      rfl

end Reading

/-! ## Trees -/

theorem depth_ofLiteral_le (ignoring : Bool) (text : List Char) :
    (Tree.ofLiteral ignoring text).depth ≤ 1 := by
  have hflat : ∀ chars : List Char,
      Tree.depthOfAll (chars.map fun c => .char ⟨c, false⟩) = 0 := fun chars => by
    induction chars with
    | nil => rfl
    | cons c rest ih =>
        rw [List.map_cons, Tree.depthOfAll, ih]
        rfl
  unfold Tree.ofLiteral Tree.ofItems
  generalize text.filter _ = chars
  cases chars with
  | nil => exact Nat.zero_le 1
  | cons c rest =>
      cases rest with
      | nil => exact Nat.zero_le 1
      | cons d rest =>
          show (Tree.seq ((c :: d :: rest).map fun c => .char ⟨c, false⟩)).depth ≤ 1
          rw [Tree.depth, hflat]
          exact Nat.le_refl 1

/-- **ESCAPING MAKES A LITERAL**: the pattern that an escaped text is, is the text as a literal. -/
theorem Tree.ofText?_escape (ignoring : Bool) (text : List Char) :
    Tree.ofText? ignoring (escape text) = some (Tree.ofLiteral ignoring text) := by
  have hread := Reading.finish?_escape (r := ⟨.start, [], ignoring, []⟩) text rfl
    (Nat.lt_succ_self _)
  have htree : (Reading.addText ⟨.start, [], ignoring, []⟩ (kept ignoring text)).level.tree =
      Tree.ofLiteral ignoring text := by
    rw [Reading.items_addText]
    show Tree.ofItems ((List.reverse _ ++ []).reverse) =
      Tree.ofItems (List.map _ (kept ignoring text))
    rw [List.append_nil, List.reverse_reverse]
  rw [htree] at hread
  rw [ofText?, hread]
  exact if_pos (Nat.le_trans (depth_ofLiteral_le ignoring text) (by decide))

end SparqlScalar.Pattern
