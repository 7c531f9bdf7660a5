import SparqlScalar.Operator.Patterns
import SparqlScalar.Proofs.DigitLists

/-!
# What replacements stand for

    A replacement is a row of characters and groups.  How it is read is given here as a grammar, and
    the template that is filled in for a match says the same:

      reading   -- each replacement is read from left to right in exactly one way (`exists_reads`,
                   `Reads.unique`)
      template  -- a piece is written into the template such that what comes after it cannot run
                   into it: a group is closed by its brace, and each dollar sign that stands for
                   itself is doubled (`fill_char`, `fill_group`, `fill_dollar`)
      filling   -- so the template is filled in piece by piece (`Reads.fill_template`)
-/

namespace SparqlScalar.Pattern.Replacement

open Digits (AllDigits)

/-! ## Reading -/

/-- A part of a replacement: a character, or a group by its number. -/
inductive Piece where
  | char (c : Char)
  | group (index : Nat)
deriving DecidableEq, Repr

/-- What a piece gives, where the groups that took part in a match have a text. -/
def Piece.text (group? : Nat → Option (List Char)) : Piece → List Char
  | .char c => [c]
  | .group index => (group? index).getD []

/-- The pieces of a replacement, from left to right. A backslash before a dollar sign or a backslash
is passed over; a dollar sign takes all digits after it; every other character is itself. -/
inductive Reads : List Char → List Piece → Prop where
  | nil : Reads [] []
  | escaped {c : Char} {rest : List Char} {pieces : List Piece} (hc : c = '$' ∨ c = '\\')
      (h : Reads rest pieces) : Reads ('\\' :: c :: rest) (.char c :: pieces)
  | group {digits rest : List Char} {pieces : List Piece} (hne : digits ≠ [])
      (hdigits : AllDigits digits) (hrest : ∀ d ds, rest = d :: ds → d.isDigit = false)
      (h : Reads rest pieces) :
      Reads ('$' :: (digits ++ rest)) (.group (Digits.value digits) :: pieces)
  | other {c : Char} {rest : List Char} {pieces : List Piece}
      (hdollar : c = '$' → ∀ d ds, rest = d :: ds → d.isDigit = false)
      (hbackslash : c = '\\' → ∀ d ds, rest = d :: ds → d ≠ '$' ∧ d ≠ '\\')
      (h : Reads rest pieces) : Reads (c :: rest) (.char c :: pieces)

/-- The digits at the start of a text start it, so no text goes on with them and without. -/
theorem ne_append_digits {digits rest after : List Char} (hne : digits ≠ [])
    (hdigits : AllDigits digits) (hrest : ∀ d ds, rest = d :: ds → d.isDigit = false) :
    rest ≠ digits ++ after := by
  obtain ⟨d, ds, rfl⟩ := List.exists_cons_of_ne_nil hne
  intro h
  have hfalse := hrest d (ds ++ after) h
  rw [hdigits d List.mem_cons_self] at hfalse
  cases hfalse

/-- **A REPLACEMENT IS READ IN ONE WAY**. -/
theorem Reads.unique {replacement other : List Char} {pieces pieces' : List Piece}
    (h : Reads replacement pieces) (h' : Reads other pieces') (hsame : replacement = other) :
    pieces = pieces' := by
  induction h generalizing other pieces' with
  | nil =>
      cases h' with
      | nil => rfl
      | _ => cases hsame
  | escaped hc _ ih =>
      cases h' with
      | nil => cases hsame
      | escaped _ hrest =>
          obtain ⟨rfl, htail⟩ := List.cons.inj (List.cons.inj hsame).2
          rw [ih hrest htail]
      | group _ _ _ _ => exact absurd (List.cons.inj hsame).1 (by decide)
      | other _ hbackslash _ =>
          obtain ⟨hhead, hsame⟩ := List.cons.inj hsame
          obtain ⟨hdollar, hback⟩ := hbackslash hhead.symm _ _ hsame.symm
          exact absurd hc (not_or.mpr ⟨hdollar, hback⟩)
  | group hne hdigits hrest _ ih =>
      cases h' with
      | nil => cases hsame
      | escaped _ _ => exact absurd (List.cons.inj hsame).1 (by decide)
      | group _ hdigits' hrest' h' =>
          obtain ⟨-, hsame⟩ := List.cons.inj hsame
          obtain ⟨hleading, hafter⟩ := Digits.leading_append hdigits hrest
          obtain ⟨hleading', hafter'⟩ := Digits.leading_append hdigits' hrest'
          rw [hsame] at hleading hafter
          rw [← hleading, hleading', ih h' (hafter.symm.trans hafter')]
      | other hdollar _ _ =>
          obtain ⟨hhead, hsame⟩ := List.cons.inj hsame
          exact absurd hsame.symm (ne_append_digits hne hdigits (hdollar hhead.symm))
  | other hdollar hbackslash _ ih =>
      cases h' with
      | nil => cases hsame
      | escaped hc _ =>
          obtain ⟨hhead, hsame⟩ := List.cons.inj hsame
          obtain ⟨hne, hback⟩ := hbackslash hhead _ _ hsame
          exact absurd hc (not_or.mpr ⟨hne, hback⟩)
      | group hne hdigits _ _ =>
          obtain ⟨hhead, hsame⟩ := List.cons.inj hsame
          exact absurd hsame (ne_append_digits hne hdigits (hdollar hhead))
      | other _ _ h' =>
          obtain ⟨rfl, htail⟩ := List.cons.inj hsame
          rw [ih h' htail]

/-- What follows the digits at the start of a text does not start with one. -/
theorem head_afterLeading (text : List Char) :
    ∀ d ds, Digits.afterLeading text = d :: ds → d.isDigit = false := by
  intro d ds h
  have hhead := List.head?_dropWhile_not Char.isDigit text
  rw [show text.dropWhile Char.isDigit = d :: ds from h] at hhead
  exact hhead

/-- Every replacement can be read. -/
theorem exists_reads (replacement : List Char) : ∃ pieces, Reads replacement pieces := by
  induction hlength : replacement.length using Nat.strong_induction_on generalizing replacement with
  | _ length ih =>
      subst hlength
      cases replacement with
      | nil => exact ⟨[], .nil⟩
      | cons c rest =>
          obtain ⟨pieces, hpieces⟩ := ih rest.length (Nat.lt_succ_self _) rest rfl
          by_cases hdollar : c = '$'
          · subst hdollar
            by_cases hne : Digits.leading rest = []
            · refine ⟨_, .other (fun _ d ds hrest => ?_) (fun h => absurd h (by decide)) hpieces⟩
              have hall := Digits.leading_append_afterLeading rest
              rw [hne, List.nil_append] at hall
              exact head_afterLeading rest d ds (hall.trans hrest)
            · obtain ⟨pieces, hafter⟩ := ih (Digits.afterLeading rest).length
                (Nat.lt_succ_of_le (length_afterLeading_le rest)) _ rfl
              have hgroup := Reads.group hne (List.all_eq_true.mp List.all_takeWhile)
                (head_afterLeading rest) hafter
              rw [Digits.leading_append_afterLeading] at hgroup
              exact ⟨_, hgroup⟩
          · by_cases hescape : c = '\\' ∧ ∃ d ds, rest = d :: ds ∧ (d = '$' ∨ d = '\\')
            · obtain ⟨rfl, d, ds, rfl, hd⟩ := hescape
              have hshorter : ds.length < (d :: ds).length + 1 := by
                rw [List.length_cons]
                omega
              obtain ⟨pieces, hpieces⟩ := ih ds.length hshorter _ rfl
              exact ⟨_, .escaped hd hpieces⟩
            · refine ⟨_, .other (fun h => absurd h hdollar) (fun hc d ds hrest => ?_) hpieces⟩
              exact not_or.mp fun hd => hescape ⟨hc, d, ds, hrest, hd⟩

/-! ## Templates -/

section Filling

variable (group : Nat → List Char) (rest : List Char)

/-- A character but a dollar sign is kept. -/
theorem fill_char {c : Char} (h : c ≠ '$') : fill group (c :: rest) = c :: fill group rest := by
  rw [fill]
  · exact fun _ hc _ => h hc
  · exact fun _ hc _ => h hc

/-- Two dollar signs give one. -/
theorem fill_dollar : fill group ('$' :: '$' :: rest) = '$' :: fill group rest := by rw [fill]

/-- Digits in braces give the text of a group, whatever comes after them. -/
theorem fill_group {digits : List Char} (hne : digits ≠ []) (hdigits : AllDigits digits) :
    fill group ('$' :: '\x7b' :: (digits ++ '\x7d' :: rest)) =
      group (Digits.value digits) ++ fill group rest := by
  have hbrace : ∀ d ds, '\x7d' :: rest = d :: ds → d.isDigit = false := fun d ds h => by
    rw [← (List.cons.inj h).1]
    rfl
  obtain ⟨hleading, hafter⟩ := Digits.leading_append hdigits hbrace
  have hcloses : closesGroup (digits ++ '\x7d' :: rest) = true := by
    rw [closesGroup, hleading, hafter, List.isEmpty_eq_false_iff.mpr hne]
    rfl
  rw [fill, if_pos hcloses, hleading, hafter]
  rfl

end Filling

section Template

variable (rest : List Char)

theorem template_char {c : Char} (hdollar : c ≠ '$')
    (hbackslash : c = '\\' → ∀ d ds, rest = d :: ds → d ≠ '$' ∧ d ≠ '\\') :
    template (c :: rest) = c :: template rest := by
  rw [template]
  · exact fun ds hc hrest => (hbackslash hc _ ds hrest).1 rfl
  · exact fun ds hc hrest => (hbackslash hc _ ds hrest).2 rfl
  · exact hdollar

/-- A dollar sign without digits stands for itself. -/
theorem template_dollar (h : ∀ d ds, rest = d :: ds → d.isDigit = false) :
    template ('$' :: rest) = '$' :: '$' :: template rest := by
  have hnone : Digits.leading rest = [] := (Digits.leading_append (List.forall_mem_nil _) h).1
  rw [template, if_pos hnone]

theorem template_group {digits : List Char} (hne : digits ≠ []) (hdigits : AllDigits digits)
    (h : ∀ d ds, rest = d :: ds → d.isDigit = false) :
    template ('$' :: (digits ++ rest)) =
      '$' :: '\x7b' :: (digits ++ '\x7d' :: template rest) := by
  obtain ⟨hleading, hafter⟩ := Digits.leading_append hdigits h
  rw [template, hleading, hafter, if_neg hne, List.cons_append, List.cons_append]

end Template

/-- **TEMPLATES ARE FILLED IN PIECE BY PIECE**. -/
theorem Reads.fill_template {replacement : List Char} {pieces : List Piece}
    (h : Reads replacement pieces) (group? : Nat → Option (List Char)) :
    fill (fun n => (group? n).getD []) (template replacement) =
      pieces.flatMap (Piece.text group?) := by
  induction h with
  | nil => rw [template, fill, List.flatMap_nil]
  | escaped hc _ ih =>
      rw [List.flatMap_cons, ← ih]
      rcases hc with rfl | rfl
      · rw [template, fill_dollar]
        rfl
      · rw [template, fill_char _ _ (by decide)]
        rfl
  | group hne hdigits hrest _ ih =>
      rw [List.flatMap_cons, ← ih, template_group _ hne hdigits hrest, fill_group _ _ hne hdigits]
      rfl
  | @other c rest pieces hdollar hbackslash _ ih =>
      rw [List.flatMap_cons, ← ih]
      by_cases hc : c = '$'
      · subst hc
        rw [template_dollar rest (hdollar rfl), fill_dollar]
        rfl
      · rw [template_char rest hc hbackslash, fill_char _ _ hc]
        rfl

/-- **A REPLACEMENT MEANS ITS PIECES**: it is read in exactly one way, and the template that is made
of it gives the characters and the groups that were read, for all texts of groups and so for every
match. -/
theorem replacement_means_its_pieces (replacement : List Char) :
    ∃ pieces : List Piece, (∀ other, Reads replacement other ↔ other = pieces) ∧
      (∀ group? : Nat → Option (List Char),
        fill (fun n => (group? n).getD []) (template replacement) =
          pieces.flatMap (Piece.text group?)) ∧
      ∀ (text : List Char) (m : Match),
        apply replacement text m = pieces.flatMap (Piece.text (m.group? text)) := by
  obtain ⟨pieces, hpieces⟩ := exists_reads replacement
  refine ⟨pieces, fun other => ⟨fun h => h.unique hpieces rfl, ?_⟩, hpieces.fill_template,
    fun text m => hpieces.fill_template (m.group? text)⟩
  rintro rfl
  exact hpieces

/-- Doubled, a dollar sign before a group stays one, and a group that took no part leaves nothing
between its neighbours. -/
example : fill (fun n => if n = 1 then ['a'] else []) (template "$$1\\$1$22\x7d\\x$".toList) =
    "$a$1\x7d\\x$".toList := by
  decide +kernel

end SparqlScalar.Pattern.Replacement
