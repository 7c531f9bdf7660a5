import SparqlScalar.Text.Split
import SparqlScalar.Text.Utf8

/-!
# Searching a text byte by byte

    A search over bytes knows nothing of characters: it goes from one byte to the next, and what it
    finds is an offset in bytes, at which the text is then cut.  It still finds what a search over
    characters finds, as the first byte of a character stands nowhere else in a character:

      reading     -- the bytes of a text tell it, and so do bytes that start with them
                     (`Utf8.bytes_prefix_iff`)
      boundaries  -- a first byte stands between two characters (`Utf8.isBoundary_of_firstByte`), so
                     a needle that is found by its bytes is found between characters
                     (`Utf8.bytes_suffix_iff`)
      search      -- the first match of bytes is that of characters (`Utf8.offset?_bytes`)
      cuts        -- and both cuts, before the match and after it, are made between characters
                     (`Utf8.cuts_of_append`)
-/

namespace SparqlScalar.Utf8

variable {text needle : List Char}

/-! ## Reading -/

theorem bytes_cons (c : Char) (text : List Char) :
    bytes (c :: text) = String.utf8EncodeChar c ++ bytes text := List.flatMap_cons

theorem bytes_append (left right : List Char) : bytes (left ++ right) = bytes left ++ bytes right :=
  List.flatMap_append

/-- Bytes that start with a character tell it. -/
theorem encodeChar_append_inj {c d : Char} {r s : List UInt8}
    (h : String.utf8EncodeChar c ++ r = String.utf8EncodeChar d ++ s) : c = d ∧ r = s := by
  have hread := congrArg (fun l => ByteArray.utf8DecodeChar? l.toByteArray 0) h
  simp only [List.toByteArray_append, ByteArray.utf8DecodeChar?_utf8EncodeChar_append] at hread
  obtain rfl := Option.some.inj hread
  exact ⟨rfl, List.append_cancel_left h⟩

/-- **BYTES TELL THE TEXT**: the bytes of one text start with those of another only if the text
starts with the other. -/
theorem bytes_prefix_iff : bytes needle <+: bytes text ↔ needle <+: text := by
  constructor
  · intro h
    induction needle generalizing text with
    | nil => exact List.nil_prefix
    | cons c needle ih =>
        obtain ⟨tail, htail⟩ := h
        rw [bytes_cons, List.append_assoc] at htail
        cases text with
        | nil => exact absurd (List.append_eq_nil_iff.mp htail).1 String.utf8EncodeChar_ne_nil
        | cons d text =>
            rw [bytes_cons] at htail
            obtain ⟨rfl, hrest⟩ := encodeChar_append_inj htail
            exact List.cons_prefix_cons.mpr ⟨rfl, ih ⟨tail, hrest⟩⟩
  · rintro ⟨tail, rfl⟩
    rw [bytes_append]
    exact List.prefix_append _ _

theorem bytes_inj {left right : List Char} (h : bytes left = bytes right) : left = right := by
  have hleft : left <+: right := bytes_prefix_iff.mp (h ▸ List.prefix_refl _)
  have hright : right <+: left := bytes_prefix_iff.mp (h ▸ List.prefix_refl _)
  exact hleft.eq_of_length (Nat.le_antisymm hleft.length_le hright.length_le)

/-! ## Boundaries -/

/-- A character has one first byte, and it stands first. -/
theorem encodeChar_cases (c : Char) :
    ∃ first rest, String.utf8EncodeChar c = first :: rest ∧ first.IsUTF8FirstByte ∧
      ∀ b ∈ rest, ¬ b.IsUTF8FirstByte := by
  have hfirst : ∀ (i : Nat) (hi : i < (String.utf8EncodeChar c).length),
      (String.utf8EncodeChar c)[i].IsUTF8FirstByte ↔ i = 0 :=
    fun _ _ => UInt8.isUTF8FirstByte_getElem_utf8EncodeChar
  obtain ⟨first, rest, heq⟩ := List.exists_cons_of_ne_nil (String.utf8EncodeChar_ne_nil (c := c))
  rw [heq] at hfirst
  refine ⟨first, rest, heq, (hfirst 0 (Nat.zero_lt_succ _)).mpr rfl, ?_⟩
  intro b hb
  obtain ⟨i, hi, rfl⟩ := List.getElem_of_mem hb
  exact fun h => Nat.succ_ne_zero i ((hfirst (i + 1) (Nat.succ_lt_succ hi)).mp h)

theorem bytes_cons_eq {c : Char} {first : UInt8} {rest : List UInt8}
    (h : String.utf8EncodeChar c = first :: rest) (text : List Char) :
    bytes (c :: text) = first :: (rest ++ bytes text) := by
  rw [bytes_cons, h, List.cons_append]

/-- An offset in bytes lies between two characters of a text, or at one of its ends. -/
def IsBoundary (text : List Char) (offset : Nat) : Prop :=
  ∃ before after, text = before ++ after ∧ (bytes before).length = offset

/-- **A FIRST BYTE STANDS BETWEEN CHARACTERS**. -/
theorem isBoundary_of_firstByte {left right : List UInt8} {b : UInt8}
    (h : bytes text = left ++ b :: right) (hb : b.IsUTF8FirstByte) :
    IsBoundary text left.length := by
  induction text generalizing left with
  | nil => exact absurd h.symm (List.append_ne_nil_of_right_ne_nil _ (List.cons_ne_nil _ _))
  | cons c text ih =>
      obtain ⟨first, rest, hc, -, hrest⟩ := encodeChar_cases c
      rw [bytes_cons] at h
      rcases List.append_eq_append_iff.mp h with ⟨more, hleft, htext⟩ | ⟨more, hchar, hright⟩
      · -- the byte stands after the first character
        obtain ⟨before, after, rfl, hlength⟩ := ih htext
        refine ⟨c :: before, after, rfl, ?_⟩
        rw [bytes_cons, List.length_append, hlength, hleft, List.length_append]
      · cases left with
        | nil => exact ⟨[], c :: text, rfl, rfl⟩
        | cons _ left =>
            cases more with
            | nil =>
                rw [List.append_nil] at hchar
                refine ⟨[c], text, rfl, ?_⟩
                rw [bytes_cons, hchar]
                exact congrArg List.length (List.append_nil _)
            | cons d more =>
                -- a byte within the first character is no first byte
                obtain rfl : b = d := (List.cons.inj hright).1
                rw [hc] at hchar
                refine absurd hb (hrest b ?_)
                rw [(List.cons.inj hchar).2]
                exact List.mem_append_right _ List.mem_cons_self

/-- What is found at the end of a text by its bytes is found there by its characters. -/
theorem bytes_suffix_iff : bytes needle <:+ bytes text ↔ needle <:+ text := by
  constructor
  · rintro ⟨left, hleft⟩
    cases needle with
    | nil => exact List.nil_suffix
    | cons c needle =>
        obtain ⟨first, rest, hc, hfirst, -⟩ := encodeChar_cases c
        have hsplit : bytes text = left ++ first :: (rest ++ bytes needle) := by
          rw [← hleft, bytes_cons_eq hc]
        obtain ⟨before, after, rfl, hlength⟩ := isBoundary_of_firstByte hsplit hfirst
        rw [bytes_append] at hleft
        obtain ⟨-, hneedle⟩ := List.append_inj hleft hlength.symm
        rw [bytes_inj hneedle]
        exact List.suffix_append _ _
  · rintro ⟨before, rfl⟩
    rw [bytes_append]
    exact List.suffix_append _ _

/-! ## Search -/

/-- The offset of the first place from which on bytes start with others. -/
def offset? (needle : List UInt8) : List UInt8 → Option Nat
  | [] => if needle = [] then some 0 else none
  | b :: rest =>
    if needle.isPrefixOf (b :: rest) then some 0 else (offset? needle rest).map (· + 1)

/-- A search goes past bytes that start no character. -/
theorem offset?_skip {first : UInt8} {needle skipped : List UInt8} (hfirst : first.IsUTF8FirstByte)
    (hskipped : ∀ b ∈ skipped, ¬ b.IsUTF8FirstByte) (rest : List UInt8) :
    offset? (first :: needle) (skipped ++ rest) =
      (offset? (first :: needle) rest).map (· + skipped.length) := by
  induction skipped with
  | nil => exact Option.map_id'.symm
  | cons b skipped ih =>
      have hb : first ≠ b := fun h => hskipped b List.mem_cons_self (h ▸ hfirst)
      have hno : ¬ (first :: needle).isPrefixOf (b :: (skipped ++ rest)) = true := by
        rw [List.isPrefixOf_iff_prefix, List.cons_prefix_cons]
        exact fun h => hb h.1
      rw [List.cons_append, offset?, if_neg hno,
        ih fun d hd => hskipped d (List.mem_cons_of_mem b hd), Option.map_map]
      rfl

/-- **BYTES ARE FOUND WHERE CHARACTERS ARE**: the first match of the bytes of a needle is that of
its characters. -/
theorem offset?_bytes (needle text : List Char) :
    offset? (bytes needle) (bytes text) =
      (splitAtFirst? needle text).map fun (before, _) => (bytes before).length := by
  induction text with
  | nil =>
      cases needle with
      | nil => rfl
      | cons c needle =>
          have hne : bytes (c :: needle) ≠ [] := fun h =>
            String.utf8EncodeChar_ne_nil (List.append_eq_nil_iff.mp (bytes_cons c needle ▸ h)).1
          rw [splitAtFirst?, if_neg (List.cons_ne_nil c needle)]
          exact if_neg hne
  | cons d text ih =>
      obtain ⟨first, rest, hd, -, hrest⟩ := encodeChar_cases d
      have hbytes : bytes (d :: text) = first :: (rest ++ bytes text) := bytes_cons_eq hd text
      have hprefix : (bytes needle).isPrefixOf (first :: (rest ++ bytes text)) =
          needle.isPrefixOf (d :: text) := by
        rw [Bool.eq_iff_iff, List.isPrefixOf_iff_prefix, List.isPrefixOf_iff_prefix, ← hbytes,
          bytes_prefix_iff]
      rw [hbytes, offset?, splitAtFirst?, hprefix]
      by_cases hfound : needle.isPrefixOf (d :: text) = true
      · rw [if_pos hfound, if_pos hfound]
        rfl
      · rw [if_neg hfound, if_neg hfound]
        cases needle with
        | nil => exact absurd rfl hfound
        | cons c needle =>
            obtain ⟨lead, more, hc, hlead, -⟩ := encodeChar_cases c
            have hneedle : bytes (c :: needle) = lead :: (more ++ bytes needle) :=
              bytes_cons_eq hc needle
            rw [hneedle, offset?_skip hlead hrest, ← hneedle, ih, Option.map_map, Option.map_map,
              Option.map_map]
            refine congrArg (Option.map · _) (funext fun parts => ?_)
            show (bytes parts.1).length + rest.length + 1 = (bytes (d :: parts.1)).length
            rw [bytes_cons, hd, List.length_append, List.length_cons]
            omega

/-! ## Cuts -/

/-- **CUTS ARE MADE BETWEEN CHARACTERS**: the offsets before a match and after it are boundaries,
and the bytes before the one and after the other are those of the two parts. -/
theorem cuts_of_append {before after : List Char} (h : before ++ needle ++ after = text) :
    let start := (bytes before).length
    let finish := start + (bytes needle).length
    IsBoundary text start ∧ IsBoundary text finish ∧ finish ≤ (bytes text).length ∧
      (bytes text).take start = bytes before ∧ (bytes text).drop finish = bytes after := by
  intro start finish
  have hfinish : (bytes (before ++ needle)).length = finish := by
    rw [bytes_append, List.length_append]
  have hbytes : bytes text = bytes (before ++ needle) ++ bytes after := by
    rw [← h, bytes_append]
  refine ⟨⟨before, needle ++ after, ?_, rfl⟩, ⟨before ++ needle, after, h.symm, hfinish⟩, ?_, ?_,
    ?_⟩
  · rw [← h, List.append_assoc]
  · rw [hbytes, List.length_append, hfinish]
    exact Nat.le_add_right _ _
  · rw [hbytes, bytes_append, List.append_assoc]
    exact List.take_left
  · rw [hbytes, ← hfinish]
    exact List.drop_left

end SparqlScalar.Utf8
