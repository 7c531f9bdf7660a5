import SparqlScalar.Proofs.Occurrences
import SparqlScalar.Text.Hex

/-!
# Percent encoding is faithful

    A text is encoded byte by byte, with ranges of codes and sums of codes, and what is written has
    to be a text again.  It is told here in characters, which the bytes of the text stand behind:

      pieces    -- each byte is written as the bytes of an unreserved character or of a triple,
                   never both (`Percent.exists_encodes_byte`)
      texts     -- so all that is written are the bytes of one text (`Percent.exists_encodes`), and
                   reading it as a text cannot fail (`Percent.exists_encode?`)
      decoding  -- undoing the triples gives the bytes back (`Percent.Encodes.decode?_eq`)
-/

namespace SparqlScalar

namespace Percent

/-! ## Pieces -/

/-- The characters that stand for themselves. -/
def unreserved : List Char :=
  "ABCDEFGHIJKLMNOPQRSTUVWXYZabcdefghijklmnopqrstuvwxyz0123456789-_.~".toList

/-- The digits of base sixteen, in upper case. -/
def hexDigits : List Char := "0123456789ABCDEF".toList

/-- How bytes are written: an unreserved character for its own byte, and a percent sign with two
digits for a byte that no unreserved character has. -/
inductive Encodes : List UInt8 → List Char → Prop where
  | nil : Encodes [] []
  | kept {c : Char} {bytes : List UInt8} {text : List Char} (hc : c ∈ unreserved)
      (h : Encodes bytes text) : Encodes (String.utf8EncodeChar c ++ bytes) (c :: text)
  | escaped {b : UInt8} {high low : Char} {bytes : List UInt8} {text : List Char}
      (hb : ∀ c ∈ unreserved, String.utf8EncodeChar c ≠ [b]) (hhigh : high ∈ hexDigits)
      (hlow : low ∈ hexDigits) (hvalue : Hex.value [high, low] = b.toNat)
      (h : Encodes bytes text) : Encodes (b :: bytes) ('%' :: high :: low :: text)

theorem Encodes.append {bytes bytes' : List UInt8} {text text' : List Char}
    (h : Encodes bytes text) (h' : Encodes bytes' text') :
    Encodes (bytes ++ bytes') (text ++ text') := by
  induction h with
  | nil => exact h'
  | kept hc _ ih =>
      rw [List.append_assoc]
      exact .kept hc ih
  | escaped hb hhigh hlow hvalue _ ih => exact .escaped hb hhigh hlow hvalue ih

/-- The codes of the unreserved characters lie in three ranges, but for the marks. -/
theorem codes_unreserved : unreserved.map Char.toNat =
    List.range' 65 26 ++ List.range' 97 26 ++ List.range' 48 10 ++ [45, 95, 46, 126] := by
  decide +kernel

/-- An unreserved character is encoded as one byte, which is its code. -/
theorem encodeChar_unreserved {c : Char} (hc : c ∈ unreserved) :
    String.utf8EncodeChar c = [UInt8.ofNat c.toNat] ∧ c.toNat < 256 := by
  have hall : (unreserved.all fun c =>
      String.utf8EncodeChar c == [UInt8.ofNat c.toNat] && decide (c.toNat < 256)) = true := by
    decide
  have hone := List.all_eq_true.mp hall c hc
  rwa [Bool.and_eq_true, beq_iff_eq, decide_eq_true_eq] at hone

/-- The bytes that are kept have the codes of the unreserved characters. -/
theorem isUnreserved_iff_code (b : UInt8) :
    isUnreserved b = true ↔ b.toNat ∈ unreserved.map Char.toNat := by
  rw [codes_unreserved]
  simp only [isUnreserved, Bool.or_eq_true, Bool.and_eq_true, decide_eq_true_eq, beq_iff_eq,
    UInt8.le_iff_toNat_le, ← UInt8.toNat_inj, List.mem_append, List.mem_range'_1, List.mem_cons,
    List.not_mem_nil, or_false, UInt8.reduceToNat]
  omega

/-- The bytes that are kept are those of the unreserved characters. -/
theorem isUnreserved_iff (b : UInt8) :
    isUnreserved b = true ↔ ∃ c ∈ unreserved, String.utf8EncodeChar c = [b] := by
  rw [isUnreserved_iff_code, List.mem_map]
  constructor
  · rintro ⟨c, hc, hcode⟩
    refine ⟨c, hc, ?_⟩
    rw [(encodeChar_unreserved hc).1, hcode, UInt8.ofNat_toNat]
  · rintro ⟨c, hc, hbyte⟩
    obtain ⟨hone, hcode⟩ := encodeChar_unreserved hc
    rw [hone] at hbyte
    obtain rfl := List.singleton_inj.mp hbyte
    exact ⟨c, hc, (UInt8.toNat_ofNat_of_lt hcode).symm⟩

/-- An unreserved character is kept. -/
theorem encodeBytes_unreserved {c : Char} (hc : c ∈ unreserved) :
    encodeBytes (Utf8.bytes [c]) = Utf8.bytes [c] := by
  have hbyte := (encodeChar_unreserved hc).1
  have hkept := (isUnreserved_iff _).mpr ⟨c, hc, hbyte⟩
  rw [Utf8.bytes_cons, hbyte]
  show encodeByte (UInt8.ofNat c.toNat) ++ [] = [UInt8.ofNat c.toNat]
  rw [encodeByte, if_pos hkept, List.append_nil]

/-- The digit of a number below sixteen is the byte of a character that denotes the number. -/
theorem exists_hexDigit {n : UInt8} (h : n < 16) :
    ∃ c ∈ hexDigits, String.utf8EncodeChar c = [digit n] ∧ Hex.digitValue? c = some n.toNat := by
  have hall : ((List.range 16).all fun n => hexDigits.any fun c =>
      String.utf8EncodeChar c == [digit (UInt8.ofNat n)] && Hex.digitValue? c == some n) = true := by
    decide
  have hone := List.all_eq_true.mp hall n.toNat (List.mem_range.mpr (UInt8.lt_iff_toNat_lt.mp h))
  obtain ⟨c, hc, hdigit⟩ := List.any_eq_true.mp hone
  rw [UInt8.ofNat_toNat, Bool.and_eq_true, beq_iff_eq, beq_iff_eq] at hdigit
  exact ⟨c, hc, hdigit⟩

/-- **ONE BYTE**: what is written for it are the bytes of one piece. -/
theorem exists_encodes_byte (b : UInt8) :
    ∃ text, Encodes [b] text ∧ Utf8.bytes text = encodeByte b := by
  by_cases hkept : isUnreserved b = true
  · obtain ⟨c, hc, hbyte⟩ := (isUnreserved_iff b).mp hkept
    refine ⟨[c], ?_, ?_⟩
    · rw [← hbyte, ← List.append_nil (String.utf8EncodeChar c)]
      exact .kept hc .nil
    · rw [Utf8.bytes_cons, hbyte, encodeByte, if_pos hkept]
      rfl
  · have hdiv : b / 16 < 16 := by
      rw [UInt8.lt_iff_toNat_lt, UInt8.toNat_div]
      exact Nat.div_lt_of_lt_mul b.toNat_lt
    have hmod : b % 16 < 16 := by
      rw [UInt8.lt_iff_toNat_lt, UInt8.toNat_mod]
      exact Nat.mod_lt _ (by decide)
    obtain ⟨high, hhigh, hhighByte, hhighValue⟩ := exists_hexDigit hdiv
    obtain ⟨low, hlow, hlowByte, hlowValue⟩ := exists_hexDigit hmod
    refine ⟨['%', high, low], .escaped ?_ hhigh hlow ?_ .nil, ?_⟩
    · intro c hc hbyte
      exact hkept ((isUnreserved_iff b).mpr ⟨c, hc, hbyte⟩)
    · show 16 * (16 * 0 + (Hex.digitValue? high).getD 0) + (Hex.digitValue? low).getD 0 = _
      rw [hhighValue, hlowValue, Option.getD_some, Option.getD_some, Nat.mul_zero, Nat.zero_add,
        UInt8.toNat_div, UInt8.toNat_mod]
      exact Nat.div_add_mod b.toNat 16
    · rw [Utf8.bytes_cons, Utf8.bytes_cons, Utf8.bytes_cons, hhighByte, hlowByte, encodeByte,
        if_neg hkept]
      rfl

/-! ## Texts -/

/-- **ALL BYTES**: what is written for them are the bytes of one text. -/
theorem exists_encodes (bytes : List UInt8) :
    ∃ text, Encodes bytes text ∧ Utf8.bytes text = encodeBytes bytes := by
  induction bytes with
  | nil => exact ⟨[], .nil, rfl⟩
  | cons b bytes ih =>
      obtain ⟨piece, hpiece, hpieceBytes⟩ := exists_encodes_byte b
      obtain ⟨text, htext, htextBytes⟩ := ih
      refine ⟨piece ++ text, hpiece.append htext, ?_⟩
      rw [Utf8.bytes_append, hpieceBytes, htextBytes]
      exact List.flatMap_cons.symm

/-- **WHAT IS WRITTEN IS A TEXT**. -/
theorem exists_encode? (text : List Char) :
    ∃ encoded : String, encode? text = some encoded ∧
      Encodes (Utf8.bytes text) encoded.toList ∧
      Utf8.bytes encoded.toList = encodeBytes (Utf8.bytes text) := by
  obtain ⟨encoded, hencodes, hbytes⟩ := exists_encodes (Utf8.bytes text)
  refine ⟨String.ofList encoded, ?_, ?_, ?_⟩
  · rw [encode?, ← hbytes, Utf8.decode?_bytes]
  · rwa [String.toList_ofList]
  · rwa [String.toList_ofList]

/-! ## Decoding -/

/-- The bytes of a text in which a percent sign and two digits of either case stand for a byte. A
percent sign without two digits after it stands for nothing. -/
def decode? : List Char → Option (List UInt8)
  | [] => some []
  | '%' :: high :: low :: rest =>
    if Hex.isDigit high && Hex.isDigit low then
      (decode? rest).map (UInt8.ofNat (Hex.value [high, low]) :: ·)
    else none
  | c :: rest => if c = '%' then none else (decode? rest).map (String.utf8EncodeChar c ++ ·)

/-- **DECODING UNDOES ENCODING**. -/
theorem Encodes.decode?_eq {bytes : List UInt8} {text : List Char} (h : Encodes bytes text) :
    decode? text = some bytes := by
  induction h with
  | nil => rfl
  | @kept c bytes text hc _ ih =>
      have hpercent : c ≠ '%' := by
        rintro rfl
        exact absurd hc (by decide)
      have hread : decode? (c :: text) =
          if c = '%' then none else (decode? text).map (String.utf8EncodeChar c ++ ·) :=
        decode?.eq_3 c text fun _ _ _ hc _ => hpercent hc
      rw [hread, if_neg hpercent, ih, Option.map_some]
  | @escaped b high low bytes text hb hhigh hlow hvalue _ ih =>
      have hdigits : ∀ c ∈ hexDigits, Hex.isDigit c = true :=
        List.all_eq_true.mp (by decide : hexDigits.all Hex.isDigit = true)
      rw [decode?, hdigits high hhigh, hdigits low hlow, hvalue, UInt8.ofNat_toNat, ih]
      rfl

/-! ## Faithfulness -/

/-- An encoding is faithful: it writes the bytes of a text and nothing else, decoding gives them
back, so that no two texts are written alike, unreserved characters are kept wherever they stand,
and parts of a text are written apart from one another. -/
structure IsFaithful (encoding : String → String) : Prop where
  written : ∀ text, Encodes (Utf8.bytes text.toList) (encoding text).toList
  decoded : ∀ text, decode? (encoding text).toList = some (Utf8.bytes text.toList)
  injective : Function.Injective encoding
  kept : ∀ c ∈ unreserved, encoding (String.singleton c) = String.singleton c
  append : ∀ left right, encoding (left ++ right) = encoding left ++ encoding right

end Percent

open Percent in
/-- **ENCODING IS FAITHFUL**: every string, with a language tag or without, is encoded as a text
without one, and the encoding is faithful. -/
theorem encodeForUri_faithful :
    ∃ encoding : String → String,
      (∀ s : StringValue, encodeForUri s.toTerm = .ok (Term.simple (encoding s.text))) ∧
        IsFaithful encoding := by
  choose encoding hencode hencodes hbytes using fun text : String => exists_encode? text.toList
  have hdecoded := fun text => (hencodes text).decode?_eq
  refine ⟨encoding, fun s => ?_, hencodes, hdecoded, ?_, ?_, ?_⟩
  · rw [encodeForUri, s.string_toTerm]
    simp only [bind, Except.bind, StringValue.chars, hencode, EvalResult.ofOption]
    rfl
  · intro left right h
    have hsame := hdecoded left
    rw [h, hdecoded right] at hsame
    exact String.toList_inj.mp (Utf8.bytes_inj (Option.some.inj hsame)).symm
  · intro c hc
    refine String.toList_inj.mp (Utf8.bytes_inj ?_)
    rw [hbytes, String.toList_singleton, encodeBytes_unreserved hc]
  · intro left right
    refine String.toList_inj.mp (Utf8.bytes_inj ?_)
    rw [hbytes, String.toList_append, String.toList_append, Utf8.bytes_append, Utf8.bytes_append,
      hbytes, hbytes]
    exact List.flatMap_append

/-- A space and a letter of two bytes, in a language. -/
example : encodeForUri (.literal (.tagged "a \u00e9~" "fr")) = .ok (Term.simple "a%20%C3%A9~") := by
  decide +kernel

end SparqlScalar
