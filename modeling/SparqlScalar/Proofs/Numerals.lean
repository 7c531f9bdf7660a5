import Mathlib.Algebra.Order.Field.Rat
import Mathlib.Tactic.FieldSimp
import Mathlib.Tactic.Positivity
import Mathlib.Tactic.Ring
import SparqlScalar.Number.Decimal
import SparqlScalar.Number.Integer
import SparqlScalar.Proofs.DigitLists

/-!
# Numerals and the numbers they denote

    A NUMERAL is a text made of an optional sign and digits with at most one point among them.  It
    denotes a rational number, which has nothing to do with words of 64 or 128 bits.  Readers and
    writers are compared with it:

      reading   -- a text is read as a number of a kind exactly if it is a numeral for the number
                   (`Integer.parse?_eq_some_iff`, `Decimal.parse?_eq_some_iff`), so a numeral is
                   refused only if what it denotes does not fit
      writing   -- the text of a number is its canonical numeral (`Integer.text_canonical`,
                   `Decimal.text_canonical`), of which there is only one
                   (`Numeral.IsCanonical.eq_of_value_eq`)

    Reading undoes writing, up to the limits of both kinds, since canonical numerals are numerals.
-/

namespace SparqlScalar

open Digits (AllDigits EndsNonzero signed dropTrailingZeros splitSign leading afterLeading)

/-! ## Numerals -/

/-- The sign that a numeral is written with. -/
inductive WrittenSign where
  | absent
  | plus
  | minus
deriving DecidableEq

namespace WrittenSign

def text : WrittenSign → List Char
  | .absent => []
  | .plus => ['+']
  | .minus => ['-']

def isMinus : WrittenSign → Bool
  | .minus => true
  | _ => false

/-- A text splits into its sign and the rest. -/
theorem exists_text_append (text : List Char) :
    ∃ (sign : WrittenSign) (body : List Char),
      text = sign.text ++ body ∧ splitSign text = (sign.isMinus, body) := by
  unfold splitSign
  split
  case h_1 rest => exact ⟨.minus, rest, rfl, rfl⟩
  case h_2 rest => exact ⟨.plus, rest, rfl, rfl⟩
  case h_3 => exact ⟨.absent, text, rfl, rfl⟩

/-- A sign is split off a text that has no other sign. -/
theorem splitSign_append (sign : WrittenSign) {body : List Char}
    (h : ∀ c cs, body = c :: cs → c ≠ '-' ∧ c ≠ '+') :
    splitSign (sign.text ++ body) = (sign.isMinus, body) := by
  cases sign with
  | minus => rfl
  | plus => rfl
  | absent =>
      show splitSign body = (false, body)
      unfold splitSign
      split
      case h_1 cs => exact absurd rfl (h '-' cs rfl).1
      case h_2 cs => exact absurd rfl (h '+' cs rfl).2
      case h_3 => rfl

end WrittenSign

/-- An optional sign, and digits with at most one point among them. -/
structure Numeral where
  sign : WrittenSign
  whole : List Char
  /-- The digits after the point, if there is a point. -/
  places : Option (List Char)
  whole_digits : AllDigits whole
  places_digits : AllDigits (places.getD [])
  digits_ne_nil : whole ++ places.getD [] ≠ []

namespace Numeral

/-- The digits after the point. -/
def fraction (n : Numeral) : List Char := n.places.getD []

/-- The point and the digits after it. -/
def pointed : Option (List Char) → List Char
  | none => []
  | some cs => '.' :: cs

/-- What follows the sign. -/
def body (n : Numeral) : List Char := n.whole ++ pointed n.places

def text (n : Numeral) : List Char := n.sign.text ++ n.body

/-- The number that a numeral denotes. -/
def value (n : Numeral) : Rat :=
  (signed n.sign.isMinus (Digits.value (n.whole ++ n.fraction)) : Rat) / 10 ^ n.fraction.length

/-- Places begin with a point. -/
theorem pointed_head {places : Option (List Char)} {c : Char} {cs : List Char}
    (h : pointed places = c :: cs) : c = '.' := by
  cases places with
  | none => exact nomatch h
  | some ds => exact (List.cons.inj h).1.symm

/-- The sign and the digits before the point are told apart in the text. -/
theorem splitSign_text (n : Numeral) :
    splitSign n.text = (n.sign.isMinus, n.body) ∧ leading n.body = n.whole ∧
      afterLeading n.body = pointed n.places := by
  refine ⟨n.sign.splitSign_append ?_, Digits.leading_append n.whole_digits ?_⟩
  · intro c cs heq
    have hc : c.isDigit = true ∨ c = '.' := by
      unfold body at heq
      cases hwhole : n.whole with
      | nil =>
          rw [hwhole, List.nil_append] at heq
          exact Or.inr (pointed_head heq)
      | cons d ds =>
          rw [hwhole] at heq
          obtain rfl := (List.cons.inj heq).1
          exact Or.inl (n.whole_digits _ (hwhole ▸ List.mem_cons_self))
    constructor
    · rintro rfl
      exact absurd hc (by decide)
    · rintro rfl
      exact absurd hc (by decide)
  · intro c cs heq
    rw [pointed_head heq]
    rfl

/-- The numeral of a sign and digits, without a point. -/
def ofDigits (sign : WrittenSign) (digits : List Char) (hdigits : AllDigits digits)
    (hne : digits ≠ []) : Numeral where
  sign := sign
  whole := digits
  places := none
  whole_digits := hdigits
  places_digits := nofun
  digits_ne_nil := by rw [Option.getD_none, List.append_nil]; exact hne

/-- Without a point, a numeral is a sign and digits, and denotes a whole number. -/
theorem of_places_none {n : Numeral} (h : n.places = none) :
    n.text = n.sign.text ++ n.whole ∧ n.whole ≠ [] ∧
      n.value = (signed n.sign.isMinus (Digits.value n.whole) : Rat) := by
  obtain ⟨sign, whole, places, hwhole, hplaces, hne⟩ := n
  obtain rfl : places = none := h
  rw [Option.getD_none, List.append_nil] at hne
  refine ⟨?_, hne, ?_⟩
  · show sign.text ++ (whole ++ []) = sign.text ++ whole
    rw [List.append_nil]
  · show (signed sign.isMinus (Digits.value (whole ++ [])) : Rat) / 10 ^ 0 = _
    rw [List.append_nil, pow_zero, div_one]

/-- Zeros at the end of the places do not count. -/
theorem value_eq_trimmed (n : Numeral) :
    n.value = (signed n.sign.isMinus
        (Digits.value (n.whole ++ dropTrailingZeros n.fraction)) : Rat) /
      10 ^ (dropTrailingZeros n.fraction).length := by
  obtain ⟨count, hcount⟩ := Digits.dropTrailingZeros_append n.fraction
  have hdigits : Digits.value (n.whole ++ n.fraction) =
      Digits.value (n.whole ++ dropTrailingZeros n.fraction) * 10 ^ count := by
    conv_lhs => rw [← hcount, ← List.append_assoc, Digits.value_append, Digits.value_zeros,
      List.length_replicate]
    rfl
  have hlength : n.fraction.length = (dropTrailingZeros n.fraction).length + count := by
    conv_lhs => rw [← hcount, List.length_append, List.length_replicate]
  unfold value
  rw [hdigits, hlength, Digits.signed_mul, pow_add]
  push_cast
  field_simp

/-- The digits with the zeros at the end dropped. -/
theorem trimmed_digits (n : Numeral) : AllDigits (n.whole ++ dropTrailingZeros n.fraction) := by
  obtain ⟨count, hcount⟩ := Digits.dropTrailingZeros_append n.fraction
  intro c hc
  rcases List.mem_append.mp hc with hwhole | hkept
  · exact n.whole_digits c hwhole
  · refine n.places_digits c ?_
    show c ∈ n.fraction
    rw [← hcount]
    exact List.mem_append_left _ hkept

/-- Places that are left make a number that is not divisible by ten. -/
theorem trimmed_mod_ten (n : Numeral) (h : dropTrailingZeros n.fraction ≠ []) :
    Digits.value (n.whole ++ dropTrailingZeros n.fraction) % 10 ≠ 0 := by
  refine Digits.value_mod_ten n.trimmed_digits ?_
  exact ((Digits.dropTrailingZeros_ends n.fraction).resolve_left h).append_left n.whole

end Numeral

/-! ## Reading -/

namespace Integer

/-- The number as a rational number. -/
def toRat (a : Integer) : Rat := a.toInt

/-- Integers are known by their values. -/
theorem toRat_injective : Function.Injective toRat :=
  fun _ _ h => Integer.ext (Int.cast_injective h)

/-- **WHOLE NUMBERS ARE READ EXACTLY**: a text is read as an integer if and only if it is a numeral
without a point for this integer. -/
theorem parse?_eq_some_iff {text : List Char} {a : Integer} :
    parse? text = some a ↔ ∃ n : Numeral, n.text = text ∧ n.places = none ∧ n.value = a.toRat := by
  constructor
  · intro h
    obtain ⟨sign, body, rfl, hsplit⟩ := WrittenSign.exists_text_append text
    unfold parse? Digits.parseInt? at h
    simp only [hsplit] at h
    split at h
    case isTrue => exact nomatch h
    case isFalse hdigits =>
      simp only [Bool.or_eq_true, List.isEmpty_iff, Bool.not_eq_true',
        List.all_eq_true, not_or, Bool.eq_false_iff, ne_eq, not_not] at hdigits
      obtain ⟨htext, -, hvalue⟩ :=
        Numeral.of_places_none (n := .ofDigits sign body hdigits.2 hdigits.1) rfl
      refine ⟨.ofDigits sign body hdigits.2 hdigits.1, htext, rfl, ?_⟩
      rw [hvalue, toRat, ofInt?_eq_some_iff.mp h]
      rfl
  · rintro ⟨n, rfl, hplaces, hvalue⟩
    obtain ⟨htext, hne, hwritten⟩ := Numeral.of_places_none hplaces
    obtain ⟨hsplit, -, -⟩ := n.splitSign_text
    have hbody : n.body = n.whole := List.append_cancel_left htext
    have hwhole : (n.whole.isEmpty || !n.whole.all Char.isDigit) = false := by
      simp only [Bool.or_eq_false_iff, List.isEmpty_eq_false_iff, Bool.not_eq_false',
        List.all_eq_true]
      exact ⟨hne, n.whole_digits⟩
    unfold parse? Digits.parseInt?
    rw [hsplit, hbody]
    simp only [hwhole, Bool.false_eq_true, if_false, Option.bind_some]
    refine ofInt?_eq_some_iff.mpr ?_
    rw [hwritten] at hvalue
    exact (Int.cast_injective hvalue).symm

end Integer

namespace Decimal

/-- The number as a rational number. -/
def toRat (a : Decimal) : Rat := (a.units : Rat) / 10 ^ 18

/-- Decimals are known by their values. -/
theorem toRat_injective : Function.Injective toRat :=
  fun _ _ h => Decimal.ext (Int.cast_injective ((div_left_inj' (by norm_num)).mp h))

/-- A text that is read as a decimal is a numeral. -/
theorem exists_numeral {text : List Char} {a : Decimal} (h : parse? text = some a) :
    ∃ n : Numeral, n.text = text := by
  obtain ⟨sign, body, rfl, hsplit⟩ := WrittenSign.exists_text_append text
  have hbody := Digits.leading_append_afterLeading body
  have hwhole : AllDigits (leading body) := List.all_eq_true.mp List.all_takeWhile
  unfold parse? at h
  simp only [hsplit] at h
  split at h
  case h_1 hafter =>
    split at h
    case isTrue => exact nomatch h
    case isFalse hne =>
      refine ⟨⟨sign, leading body, none, hwhole, nofun, ?_⟩, ?_⟩
      · rw [Option.getD_none, List.append_nil]
        exact fun hnil => hne (List.isEmpty_iff.mpr hnil)
      · show sign.text ++ (leading body ++ []) = sign.text ++ body
        rw [← hafter, hbody]
  case h_2 fraction hafter =>
    split at h
    case isTrue => exact nomatch h
    case isFalse hne =>
      simp only [Bool.or_eq_true, Bool.and_eq_true, List.isEmpty_iff, Bool.not_eq_true',
        not_or, Bool.eq_false_iff, ne_eq, not_not, List.all_eq_true] at hne
      refine ⟨⟨sign, leading body, some fraction, hwhole, hne.2, ?_⟩, ?_⟩
      · exact fun hnil => hne.1 (List.append_eq_nil_iff.mp hnil)
      · show sign.text ++ (leading body ++ '.' :: fraction) = sign.text ++ body
        rw [← hafter, hbody]
  case h_3 => exact nomatch h

/-- How a numeral is read: with the zeros at the end dropped, and up to eighteen places. -/
theorem parse?_numeral (n : Numeral) :
    parse? n.text =
      if (dropTrailingZeros n.fraction).length ≤ 18 then
        ofUnits? (signed n.sign.isMinus
          (Digits.value (n.whole ++ dropTrailingZeros n.fraction) *
            10 ^ (18 - (dropTrailingZeros n.fraction).length)))
      else none := by
  obtain ⟨hsplit, hleading, hafter⟩ := n.splitSign_text
  have hne := n.digits_ne_nil
  have hdigits := n.places_digits
  unfold parse? Numeral.fraction
  simp only [hsplit, hleading, hafter]
  cases hplaces : n.places with
  | none =>
      rw [hplaces, Option.getD_none, List.append_nil] at hne
      have hwhole : ¬ n.whole.isEmpty = true := fun h => hne (List.isEmpty_iff.mp h)
      simp only [Numeral.pointed, if_neg hwhole]
      show ofUnits? (signed _ (Digits.value n.whole) * (scale : Nat)) =
        ofUnits? (signed _ (Digits.value (n.whole ++ []) * scale))
      rw [List.append_nil, Digits.signed_mul]
  | some fraction =>
      rw [hplaces, Option.getD_some] at hne hdigits
      have hrefused : (n.whole.isEmpty && fraction.isEmpty || !fraction.all Char.isDigit) =
          false := by
        rw [Bool.or_eq_false_iff, Bool.not_eq_false', List.all_eq_true, Bool.and_eq_false_imp]
        refine ⟨?_, hdigits⟩
        intro hwhole
        rw [List.isEmpty_eq_false_iff]
        rintro rfl
        exact hne (List.append_eq_nil_iff.mpr ⟨List.isEmpty_iff.mp hwhole, rfl⟩)
      simp only [Numeral.pointed, hrefused, Bool.false_eq_true, if_false, Option.getD_some]
      rfl

/-- A number with places that count is not a number of units unless there are at most eighteen. -/
theorem length_le_of_units {negative : Bool} {m places : Nat} {units : Int}
    (hlast : places ≠ 0 → m % 10 ≠ 0)
    (h : (signed negative m : Rat) / 10 ^ places = (units : Rat) / 10 ^ 18) : places ≤ 18 := by
  by_contra hmore
  obtain ⟨more, rfl⟩ : ∃ more, places = 18 + (more + 1) := ⟨places - 19, by omega⟩
  have hcleared : (signed negative m : Rat) = units * 10 ^ (more + 1) := by
    rw [pow_add] at h
    field_simp at h
    rw [h, mul_comm]
  have hint : signed negative m = units * 10 ^ (more + 1) := by exact_mod_cast hcleared
  -- ten divides the right side, and so the digits on the left
  have hdvd : (10 : Int) ∣ signed negative m := by
    rw [hint, pow_succ]
    exact ⟨units * 10 ^ more, by ring⟩
  have hmod := hlast (by omega)
  cases negative with
  | false =>
      have hm : (10 : Int) ∣ (m : Int) := hdvd
      omega
  | true =>
      have hm : (10 : Int) ∣ -(m : Int) := hdvd
      omega

/-- A number with few places is a count of units. -/
theorem units_iff {negative : Bool} {m places : Nat} (hplaces : places ≤ 18) (units : Int) :
    (signed negative m : Rat) / 10 ^ places = (units : Rat) / 10 ^ 18 ↔
      units = signed negative (m * 10 ^ (18 - places)) := by
  obtain ⟨rest, hrest⟩ : ∃ rest, 18 = places + rest := ⟨18 - places, by omega⟩
  rw [show 18 - places = rest by omega, Digits.signed_mul]
  constructor
  · intro h
    have hcleared : (units : Rat) = signed negative m * 10 ^ rest := by
      rw [hrest, pow_add] at h
      field_simp at h
      exact h.symm
    exact_mod_cast hcleared
  · rintro rfl
    rw [hrest, pow_add]
    push_cast
    field_simp

/-- **DECIMALS ARE READ EXACTLY**: a text is read as a decimal if and only if it is a numeral for
this decimal. -/
theorem parse?_eq_some_iff {text : List Char} {a : Decimal} :
    parse? text = some a ↔ ∃ n : Numeral, n.text = text ∧ n.value = a.toRat := by
  have hread : ∀ n : Numeral, parse? n.text = some a ↔ n.value = a.toRat := by
    intro n
    rw [parse?_numeral, n.value_eq_trimmed, toRat]
    constructor
    · intro h
      split at h
      case isTrue hplaces =>
        exact (units_iff hplaces a.units).mpr (ofUnits?_eq_some_iff.mp h)
      case isFalse => exact nomatch h
    · intro h
      have hlast : (dropTrailingZeros n.fraction).length ≠ 0 →
          Digits.value (n.whole ++ dropTrailingZeros n.fraction) % 10 ≠ 0 :=
        fun hlength => n.trimmed_mod_ten (List.length_pos_iff.mp (Nat.pos_of_ne_zero hlength))
      have hplaces := length_le_of_units hlast h
      rw [if_pos hplaces]
      exact ofUnits?_eq_some_iff.mpr ((units_iff hplaces a.units).mp h)
  constructor
  · intro h
    obtain ⟨n, rfl⟩ := exists_numeral h
    exact ⟨n, rfl, (hread n).mp h⟩
  · rintro ⟨n, rfl, hvalue⟩
    exact (hread n).mpr hvalue

end Decimal

/-! ## Writing -/

namespace Numeral

/-- No plus sign, a minus sign for negative numbers only, no leading zeros, and a point only before
places that count. -/
structure IsCanonical (n : Numeral) : Prop where
  sign : n.sign = if n.value < 0 then .minus else .absent
  whole : Digits.Shortest n.whole
  places : ∀ cs, n.places = some cs → EndsNonzero cs

/-- The places of a canonical numeral all count. -/
theorem IsCanonical.mod_ten {n : Numeral} (h : n.IsCanonical) (hplaces : n.fraction.length ≠ 0) :
    Digits.value (n.whole ++ n.fraction) % 10 ≠ 0 := by
  have hdigits : AllDigits (n.whole ++ n.fraction) := by
    intro c hc
    rcases List.mem_append.mp hc with hwhole | hfraction
    · exact n.whole_digits c hwhole
    · exact n.places_digits c hfraction
  refine Digits.value_mod_ten hdigits (EndsNonzero.append_left ?_ n.whole)
  cases hcase : n.places with
  | none =>
      unfold fraction at hplaces
      rw [hcase] at hplaces
      exact absurd rfl hplaces
  | some cs =>
      unfold fraction
      rw [hcase]
      exact h.places cs hcase

/-- Two canonical numerals for one number have the same number of places. -/
theorem IsCanonical.places_le {n n' : Numeral} (h' : n'.IsCanonical)
    (h : Digits.value (n.whole ++ n.fraction) * 10 ^ n'.fraction.length =
      Digits.value (n'.whole ++ n'.fraction) * 10 ^ n.fraction.length) :
    n'.fraction.length ≤ n.fraction.length := by
  by_contra hmore
  obtain ⟨more, hmore⟩ : ∃ more, n'.fraction.length = n.fraction.length + (more + 1) :=
    ⟨n'.fraction.length - n.fraction.length - 1, by omega⟩
  rw [hmore, Nat.pow_add, Nat.mul_comm (10 ^ _), ← Nat.mul_assoc] at h
  have hvalue := Nat.eq_of_mul_eq_mul_right (Nat.pow_pos (by decide)) h
  refine h'.mod_ten (by omega) ?_
  rw [← hvalue, Nat.pow_succ, ← Nat.mul_assoc]
  exact Nat.mul_mod_left _ _

/-- Places that count are told by their digits. -/
theorem IsCanonical.places_eq {n n' : Numeral} (h : n.IsCanonical) (h' : n'.IsCanonical)
    (hfraction : n.fraction = n'.fraction) : n.places = n'.places := by
  have hne : ∀ {m : Numeral}, m.IsCanonical → m.places ≠ some [] := by
    intro m hm hnil
    obtain ⟨init, last, heq, -⟩ := hm.places [] hnil
    exact absurd heq.symm (List.append_ne_nil_of_right_ne_nil _ (List.cons_ne_nil _ _))
  unfold fraction at hfraction
  cases hn : n.places with
  | none =>
      cases hn' : n'.places with
      | none => rfl
      | some cs =>
          rw [hn, hn', Option.getD_none, Option.getD_some] at hfraction
          exact absurd (hfraction ▸ hn') (hne h')
  | some cs =>
      cases hn' : n'.places with
      | none =>
          rw [hn, hn', Option.getD_none, Option.getD_some] at hfraction
          exact absurd (hfraction ▸ hn) (hne h)
      | some ds =>
          rw [hn, hn', Option.getD_some, Option.getD_some] at hfraction
          rw [hfraction]

/-- **ONE CANONICAL NUMERAL**: two canonical numerals for one number are the same. -/
theorem IsCanonical.eq_of_value_eq {n n' : Numeral} (h : n.IsCanonical) (h' : n'.IsCanonical)
    (hvalue : n.value = n'.value) : n = n' := by
  have hsign : n.sign = n'.sign := by rw [h.sign, h'.sign, hvalue]
  have hcleared : Digits.value (n.whole ++ n.fraction) * 10 ^ n'.fraction.length =
      Digits.value (n'.whole ++ n'.fraction) * 10 ^ n.fraction.length := by
    unfold value at hvalue
    rw [hsign, div_eq_div_iff (by positivity) (by positivity)] at hvalue
    refine Digits.signed_inj n'.sign.isMinus ?_
    rw [Digits.signed_mul, Digits.signed_mul]
    exact_mod_cast hvalue
  have hlength : n.fraction.length = n'.fraction.length :=
    Nat.le_antisymm (h.places_le hcleared.symm) (h'.places_le hcleared)
  -- with as many places on both sides, the digits before the point and after it can be compared
  rw [← hlength] at hcleared
  have hdigits := Nat.eq_of_mul_eq_mul_right (Nat.pow_pos (by decide)) hcleared
  rw [Digits.value_append, Digits.value_append, ← hlength] at hdigits
  obtain ⟨hwhole, hfraction⟩ := Digits.split_eq (Digits.value_lt n.places_digits)
    (hlength ▸ Digits.value_lt n'.places_digits) hdigits
  have hdigit := Digits.value_inj n.places_digits n'.places_digits hlength hfraction
  have hplaces := h.places_eq h' hdigit
  have hsame := Digits.shortest_inj n.whole_digits n'.whole_digits h.whole h'.whole hwhole
  obtain ⟨sign, whole, places, _, _, _⟩ := n
  obtain ⟨sign', whole', places', _, _, _⟩ := n'
  obtain rfl : sign = sign' := hsign
  obtain rfl : whole = whole' := hsame
  obtain rfl : places = places' := hplaces
  rfl

end Numeral

namespace WrittenSign

/-- The sign that a canonical numeral has. -/
def ofInt (k : Int) : WrittenSign := if k < 0 then .minus else .absent

theorem text_ofInt (k : Int) : (ofInt k).text = if k < 0 then ['-'] else [] := by
  unfold ofInt
  split <;> rfl

theorem isMinus_ofInt (k : Int) : (ofInt k).isMinus = decide (k < 0) := by
  unfold ofInt
  split
  case isTrue h => exact (decide_eq_true h).symm
  case isFalse h => exact (decide_eq_false h).symm

end WrittenSign

/-- An integer is its sign and its magnitude. -/
theorem Digits.signed_natAbs (k : Int) : signed (decide (k < 0)) k.natAbs = k := by
  unfold signed
  split
  case isTrue h =>
    have hneg := of_decide_eq_true h
    omega
  case isFalse h =>
    have hpos := of_decide_eq_false (Bool.eq_false_iff.mpr h)
    omega

/-- An integer is written as a sign and the digits of its magnitude. -/
theorem Digits.ofInt_eq (k : Int) :
    Digits.ofInt k = (WrittenSign.ofInt k).text ++ Digits.ofNat k.natAbs := by
  rw [WrittenSign.text_ofInt]
  cases k with
  | ofNat m => rfl
  | negSucc m =>
      rw [if_pos (Int.negSucc_lt_zero m)]
      rfl

namespace Integer

/-- The numeral that a whole number is written as. -/
def numeral (a : Integer) : Numeral where
  sign := .ofInt a.toInt
  whole := Digits.ofNat a.toInt.natAbs
  places := none
  whole_digits := fun _ => Digits.isDigit_of_mem_ofNat
  places_digits := nofun
  digits_ne_nil := fun h => Digits.ofNat_ne_nil _ (List.append_eq_nil_iff.mp h).1

/-- The numeral of an integer has its value. -/
theorem value_numeral (a : Integer) : a.numeral.value = a.toRat := by
  show (signed (WrittenSign.ofInt a.toInt).isMinus
    (Digits.value (Digits.ofNat a.toInt.natAbs ++ [])) : Rat) / 10 ^ 0 = _
  rw [WrittenSign.isMinus_ofInt, List.append_nil, Digits.value_ofNat, Digits.signed_natAbs,
    pow_zero, div_one]
  rfl

/-- The numeral of an integer has its text. -/
theorem text_numeral (a : Integer) : a.numeral.text = a.text := by
  show (WrittenSign.ofInt a.toInt).text ++ (Digits.ofNat a.toInt.natAbs ++ []) = _
  rw [List.append_nil, ← Digits.ofInt_eq]
  rfl

/-- The numeral of an integer is canonical. -/
theorem numeral_canonical (a : Integer) : a.numeral.IsCanonical := by
  refine ⟨?_, Digits.shortest_ofNat _, nofun⟩
  rw [value_numeral]
  show (if a.toInt < 0 then WrittenSign.minus else .absent) = if (a.toInt : Rat) < 0 then _ else _
  simp only [Int.cast_lt_zero]

/-- **WHOLE NUMBERS ARE WRITTEN CANONICALLY**, without a point. -/
theorem text_canonical (a : Integer) :
    ∃ n : Numeral, n.IsCanonical ∧ n.places = none ∧ n.text = a.text ∧ n.value = a.toRat :=
  ⟨a.numeral, a.numeral_canonical, rfl, a.text_numeral, a.value_numeral⟩

/-- Reading undoes writing. -/
theorem parse?_text (a : Integer) : parse? a.text = some a :=
  parse?_eq_some_iff.mpr ⟨a.numeral, a.text_numeral, rfl, a.value_numeral⟩

end Integer

namespace Decimal

theorem toRat_lt_zero_iff (a : Decimal) : a.toRat < 0 ↔ a.units < 0 := by
  unfold toRat
  rw [div_lt_iff₀ (by positivity), zero_mul, Int.cast_lt_zero]

theorem toRat_eq_zero_iff (a : Decimal) : a.toRat = 0 ↔ a.units = 0 := by
  unfold toRat
  rw [div_eq_zero_iff, or_iff_left (by norm_num), Int.cast_eq_zero]

/-- The numeral of a decimal with all its eighteen places, which is not canonical in general. -/
def fullNumeral (a : Decimal) : Numeral where
  sign := .ofInt a.units
  whole := Digits.ofNat (a.units.natAbs / scale)
  places := some (Digits.padded 18 (a.units.natAbs % scale))
  whole_digits := fun _ => Digits.isDigit_of_mem_ofNat
  places_digits := fun _ => Digits.isDigit_of_mem_padded
  digits_ne_nil := fun h => Digits.ofNat_ne_nil _ (List.append_eq_nil_iff.mp h).1

/-- With all its places a decimal has the same value. -/
theorem value_fullNumeral (a : Decimal) : a.fullNumeral.value = a.toRat := by
  have hremainder : a.units.natAbs % scale < 10 ^ 18 := Nat.mod_lt _ (by decide)
  have hdigits : a.units.natAbs / scale * 10 ^ 18 + a.units.natAbs % scale = a.units.natAbs :=
    Nat.div_add_mod' _ _
  show (signed (WrittenSign.ofInt a.units).isMinus
    (Digits.value (Digits.ofNat (a.units.natAbs / scale) ++ Digits.padded 18 _)) : Rat) /
      10 ^ (Digits.padded 18 _).length = _
  rw [Digits.value_append, Digits.value_ofNat, Digits.value_padded,
    Digits.length_padded (by decide) hremainder, WrittenSign.isMinus_ofInt, hdigits,
    Digits.signed_natAbs]
  rfl

/-- The places of a decimal that count. -/
def keptPlaces (a : Decimal) : List Char := dropTrailingZeros a.fullNumeral.fraction

/-- The numeral that a decimal is written as. -/
def numeral (a : Decimal) : Numeral where
  sign := .ofInt a.units
  whole := Digits.ofNat (a.units.natAbs / scale)
  places := if a.keptPlaces.isEmpty then none else some a.keptPlaces
  whole_digits := fun _ => Digits.isDigit_of_mem_ofNat
  places_digits := by
    split
    · exact nofun
    · exact fun c hc => a.fullNumeral.trimmed_digits c (List.mem_append_right _ hc)
  digits_ne_nil := fun h => Digits.ofNat_ne_nil _ (List.append_eq_nil_iff.mp h).1

theorem fraction_numeral (a : Decimal) : a.numeral.fraction = a.keptPlaces := by
  show Option.getD (if a.keptPlaces.isEmpty then none else some a.keptPlaces) [] = _
  split
  case isTrue h => exact (List.isEmpty_iff.mp h).symm
  case isFalse => rfl

/-- The numeral of a decimal has its value. -/
theorem value_numeral (a : Decimal) : a.numeral.value = a.toRat := by
  rw [← value_fullNumeral, a.fullNumeral.value_eq_trimmed]
  unfold Numeral.value
  rw [fraction_numeral]
  rfl

/-- The numeral of a decimal has its text. -/
theorem text_numeral (a : Decimal) : a.numeral.text = a.text := by
  show (WrittenSign.ofInt a.units).text ++ (Digits.ofNat (a.units.natAbs / scale) ++
    Numeral.pointed (if a.keptPlaces.isEmpty then none else some a.keptPlaces)) = _
  rw [WrittenSign.text_ofInt, ← List.append_assoc]
  unfold text textOf
  simp only [decide_eq_true_eq]
  refine congrArg (List.append _) ?_
  show _ = if a.keptPlaces.isEmpty then [] else '.' :: a.keptPlaces
  split <;> rfl

/-- The numeral of a decimal is canonical: no zero is left that could be dropped. -/
theorem numeral_canonical (a : Decimal) : a.numeral.IsCanonical := by
  refine ⟨?_, Digits.shortest_ofNat _, ?_⟩
  · show WrittenSign.ofInt a.units = if a.numeral.value < 0 then .minus else .absent
    simp only [value_numeral, toRat_lt_zero_iff, WrittenSign.ofInt]
  · intro cs hcs
    have hkept : (if a.keptPlaces.isEmpty then none else some a.keptPlaces) = some cs := hcs
    split at hkept
    case isTrue => exact absurd hkept (Option.some_ne_none _).symm
    case isFalse hne =>
      obtain rfl := Option.some.inj hkept
      exact (Digits.dropTrailingZeros_ends _).resolve_left fun hnil =>
        hne (List.isEmpty_iff.mpr hnil)

/-- **DECIMALS ARE WRITTEN CANONICALLY**. -/
theorem text_canonical (a : Decimal) :
    ∃ n : Numeral, n.IsCanonical ∧ n.text = a.text ∧ n.value = a.toRat :=
  ⟨a.numeral, a.numeral_canonical, a.text_numeral, a.value_numeral⟩

/-- Reading undoes writing, up to both ends of the range. -/
theorem parse?_text (a : Decimal) : parse? a.text = some a :=
  parse?_eq_some_iff.mpr ⟨a.numeral, a.text_numeral, a.value_numeral⟩

end Decimal

end SparqlScalar
