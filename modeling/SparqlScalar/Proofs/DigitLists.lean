import Mathlib.Algebra.Ring.Nat
import Mathlib.Data.List.Basic
import Mathlib.Data.List.Induction
import SparqlScalar.Text.Digits

/-!
# Lists of digits

    What lists of digits denote, and when they are told by it.  A number is told from the last
    digit on: each step is linear (`value_concat`), so lists of one length are told by their numbers
    (`value_inj`), and so are lists without leading zeros (`shortest_inj`), whose length is told by
    the size of the number.

    Zeros at the end of a list are what `dropTrailingZeros` drops and nothing else.
-/

namespace SparqlScalar.Digits

/-- Only digits. -/
def AllDigits (cs : List Char) : Prop := ∀ c ∈ cs, c.isDigit = true

instance (cs : List Char) : Decidable (AllDigits cs) :=
  decidable_of_iff (cs.all Char.isDigit = true) List.all_eq_true

/-- Digits that are put before others count by the power of ten of their place. -/
theorem value_append (xs ys : List Char) :
    value (xs ++ ys) = value xs * 10 ^ ys.length + value ys := by
  unfold value
  rw [Nat.ofDigitChars_append, Nat.ofDigitChars_eq_ofDigitChars_zero, Nat.mul_comm]

theorem value_zeros (count : Nat) : value (List.replicate count '0') = 0 := by
  unfold value
  rw [Nat.ofDigitChars_replicate_zero, Nat.mul_zero]

/-- The last digit of a numeral is the remainder by ten. -/
theorem value_concat (xs : List Char) (c : Char) :
    value (xs ++ [c]) = 10 * value xs + (c.toNat - '0'.toNat) := by
  rw [value_append, Nat.mul_comm]
  unfold value
  rw [Nat.ofDigitChars_cons, Nat.ofDigitChars_nil, Nat.mul_zero, Nat.zero_add]
  rfl

theorem digit_lt_ten {c : Char} (h : c.isDigit = true) : c.toNat - '0'.toNat < 10 := by
  have hbounds := Char.isDigit_iff_toNat.mp h
  simp only [Char.reduceToNat] at hbounds ⊢
  omega

/-- A digit is known by its number. -/
theorem digit_inj {c d : Char} (hc : c.isDigit = true) (hd : d.isDigit = true)
    (h : c.toNat - '0'.toNat = d.toNat - '0'.toNat) : c = d := by
  have hcbounds := Char.isDigit_iff_toNat.mp hc
  have hdbounds := Char.isDigit_iff_toNat.mp hd
  refine Char.toNat_inj.mp ?_
  omega

/-- So many digits denote a number below that power of ten. -/
theorem value_lt {xs : List Char} (h : AllDigits xs) : value xs < 10 ^ xs.length := by
  induction xs using List.reverseRecOn with
  | nil => exact Nat.zero_lt_one
  | append_singleton xs c ih =>
      have hinit := ih fun d hd => h d (List.mem_append_left _ hd)
      have hlast := digit_lt_ten (h c (List.mem_append_right _ List.mem_cons_self))
      rw [value_concat, List.length_append, List.length_singleton, Nat.pow_succ]
      omega

/-- Lists of digits of one length that denote one number are the same. -/
theorem value_inj {xs ys : List Char} (hxs : AllDigits xs) (hys : AllDigits ys)
    (hlen : xs.length = ys.length) (h : value xs = value ys) : xs = ys := by
  induction xs using List.reverseRecOn generalizing ys with
  | nil => exact (List.length_eq_zero_iff.mp hlen.symm).symm
  | append_singleton xs c ih =>
      rcases List.eq_nil_or_concat' ys with rfl | ⟨ys, d, rfl⟩
      · rw [List.length_append] at hlen
        exact absurd hlen (Nat.succ_ne_zero _)
      · have hc := hxs c (List.mem_append_right _ List.mem_cons_self)
        have hd := hys d (List.mem_append_right _ List.mem_cons_self)
        rw [value_concat, value_concat] at h
        have hclt := digit_lt_ten hc
        have hdlt := digit_lt_ten hd
        simp only [List.length_append, List.length_singleton, Nat.add_right_cancel_iff] at hlen
        obtain rfl := digit_inj hc hd (by omega)
        obtain rfl := ih (fun a ha => hxs a (List.mem_append_left _ ha))
          (fun a ha => hys a (List.mem_append_left _ ha)) hlen (by omega)
        rfl

/-- A list of digits does not end in a zero. -/
def EndsNonzero (cs : List Char) : Prop := ∃ init last, cs = init ++ [last] ∧ last ≠ '0'

theorem EndsNonzero.append_left {cs : List Char} (h : EndsNonzero cs) (before : List Char) :
    EndsNonzero (before ++ cs) := by
  obtain ⟨init, last, rfl, hlast⟩ := h
  exact ⟨before ++ init, last, (List.append_assoc _ _ _).symm, hlast⟩

/-- What the zeros are dropped from is empty or ends in another digit. -/
theorem dropTrailingZeros_ends (cs : List Char) :
    dropTrailingZeros cs = [] ∨ EndsNonzero (dropTrailingZeros cs) := by
  induction cs with
  | nil => exact Or.inl rfl
  | cons c cs ih =>
      unfold dropTrailingZeros
      rcases ih with hnil | ⟨init, last, heq, hlast⟩
      · rw [hnil]
        by_cases hc : c = '0'
        · exact Or.inl (if_pos hc)
        · exact Or.inr ⟨[], c, if_neg hc, hc⟩
      · obtain ⟨d, ds, hcons⟩ : ∃ d ds, dropTrailingZeros cs = d :: ds := by
          rw [heq]
          cases init with
          | nil => exact ⟨last, [], rfl⟩
          | cons d ds => exact ⟨d, ds ++ [last], rfl⟩
        refine Or.inr ⟨c :: init, last, ?_, hlast⟩
        rw [List.cons_append, ← heq, hcons]

/-- The zeros at the end are all that is dropped. -/
theorem dropTrailingZeros_append (cs : List Char) :
    ∃ count, dropTrailingZeros cs ++ List.replicate count '0' = cs := by
  induction cs with
  | nil => exact ⟨0, rfl⟩
  | cons c cs ih =>
      obtain ⟨count, hcount⟩ := ih
      unfold dropTrailingZeros
      cases hrest : dropTrailingZeros cs with
      | nil =>
          rw [hrest, List.nil_append] at hcount
          by_cases hc : c = '0'
          · refine ⟨count + 1, ?_⟩
            simp only [if_pos hc]
            rw [List.replicate_succ, List.nil_append, hcount, hc]
          · refine ⟨count, ?_⟩
            simp only [if_neg hc]
            rw [hcount]
            rfl
      | cons d ds =>
          refine ⟨count, ?_⟩
          rw [hrest] at hcount
          show c :: (d :: ds ++ List.replicate count '0') = c :: cs
          rw [hcount]

/-- A number that ends in another digit than zero is not divisible by ten. -/
theorem value_mod_ten {cs : List Char} (hcs : AllDigits cs) (h : EndsNonzero cs) :
    value cs % 10 ≠ 0 := by
  obtain ⟨init, last, rfl, hlast⟩ := h
  have hdigit := hcs last (List.mem_append_right _ List.mem_cons_self)
  have hlt := digit_lt_ten hdigit
  have hpos : last.toNat - '0'.toNat ≠ 0 := by
    intro hzero
    exact hlast (digit_inj hdigit rfl hzero)
  rw [value_concat]
  omega

theorem signed_mul (negative : Bool) (m n : Nat) :
    signed negative (m * n) = signed negative m * n := by
  cases negative with
  | false => exact Int.natCast_mul m n
  | true =>
      show -((m * n : Nat) : Int) = -(m : Int) * n
      rw [Int.natCast_mul, Int.neg_mul]

/-- Under one sign, numbers are known by their magnitudes. -/
theorem signed_inj (negative : Bool) {m n : Nat} (h : signed negative m = signed negative n) :
    m = n := by
  cases negative with
  | false => exact Int.natCast_inj.mp h
  | true => exact Int.natCast_inj.mp (Int.neg_inj.mp h)

/-- Two numbers put together from multiples of a third and remainders. -/
theorem split_eq {p a b c d : Nat} (hb : b < p) (hd : d < p) (h : a * p + b = c * p + d) :
    a = c ∧ b = d := by
  have hquotient := congrArg (· / p) h
  have hremainder := congrArg (· % p) h
  simp only [Nat.mul_comm _ p, Nat.mul_add_div (Nat.zero_lt_of_lt hb), Nat.div_eq_of_lt hb,
    Nat.div_eq_of_lt hd, Nat.add_zero] at hquotient
  simp only [Nat.mul_add_mod_self_right, Nat.mod_eq_of_lt hb, Nat.mod_eq_of_lt hd] at hremainder
  exact ⟨hquotient, hremainder⟩

/-- Leading zeros do not count. -/
theorem value_padded (width n : Nat) : value (padded width n) = n := by
  unfold padded
  rw [value_append, value_zeros, Nat.zero_mul, Nat.zero_add, value_ofNat]

/-- A number with at most so many digits is filled up to exactly so many. -/
theorem length_padded {width n : Nat} (hwidth : 0 < width) (h : n < 10 ^ width) :
    (padded width n).length = width := by
  have hlen : (ofNat n).length ≤ width := (Nat.length_toDigits_le_iff (by decide) hwidth).mpr h
  unfold padded
  rw [List.length_append, List.length_replicate]
  omega

/-- No zero stands before the other digits. -/
def Shortest (cs : List Char) : Prop := cs = ['0'] ∨ ∃ c rest, cs = c :: rest ∧ c ≠ '0'

/-- The first digit counts most. -/
theorem value_cons (c : Char) (cs : List Char) :
    value (c :: cs) = (c.toNat - '0'.toNat) * 10 ^ cs.length + value cs := by
  have hsplit := value_append [c] cs
  rw [show value [c] = c.toNat - '0'.toNat from Nat.zero_add _] at hsplit
  exact hsplit

/-- A number whose first digit is not zero has as many digits as its size demands. -/
theorem pow_le_value {c : Char} (cs : List Char) (hdigit : c.isDigit = true) (hc : c ≠ '0') :
    10 ^ cs.length ≤ value (c :: cs) := by
  have hpos : c.toNat - '0'.toNat ≠ 0 := fun hzero => hc (digit_inj hdigit rfl hzero)
  rw [value_cons]
  have hle := Nat.mul_le_mul_right (10 ^ cs.length) (Nat.one_le_iff_ne_zero.mpr hpos)
  omega

/-- The numeral of a number has no leading zeros. -/
theorem shortest_ofNat (n : Nat) : Shortest (ofNat n) := by
  cases h : ofNat n with
  | nil => exact absurd h (ofNat_ne_nil n)
  | cons c cs =>
      by_cases hc : c = '0'
      · -- without the zero the digits would suffice, so nothing can follow it
        refine Or.inl ?_
        subst hc
        have hdigits : AllDigits cs := fun d hd =>
          isDigit_of_mem_ofNat (n := n) (h ▸ List.mem_cons_of_mem _ hd)
        have hvalue : n = value cs := by
          rw [← value_ofNat n, h, value_cons, Nat.sub_self, Nat.zero_mul, Nat.zero_add]
        cases hcs : cs with
        | nil => rfl
        | cons d ds =>
            have hlen : (ofNat n).length ≤ cs.length := by
              refine (Nat.length_toDigits_le_iff (by decide) ?_).mpr ?_
              · rw [hcs]
                exact Nat.succ_pos _
              · rw [hvalue]
                exact value_lt hdigits
            rw [h, List.length_cons] at hlen
            omega
      · exact Or.inr ⟨c, cs, rfl, hc⟩

/-- Without leading zeros, a number has one list of digits. -/
theorem shortest_inj {xs ys : List Char} (hxs : AllDigits xs) (hys : AllDigits ys)
    (hx : Shortest xs) (hy : Shortest ys) (h : value xs = value ys) : xs = ys := by
  have hzero : ∀ {c : Char} {cs : List Char}, AllDigits (c :: cs) → c ≠ '0' →
      value ['0'] ≠ value (c :: cs) := by
    intro c cs hdigits hc heq
    have hle := pow_le_value cs (hdigits c List.mem_cons_self) hc
    rw [← heq] at hle
    exact absurd (Nat.lt_of_lt_of_le (Nat.pow_pos (by decide)) hle) (by decide)
  rcases hx with rfl | ⟨c, cs, rfl, hc⟩ <;> rcases hy with rfl | ⟨d, ds, rfl, hd⟩
  · rfl
  · exact absurd h (hzero hys hd)
  · exact absurd h.symm (hzero hxs hc)
  · -- each number is at least a power of ten that is too great for the other length
    have hcle := pow_le_value cs (hxs c List.mem_cons_self) hc
    have hdle := pow_le_value ds (hys d List.mem_cons_self) hd
    have hclt := value_lt hxs
    have hdlt := value_lt hys
    rw [h] at hcle hclt
    have h1 := (Nat.pow_lt_pow_iff_right (by decide)).mp (Nat.lt_of_le_of_lt hcle hdlt)
    have h2 := (Nat.pow_lt_pow_iff_right (by decide)).mp (Nat.lt_of_le_of_lt hdle hclt)
    rw [List.length_cons] at h1 h2
    exact value_inj hxs hys (by rw [List.length_cons, List.length_cons]; omega) h

/-- The digits at the start of a text, if no digit follows them. -/
theorem leading_append {whole rest : List Char} (hwhole : AllDigits whole)
    (hrest : ∀ c cs, rest = c :: cs → c.isDigit = false) :
    leading (whole ++ rest) = whole ∧ afterLeading (whole ++ rest) = rest := by
  have hafter : rest.takeWhile Char.isDigit = [] ∧ rest.dropWhile Char.isDigit = rest := by
    cases rest with
    | nil => exact ⟨rfl, rfl⟩
    | cons c cs =>
        have hc := hrest c cs rfl
        exact ⟨List.takeWhile_cons_of_neg (by rw [hc]; exact Bool.false_ne_true),
          List.dropWhile_cons_of_neg (by rw [hc]; exact Bool.false_ne_true)⟩
  unfold leading afterLeading
  rw [List.takeWhile_append_of_pos hwhole, List.dropWhile_append_of_pos hwhole, hafter.1, hafter.2,
    List.append_nil]
  exact ⟨rfl, rfl⟩

end SparqlScalar.Digits
