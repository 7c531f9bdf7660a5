/-!
# Decimal digits

Numerals over lists of characters: the number that a list of digits denotes, the shortest numeral
of a number, and the sign that may stand before one. Reading undoes writing (`value_ofNat`), and
what is written is a non-empty list of digits (`isDigit_of_mem_ofNat`, `ofNat_ne_nil`).
-/

namespace SparqlScalar.Digits

/-- The number denoted by decimal digits, most significant digit first. -/
def value (digits : List Char) : Nat := Nat.ofDigitChars 10 digits 0

/-- The decimal numeral of a number, without leading zeros. -/
def ofNat (n : Nat) : List Char := Nat.toDigits 10 n

/-- The decimal numeral of an integer, with a minus sign before a negative one. -/
def ofInt : Int → List Char
  | .ofNat n => ofNat n
  | .negSucc n => '-' :: ofNat (n + 1)

/-- The numeral of a number, filled up with leading zeros to at least `width` digits. -/
def padded (width n : Nat) : List Char :=
  List.replicate (width - (ofNat n).length) '0' ++ ofNat n

/-- Splits off a leading sign and says whether it was a minus. -/
def splitSign : List Char → Bool × List Char
  | '-' :: rest => (true, rest)
  | '+' :: rest => (false, rest)
  | text => (false, text)

/-- The integer of the given magnitude and sign. -/
def signed (negative : Bool) (magnitude : Nat) : Int :=
  if negative then -(magnitude : Int) else magnitude

/-- The digits a text starts with. -/
def leading (text : List Char) : List Char := text.takeWhile Char.isDigit

/-- What follows the digits a text starts with. -/
def afterLeading (text : List Char) : List Char := text.dropWhile Char.isDigit

/-- Drops the zeros at the end of a list of digits. -/
def dropTrailingZeros : List Char → List Char
  | [] => []
  | c :: cs =>
    match dropTrailingZeros cs with
    | [] => if c = '0' then [] else [c]
    | kept => c :: kept

/-- The integer written as an optional sign and one or more digits. -/
def parseInt? (text : List Char) : Option Int :=
  let (negative, digits) := splitSign text
  if digits.isEmpty || !digits.all Char.isDigit then none
  else some (signed negative (value digits))

theorem value_ofNat (n : Nat) : value (ofNat n) = n :=
  Nat.ofDigitChars_toDigits (by decide) (by decide)

theorem isDigit_of_mem_ofNat {n : Nat} {c : Char} (h : c ∈ ofNat n) : c.isDigit = true :=
  Nat.isDigit_of_mem_toDigits (by decide) (by decide) h

/-- A numeral that is filled up has digits only. -/
theorem isDigit_of_mem_padded {width n : Nat} {c : Char} (h : c ∈ padded width n) :
    c.isDigit = true := by
  rcases List.mem_append.1 h with hzero | hdigit
  · rw [List.eq_of_mem_replicate hzero]
    rfl
  · exact isDigit_of_mem_ofNat hdigit

theorem value_nil : value [] = 0 := by simp [value]

theorem ofNat_ne_nil (n : Nat) : ofNat n ≠ [] := by
  intro h
  have := Nat.toDigits_ne_nil (n := n) (b := 10)
  exact this h

theorem padded_ne_nil (width n : Nat) : padded width n ≠ [] := by
  intro h
  exact ofNat_ne_nil n (List.append_eq_nil_iff.1 h).2

theorem leading_append_afterLeading (text : List Char) :
    leading text ++ afterLeading text = text :=
  List.takeWhile_append_dropWhile

end SparqlScalar.Digits
