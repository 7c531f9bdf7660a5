/-!
# Blank characters

The characters with the property `White_Space`, and texts without those at their ends.
-/

namespace SparqlScalar

/-- Whether a character has the property `White_Space`. -/
def isBlankChar (c : Char) : Bool :=
  let n := c.toNat
  (0x9 ≤ n && n ≤ 0xd) || n == 0x20 || n == 0x85 || n == 0xa0 || n == 0x1680
    || (0x2000 ≤ n && n ≤ 0x200a) || n == 0x2028 || n == 0x2029 || n == 0x202f || n == 0x205f
    || n == 0x3000

/-- A text without the blank characters at both ends. -/
def trimBlank (text : List Char) : List Char :=
  ((text.dropWhile isBlankChar).reverse.dropWhile isBlankChar).reverse

theorem isBlankChar_of_isWhitespace {c : Char} (h : c.isWhitespace = true) :
    isBlankChar c = true := by
  simp only [Char.isWhitespace, Bool.or_eq_true, decide_eq_true_eq] at h
  rcases h with ((rfl | rfl) | rfl) | rfl <;> decide

end SparqlScalar
