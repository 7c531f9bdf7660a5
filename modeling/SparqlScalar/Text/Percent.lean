import SparqlScalar.Text.Utf8

/-!
# Percent encoding

Every byte of a text that is not an unreserved character is written as a percent sign and two
upper-case hexadecimal digits. What is written are bytes, and they are read as a text again.
-/

namespace SparqlScalar.Percent

/-- Letters, digits and four marks, as bytes. -/
def isUnreserved (b : UInt8) : Bool :=
  (65 ≤ b && b ≤ 90) || (97 ≤ b && b ≤ 122) || (48 ≤ b && b ≤ 57)
    || b == 45 || b == 95 || b == 46 || b == 126

/-- The upper-case hexadecimal digit of a number below sixteen, as a byte. -/
def digit (n : UInt8) : UInt8 := if n < 10 then 48 + n else 65 + (n - 10)

/-- What is written for a byte. -/
def encodeByte (b : UInt8) : List UInt8 :=
  if isUnreserved b then [b] else [37, digit (b / 16), digit (b % 16)]

/-- What is written for the bytes of a text. -/
def encodeBytes (bytes : List UInt8) : List UInt8 := bytes.flatMap encodeByte

/-- The encoding of a text, if what is written is one. -/
def encode? (text : List Char) : Option String := Utf8.decode? (encodeBytes (Utf8.bytes text))

end SparqlScalar.Percent
