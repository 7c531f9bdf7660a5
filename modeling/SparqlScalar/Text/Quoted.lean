/-!
# Quoted text

A text between double quotes, in which quotes, backslashes and control characters are escaped:
seven of them by a letter or by themselves after a backslash, the others by four hexadecimal
digits. What is written has no bare control character and no bare quote.
-/

namespace SparqlScalar.Quoted

/-- The upper-case hexadecimal digit of a number below sixteen. -/
def hexDigit (n : Nat) : Char := if n < 10 then Char.ofNat (48 + n) else Char.ofNat (55 + n)

/-- The last four hexadecimal digits of a number. -/
def hexFour (n : Nat) : List Char :=
  [hexDigit (n / 4096 % 16), hexDigit (n / 256 % 16), hexDigit (n / 16 % 16), hexDigit (n % 16)]

/-- What stands for a character between quotes. -/
def escape (c : Char) : List Char :=
  if c.toNat = 8 then ['\\', 'b']
  else if c = '\t' then ['\\', 't']
  else if c = '\n' then ['\\', 'n']
  else if c.toNat = 12 then ['\\', 'f']
  else if c = '\r' then ['\\', 'r']
  else if c = '"' then ['\\', '"']
  else if c = '\\' then ['\\', '\\']
  else if c.toNat < 32 ∨ c.toNat = 127 then '\\' :: 'u' :: hexFour c.toNat
  else [c]

/-- The text between double quotes. -/
def quote (text : String) : String :=
  String.ofList ('"' :: text.toList.flatMap escape ++ ['"'])

end SparqlScalar.Quoted
