import SparqlScalar.Text.Property.Binary
import SparqlScalar.Text.Property.Category

/-!
# Text as it is shown

A text between double quotes, as it is shown to whoever wrote it. Quotes, backslashes and a few
control characters have a backslash before a letter or themselves; a character that cannot be told
by looking at it, such as an unusual blank or a mark that is drawn over the character before it, is
shown by its number.
-/

namespace SparqlScalar.Shown

/-- Whether a character is drawn by itself: it is the base of what is drawn, and the only blank
among these is the space. -/
def isPlain (c : Char) : Bool :=
  c == ' ' || (Property.within (Property.ranges Property.Has.graphemeBase) c.toNat
    && !Property.within (Property.ranges Property.Category.spaceSeparator) c.toNat)

/-- What stands for a character between quotes. -/
def escape (c : Char) : List Char :=
  if c.toNat = 0 then ['\\', '0']
  else if c = '\t' then ['\\', 't']
  else if c = '\n' then ['\\', 'n']
  else if c = '\r' then ['\\', 'r']
  else if c = '"' then ['\\', '"']
  else if c = '\\' then ['\\', '\\']
  else if isPlain c then [c]
  else '\\' :: 'u' :: '{' :: Nat.toDigits 16 c.toNat ++ ['}']

/-- The text between double quotes. -/
def quote (text : String) : String :=
  String.ofList ('"' :: text.toList.flatMap escape ++ ['"'])

end SparqlScalar.Shown
