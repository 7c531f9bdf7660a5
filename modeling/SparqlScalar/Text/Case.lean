import SparqlScalar.Text.CaseTable
import SparqlScalar.Text.Property.Binary
import SparqlScalar.Text.Property.Later
import SparqlScalar.Text.Property.Ranges

/-!
# Upper and lower case

The full case mappings of texts. One character may become several. The lower case of a capital
sigma depends on its place: at the end of a word it has a form of its own.
-/

namespace SparqlScalar.Case

/-- The counterpart of a code point in the first run that has it. -/
def shifted (runs : List Run) (n : Nat) : Nat :=
  match runs.find? fun r => r.first ≤ n && n ≤ r.last && (n - r.first) % r.step == 0 with
  | some r => ((n : Int) + r.shift).toNat
  | none => n

/-- The upper case of a character. -/
def upperChar (c : Char) : List Char :=
  let n := c.toNat
  if n < 128 then [c.toUpper]
  else
    match upperExpansions.lookup n with
    | some expansion => expansion.map Char.ofNat
    | none => [Char.ofNat (shifted upperRuns n)]

/-- The lower case of a character, whatever its place. -/
def lowerChar (c : Char) : List Char :=
  let n := c.toNat
  if n < 128 then [c.toLower]
  else if n = 0x130 then ['i', Char.ofNat 0x307]
  else [Char.ofNat (shifted lowerRuns n)]

/-- Whether a character has an upper or a lower case or is one. The letter `ʕ`, which once was taken
for a small one, is none. -/
def isCased (c : Char) : Bool :=
  c ≠ 'ʕ' && Property.within (Property.ranges (Property.Has.cased ++ Property.Later.cased)) c.toNat

/-- Whether a character does not count when the place of another one in its word is looked at. -/
def isIgnorable (c : Char) : Bool :=
  Property.within
    (Property.ranges (Property.Has.caseIgnorable ++ Property.Later.caseIgnorable)) c.toNat

/-- Whether, after characters that do not count, a cased one follows. -/
def casedFollows (text : List Char) : Bool :=
  match text.dropWhile isIgnorable with
  | c :: _ => isCased c
  | [] => false

/-- The lower case of a text, given the characters before it in reverse. -/
def lowerFrom (before : List Char) : List Char → List Char
  | [] => []
  | c :: rest =>
    (if c = 'Σ' then
      (if casedFollows before && !casedFollows rest then ['ς'] else ['σ'])
    else lowerChar c) ++ lowerFrom (c :: before) rest

/-- The lower case of a text. -/
def toLower (text : List Char) : List Char := lowerFrom [] text

/-- The upper case of a text. -/
def toUpper (text : List Char) : List Char := text.flatMap upperChar

end SparqlScalar.Case
