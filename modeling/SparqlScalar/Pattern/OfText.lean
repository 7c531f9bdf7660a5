import SparqlScalar.Pattern.Match
import SparqlScalar.Pattern.Size
import SparqlScalar.Pattern.Tree.OfText

/-!
# Programs of patterns

A pattern with its flags and a limit on its size has a program, or is refused. Letters that are no
flag are passed over.
-/

namespace SparqlScalar.Pattern

/-- The flags of the letters given with a pattern. -/
def flagsOfLetters (letters : List Char) : Flags :=
  let given := [('i', Flag.ignoreCase), ('m', .multiLine), ('s', .dotAll), ('x', .ignoreBlank)]
  .unicode :: (given.filter fun (letter, _) => letters.contains letter).map Prod.snd

/-- The characters that have a backslash before them in an escaped text. -/
def metaCharacters : List Char :=
  ['\\', '.', '+', '*', '?', '(', ')', '|', '[', ']', '{', '}', '^', '$', '#', '&', '-', '~']

/-- A character as it is escaped. -/
def escapeChar (c : Char) : List Char := if c ∈ metaCharacters then ['\\', c] else [c]

/-- A text as it is escaped. -/
def escape (text : List Char) : List Char := text.flatMap escapeChar

/-- The pattern that is compiled: under the letter `q` the escaped text. -/
def compiledText (letters text : List Char) : List Char :=
  if letters.contains 'q' then escape text else text

/-- A text as the pattern of itself. Where blanks are ignored it has none. -/
def Tree.ofLiteral (ignoring : Bool) (text : List Char) : Tree :=
  Tree.ofItems ((text.filter fun c => !(ignoring && isBlankChar c)).map fun c => .char ⟨c, false⟩)

/-- The tree of a pattern with the letters given with it: under the letter `q` the pattern is a text
that stands for itself. -/
def Tree.ofPattern? (letters text : List Char) : Option Tree :=
  let ignoring := letters.contains 'x'
  if letters.contains 'q' then some (Tree.ofLiteral ignoring text)
  else Tree.ofText? ignoring text

/-- The program of a pattern with the letters given with it, if its size is within a limit. -/
def Program.ofPattern? (letters : List Char) (limit : Nat) (text : List Char) : Option Program := do
  let tree ← Tree.ofPattern? letters text
  let (r, scope) ← Regex.ofTree? tree ⟨flagsOfLetters letters, 0⟩
  if r.fits limit then return Program.ofRegex r scope.groups else none

/-- The limit on the size of a pattern in bytes where no other is set. -/
def defaultSizeLimit : Nat := 1000000

end SparqlScalar.Pattern
