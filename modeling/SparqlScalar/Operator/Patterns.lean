import SparqlScalar.Operator.Strings
import SparqlScalar.Pattern.OfText
import SparqlScalar.Pattern.Replacement

/-!
# Functions on patterns

Whether a pattern matches in a text, and a text with all matches of a pattern replaced. Both take
the pattern with its flags and fail for the same patterns.
-/

namespace SparqlScalar

/-- The program of a pattern with its flags. A refusal shows the pattern as it is compiled, under
the letter `q` with its backslashes. -/
def patternProgram (limit : Nat) (pattern flags : String) : EvalResult Pattern.Program :=
  EvalResult.ofOption
    (.invalidPattern (String.ofList (Pattern.compiledText flags.toList pattern.toList)))
    (Pattern.Program.ofPattern? flags.toList limit pattern.toList)

/-- Whether a pattern matches in a text. -/
def matchesPattern (limit : Nat) (text pattern : Term) : EvalResult Term := do
  let s ← text.string
  let pattern ← pattern.simpleText
  let program ← patternProgram limit pattern ""
  return .literal (Literal.ofBool (program.isMatch s.chars))

/-- Whether a pattern with flags matches in a text. -/
def matchesFlaggedPattern (limit : Nat) (text pattern flags : Term) : EvalResult Term := do
  let s ← text.string
  let pattern ← pattern.simpleText
  let flags ← flags.simpleText
  let program ← patternProgram limit pattern flags
  return .literal (Literal.ofBool (program.isMatch s.chars))

/-- A string with all matches of a pattern replaced. -/
def StringValue.replaceAll (s : StringValue) (program : Pattern.Program) (replacement : String) :
    StringValue :=
  s.withChars (program.replaceAll (Pattern.Replacement.apply replacement.toList) s.chars)

/-- A text with all matches of a pattern replaced. -/
def replacePattern (limit : Nat) (text pattern replacement : Term) : EvalResult Term := do
  let s ← text.string
  let pattern ← pattern.simpleText
  let replacement ← replacement.simpleText
  let program ← patternProgram limit pattern ""
  return (s.replaceAll program replacement).toTerm

/-- A text with all matches of a pattern with flags replaced. -/
def replaceFlaggedPattern (limit : Nat) (text pattern replacement flags : Term) :
    EvalResult Term := do
  let s ← text.string
  let pattern ← pattern.simpleText
  let replacement ← replacement.simpleText
  let flags ← flags.simpleText
  let program ← patternProgram limit pattern flags
  return (s.replaceAll program replacement).toTerm

end SparqlScalar
