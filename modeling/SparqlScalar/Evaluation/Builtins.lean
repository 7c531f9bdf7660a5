import SparqlScalar.Evaluation.Environment
import SparqlScalar.Operator.Dates
import SparqlScalar.Operator.Digests
import SparqlScalar.Operator.Arithmetic
import SparqlScalar.Operator.Patterns
import SparqlScalar.Operator.Terms

/-!
# Applying built-in functions

What the built-in functions give for the terms of their arguments. Most give a value that depends on
the terms alone; some ask the context, make a blank node or draw a random number.
-/

namespace SparqlScalar

namespace Builtin

/-- Applies a function of one argument. -/
def unary (f : Term → EvalResult Term) : List Term → EvalResult Term
  | [a] => f a
  | _ => evaluationError .unsupportedUnaryArguments

/-- Applies a function of two arguments. -/
def binary (f : Term → Term → EvalResult Term) : List Term → EvalResult Term
  | [a, b] => f a b
  | _ => evaluationError .unsupportedBinaryArguments

/-- The refusal of a number of arguments. -/
def refuse (f : Builtin) (count : Nat) : EvalResult Term :=
  .error (.arity f.name f.arity.text count)

/-- The number in the unit interval that a random number stands for. -/
def unitInterval (n : Nat) : Double :=
  Binary.ofFraction false (n % 0x20000000000000) 0x20000000000000

/-- The text of the universally unique identifier, of the fourth version, of a random number. -/
def uuidText (n : Nat) : String :=
  let digits := BlankNode.hexNumeral 30 n
  let variant := BlankNode.hexNumeral 1 (8 + n / 0x1000000000000000000000000000000 % 4)
  let part (start length : Nat) : List Char := (digits.drop start).take length
  String.ofList
    (part 0 8 ++ '-' :: part 8 4 ++ '-' :: '4' :: part 12 3 ++ '-' :: variant ++ part 15 3
      ++ '-' :: part 18 12)

/-- What a function gives for terms, where it depends on nothing that changes. -/
def value (f : Builtin) (config : Config) (scope : Scope) (args : List Term) : EvalResult Term :=
  match f with
  | .isIri => unary isIriTerm args
  | .isBlank => unary isBlankTerm args
  | .isLiteral => unary isLiteralTerm args
  | .isNumeric => unary isNumericTerm args
  | .str => unary textOf args
  | .lang => unary languageOf args
  | .datatype => unary datatypeOf args
  | .iri => unary (iriOf scope.base) args
  | .strDt => binary withDatatype args
  | .strLang => binary withLanguage args
  | .sameTerm => binary sameTerms args
  | .strLen => unary lengthOf args
  | .subStr =>
    match args with
    | [text, start] => substringFrom text start
    | [text, start, length] => substringOf text start length
    | _ => f.refuse args.length
  | .uCase => unary upperCase args
  | .lCase => unary lowerCase args
  | .strStarts => binary startsWith args
  | .strEnds => binary endsWith args
  | .contains => binary SparqlScalar.contains args
  | .strBefore => binary textBefore args
  | .strAfter => binary textAfter args
  | .encodeForUri => unary SparqlScalar.encodeForUri args
  | .concat => SparqlScalar.concat args
  | .langMatches => binary languageMatches args
  | .regex =>
    match args with
    | [text, pattern] => matchesPattern config.patternSizeLimit text pattern
    | [text, pattern, flags] => matchesFlaggedPattern config.patternSizeLimit text pattern flags
    | _ => f.refuse args.length
  | .replace =>
    match args with
    | [text, pattern, replacement] =>
      replacePattern config.patternSizeLimit text pattern replacement
    | [text, pattern, replacement, flags] =>
      replaceFlaggedPattern config.patternSizeLimit text pattern replacement flags
    | _ => f.refuse args.length
  | .abs => unary magnitude args
  | .round => unary roundedOf args
  | .ceil => unary ceilingOf args
  | .floor => unary floorOf args
  | .now => .ok (Value.dateTime scope.now).toTerm
  | .year => unary yearOf args
  | .month => unary monthOf args
  | .day => unary dayOf args
  | .hours => unary hoursOf args
  | .minutes => unary minutesOf args
  | .seconds => unary secondsOf args
  | .timezone => unary timezoneOf args
  | .tz => unary zoneNameOf args
  | .md5 => unary md5Of args
  | .sha1 => unary sha1Of args
  | .sha256 => unary sha256Of args
  | .sha384 => unary sha384Of args
  | .sha512 => unary sha512Of args
  | .bnode | .uuid | .strUuid | .rand => f.refuse args.length

/-- Applies a function to the terms of its arguments. -/
def apply (f : Builtin) (env : Environment) (args : List Term) : Eval Term :=
  match f with
  | .bnode =>
    match args with
    | [] => return .blank (← Eval.request .own)
    | [.literal l] => return .blank (← Eval.request (.forLiteral env.context.cache l))
    | [_] => Eval.ofResult (typeError .blankNodeNeedsLiteral)
    | _ => Eval.ofResult (f.refuse args.length)
  | .uuid => return .iri ⟨"urn:uuid:" ++ uuidText (← Eval.draw env.entropy)⟩
  | .strUuid => return Term.simple (uuidText (← Eval.draw env.entropy))
  | .rand => return (Value.numeric (.double (unitInterval (← Eval.draw env.entropy)))).toTerm
  | f => Eval.ofResult (f.value env.config env.context.toScope args)

end Builtin

end SparqlScalar
