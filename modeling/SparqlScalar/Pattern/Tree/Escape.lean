import SparqlScalar.Pattern.Tree.Basic
import SparqlScalar.Pattern.Tree.Blank
import SparqlScalar.Text.Hex
import SparqlScalar.Text.Split

/-!
# Escapes

What a backslash and the characters after it stand for: a character, a set of characters with a
name, or an assertion about a place. The readers here start after the backslash.
-/

namespace SparqlScalar.Pattern

/-- What an escape stands for. -/
inductive Atom where
  | char (c : Written)
  | letter (negated : Bool) (letter : LetterClass)
  | property (negated : Bool) (property : WrittenProperty)
  | assertion (assertion : Assertion)

namespace Atom

/-- A character that is given by one escape or stands for itself. -/
def plain (c : Char) : Atom := .char ⟨c, false⟩

/-- An atom as a part of a pattern. -/
def toTree : Atom → Tree
  | .char c => .char c
  | .letter negated kind => .letter negated kind
  | .property negated written => .property negated written
  | .assertion a => .assertion a

/-- An atom as a part of a class, where no assertion can be. -/
def toClass? : Atom → Option ClassTree
  | .char c => some (.char c)
  | .letter negated kind => some (.letter negated kind)
  | .property negated written => some (.property negated written)
  | .assertion _ => none

/-- The character of an atom that is one. -/
def char? : Atom → Option Written
  | .char c => some c
  | _ => none

end Atom

/-- The character with a code point in hexadecimal digits. -/
def charOfHex? (digits : List Char) : Option Char :=
  let n := Hex.value digits
  if digits ≠ [] ∧ n.isValidChar then some (Char.ofNat n) else none

/-- Reads a code point: a fixed number of hexadecimal digits, or any number of them in braces. -/
def readCodePoint (ignoring : Bool) (width : Nat) (text : List Char) : Option (Atom × List Char) :=
  match skip ignoring text with
  | '{' :: rest =>
    match gatherAll ignoring Hex.isDigit rest with
    | (digits, '}' :: after) => (charOfHex? digits).map fun c => (.plain c, after)
    | _ => none
  | text =>
    let (digits, after) := gather ignoring Hex.isDigit false width text
    if digits.length = width then
      (charOfHex? digits).map fun c => (.char ⟨c, width == 2⟩, after)
    else none

/-- A property as it stands in braces, and whether a different value is asked for. A value is set
off by an equals sign, perhaps with an exclamation mark before it, or by a colon. -/
def writtenProperty (text : List Char) : Bool × WrittenProperty :=
  let cut (mark : List Char) : Option WrittenProperty :=
    (splitAtFirst? mark text).map fun (name, value) => ⟨name, some value⟩
  match cut ['!', '='] with
  | some written => (true, written)
  | none => (false, ((cut [':']).or (cut ['='])).getD ⟨text, none⟩)

/-- Reads a property: one letter, or a name in braces. -/
def readProperty (ignoring negated : Bool) (text : List Char) : Option (Atom × List Char) :=
  match skip ignoring text with
  | [] => none
  | '{' :: rest =>
    match gatherAll ignoring (· != '}') rest with
    | (name, '}' :: after) =>
      let (differs, written) := writtenProperty name
      some (.property (negated != differs) written, after)
    | _ => none
  | '\\' :: _ => none
  | c :: rest => some (.property negated ⟨[c], none⟩, skip ignoring rest)

/-- Whether a character can be in the name of a word boundary. -/
def inBoundaryName (c : Char) : Bool := c.isAlpha || c == '-'

/-- Reads what follows the letter of a word boundary: nothing, or the name of a special one in
braces. Braces that start otherwise are left for a repetition. -/
def readBoundary (ignoring : Bool) (text : List Char) : Option (Atom × List Char) :=
  match text with
  | '{' :: rest =>
    match skip ignoring rest with
    | [] => none
    | c :: _ =>
      if inBoundaryName c then
        match gatherAll ignoring inBoundaryName rest with
        | (name, '}' :: after) =>
          ([("start", Assertion.wordStart), ("end", .wordEnd), ("start-half", .halfStart),
            ("end-half", .halfEnd)].lookup (String.ofList name)).map fun assertion =>
              (.assertion assertion, after)
        | _ => none
      else some (.assertion .wordBoundary, text)
  | _ => some (.assertion .wordBoundary, text)

/-- Whether an escaped character stands for itself: all of ASCII but letters, digits and angle
brackets. -/
def standsForItself (c : Char) : Bool :=
  c.toNat < 128 && !c.isAlphanum && c != '<' && c != '>'

/-- Reads an escape. -/
def readEscape (ignoring : Bool) : List Char → Option (Atom × List Char)
  | [] => none
  | c :: rest =>
    match c with
    | 'x' => readCodePoint ignoring 2 rest
    | 'u' => readCodePoint ignoring 4 rest
    | 'U' => readCodePoint ignoring 8 rest
    | 'p' => readProperty ignoring false rest
    | 'P' => readProperty ignoring true rest
    | 'd' => some (.letter false .digit, rest)
    | 'D' => some (.letter true .digit, rest)
    | 's' => some (.letter false .space, rest)
    | 'S' => some (.letter true .space, rest)
    | 'w' => some (.letter false .word, rest)
    | 'W' => some (.letter true .word, rest)
    | 'a' => some (.plain '\x07', rest)
    | 'f' => some (.plain '\x0c', rest)
    | 't' => some (.plain '\t', rest)
    | 'n' => some (.plain '\n', rest)
    | 'r' => some (.plain '\r', rest)
    | 'v' => some (.plain '\x0b', rest)
    | 'A' => some (.assertion .textStart, rest)
    | 'z' => some (.assertion .textEnd, rest)
    | 'b' => readBoundary ignoring rest
    | 'B' => some (.assertion .notWordBoundary, rest)
    | '<' => some (.assertion .wordStart, rest)
    | '>' => some (.assertion .wordEnd, rest)
    | c => if standsForItself c then some (.plain c, rest) else none

end SparqlScalar.Pattern
