import SparqlScalar.Operator.Comparison
import SparqlScalar.Text.Blank
import SparqlScalar.Text.Case
import SparqlScalar.Text.Percent
import SparqlScalar.Text.Split

/-!
# Functions on strings

Positions and lengths count characters. A function of two texts asks that they be compatible: the
second has no language tag or that of the first. What is cut from a text keeps its tag.
-/

namespace SparqlScalar

/-- The term of a string. -/
def StringValue.toTerm (s : StringValue) : Term := .literal s.toLiteral

/-- The text of a string as characters. -/
def StringValue.chars (s : StringValue) : List Char := s.text.toList

/-- A string with other characters and the same tag. -/
def StringValue.withChars (s : StringValue) (chars : List Char) : StringValue :=
  ⟨String.ofList chars, s.tag⟩

/-- The number of characters. -/
def lengthOf (t : Term) : EvalResult Term := do
  let s ← t.string
  return .literal (Literal.ofInt s.length)

def upperCase (t : Term) : EvalResult Term := do
  let s ← t.string
  return (s.withChars (Case.toUpper s.chars)).toTerm

def lowerCase (t : Term) : EvalResult Term := do
  let s ← t.string
  return (s.withChars (Case.toLower s.chars)).toTerm

/-- One half. -/
def half : Double := Binary.ofFraction false 1 2

/-- The whole number nearest to a position, where halves go up, in double precision. -/
def roundPosition (n : Numeric) : Double := (n.toDouble.add half).floor

/-- Whether a place is not before a position. -/
def notBefore (place : Nat) (position : Double) : Bool :=
  ((Binary.ofInt place : Double).compare? position).any Ordering.isGE

/-- Whether a place is before a position. -/
def isBefore (place : Nat) (position : Double) : Bool :=
  ((Binary.ofInt place : Double).compare? position).any Ordering.isLT

/-- The characters at the places, counted from one, from the start on and before the end. -/
def selectPlaces (start : Double) (finish : Option Double) (chars : List Char) : List Char :=
  ((chars.zipIdx 1).filter fun (_, place) =>
    notBefore place start && finish.all (isBefore place)).map Prod.fst

/-- The part of a text from a position on. -/
def substringFrom (text start : Term) : EvalResult Term := do
  let s ← text.string
  let start ← start.numeric
  return (s.withChars (selectPlaces (roundPosition start) none s.chars)).toTerm

/-- The part of a text from a position on and of a length. -/
def substringOf (text start length : Term) : EvalResult Term := do
  let s ← text.string
  let start ← start.numeric
  let length ← length.numeric
  let first := roundPosition start
  return (s.withChars (selectPlaces first (some (first.add (roundPosition length))) s.chars)).toTerm

/-- Two strings of which the second has no tag or that of the first. -/
def compatible (left right : Term) : EvalResult (StringValue × StringValue) := do
  let a ← left.string
  let b ← right.string
  if b.tag = none ∨ a.tag = b.tag then return (a, b)
  else typeError (.incompatibleTags a.tag b.tag)

def startsWith (text start : Term) : EvalResult Term := do
  let (a, b) ← compatible text start
  return Term.ofBool (b.chars.isPrefixOf a.chars)

def endsWith (text ending : Term) : EvalResult Term := do
  let (a, b) ← compatible text ending
  return Term.ofBool (b.chars.isSuffixOf a.chars)

def contains (text needle : Term) : EvalResult Term := do
  let (a, b) ← compatible text needle
  return Term.ofBool (splitAtFirst? b.chars a.chars).isSome

/-- A part of a text around a needle, or the empty text where the needle does not occur. -/
def partAround (part : List Char × List Char → List Char) (text needle : Term) :
    EvalResult Term := do
  let (a, b) ← compatible text needle
  match splitAtFirst? b.chars a.chars with
  | some parts => return (a.withChars (part parts)).toTerm
  | none => return Term.simple ""

/-- The text before the first occurrence of a needle. -/
def textBefore (text needle : Term) : EvalResult Term := partAround Prod.fst text needle

/-- The text after the first occurrence of a needle. -/
def textAfter (text needle : Term) : EvalResult Term := partAround Prod.snd text needle

def encodeForUri (t : Term) : EvalResult Term := do
  let s ← t.string
  let encoded ← EvalResult.ofOption .malformed (Percent.encode? s.chars)
  return Term.simple encoded

/-- What the strings seen so far share: nothing is known before the first of them, and there is no
tag once one of them differs. -/
def joinTag (shared : Option (Option String)) (s : StringValue) : Option (Option String) :=
  match shared with
  | none => some s.tag
  | some tag => if tag = s.tag then some tag else some none

/-- The tag that all strings share; none share one with different tags or without. -/
def sharedTag (strings : List StringValue) : Option String := (strings.foldl joinTag none).join

/-- The texts one after another, with the tag that all of them share. -/
def concatenation (strings : List StringValue) : StringValue :=
  ⟨String.ofList (strings.flatMap StringValue.chars), sharedTag strings⟩

def concat (terms : List Term) : EvalResult Term := do
  let strings ← terms.mapM Term.string
  return (concatenation strings).toTerm

/-- Whether the subtags of a tag start with those of a range, in which an asterisk stands for any
subtag. -/
def subtagsMatch : List (List Char) → List (List Char) → Bool
  | [], _ => true
  | _ :: _, [] => false
  | range :: ranges, subtag :: subtags =>
    (range == ['*'] || range.map Char.toLower == subtag.map Char.toLower)
      && subtagsMatch ranges subtags

/-- Whether a language tag lies in a range; blanks around them do not count, and no tag at all
lies in no range. -/
def languageMatches (tag range : Term) : EvalResult Term := do
  let tag ← tag.simpleText
  let range ← range.simpleText
  let tag := trimBlank tag.toList
  let range := trimBlank range.toList
  return Term.ofBool
    (!tag.isEmpty && subtagsMatch (splitOnMark '-' range) (splitOnMark '-' tag))

end SparqlScalar
