import SparqlScalar.Text.Digits
import SparqlScalar.Text.Hex
import SparqlScalar.Text.Split

/-!
# Addresses in brackets

The host of an IRI may be an address in brackets: one of version six, in groups of hexadecimal
digits of which a run may be left out and the last two may be written as an address of version
four, or one of a later version with its number.
-/

namespace SparqlScalar.Address

/-- A number below 256 in decimal digits, without leading zeros. -/
def isOctet (part : List Char) : Bool :=
  1 ≤ part.length && part.length ≤ 3 && part.all Char.isDigit && Digits.value part ≤ 255
    && (part.length == 1 || part.head? != some '0')

/-- An address of version four: four numbers with points between them. -/
def isVersionFour (text : List Char) : Bool :=
  let parts := splitOnMark '.' text
  parts.length == 4 && parts.all isOctet

/-- One to four hexadecimal digits. -/
def isGroup (part : List Char) : Bool :=
  1 ≤ part.length && part.length ≤ 4 && part.all Hex.isDigit

/-- The number of groups that colon-separated parts stand for, where an address of version four
stands for two groups and may come last if it is allowed. -/
def groupCount? (allowFour : Bool) : List (List Char) → Option Nat
  | [] => some 0
  | part :: rest =>
    if isGroup part then (groupCount? allowFour rest).map (· + 1)
    else if allowFour && rest.isEmpty && isVersionFour part then some 2
    else none

/-- The parts of a text between colons; no text has no parts. -/
def groups (text : List Char) : List (List Char) := if text = [] then [] else splitOnMark ':' text

/-- Splits a text at its first pair of colons. -/
def splitAtGap? : List Char → Option (List Char × List Char)
  | [] => none
  | ':' :: ':' :: rest => some ([], rest)
  | c :: rest => (splitAtGap? rest).map fun (before, after) => (c :: before, after)

/-- An address of version six: eight groups, or fewer with one gap that stands for at least one. -/
def isVersionSix (text : List Char) : Bool :=
  match splitAtGap? text with
  | none => groupCount? true (groups text) == some 8
  | some (before, after) =>
    match groupCount? false (groups before), groupCount? true (groups after) with
    | some m, some n => m + n ≤ 7
    | _, _ => false

/-- An address of a later version: the letter `v`, a hexadecimal version, a point, and characters
that satisfy a condition. -/
def isLaterVersion (allowed : Char → Bool) (text : List Char) : Bool :=
  match text with
  | c :: rest =>
    let version := rest.takeWhile Hex.isDigit
    match rest.dropWhile Hex.isDigit with
    | '.' :: address =>
      (c = 'v' || c = 'V') && !version.isEmpty && !address.isEmpty && address.all allowed
    | _ => false
  | [] => false

end SparqlScalar.Address
