import SparqlScalar.Text.Blank
import SparqlScalar.Text.Digits

/-!
# Blanks in patterns

A pattern can be told to ignore blanks, and comments from a number sign to the end of the line. They
then do not count between its parts, nor inside of numbers and names.
-/

namespace SparqlScalar.Pattern

/-- A text without the blanks and comments that it starts with. -/
def afterBlank (inComment : Bool) : List Char → List Char
  | [] => []
  | c :: rest =>
    if inComment then afterBlank (c != '\n') rest
    else if c = '#' then afterBlank true rest
    else if isBlankChar c then afterBlank false rest
    else c :: rest

/-- A text from the first character that counts. -/
def skip (ignoring : Bool) (text : List Char) : List Char :=
  if ignoring then afterBlank false text else text

/-- The characters of one kind that a text starts with, up to a number of them, and the rest of the
text from the next character that counts. -/
def gather (ignoring : Bool) (kind : Char → Bool) (inComment : Bool) :
    Nat → List Char → List Char × List Char
  | _, [] => ([], [])
  | atMost, c :: rest =>
    if inComment then gather ignoring kind (c != '\n') atMost rest
    else if ignoring && c == '#' then gather ignoring kind true atMost rest
    else if ignoring && isBlankChar c then gather ignoring kind false atMost rest
    else
      match atMost with
      | 0 => ([], c :: rest)
      | more + 1 =>
        if kind c then
          let (found, after) := gather ignoring kind false more rest
          (c :: found, after)
        else ([], c :: rest)

/-- All characters of one kind that a text starts with, and the rest. -/
def gatherAll (ignoring : Bool) (kind : Char → Bool) (text : List Char) :
    List Char × List Char :=
  gather ignoring kind false text.length text

/-- The largest number of repetitions that can be written. -/
def countLimit : Nat := 0x100000000

/-- The number that a text starts with, if it can be written there, and the rest. Blanks around the
number never count. -/
def readCount (ignoring : Bool) (text : List Char) : Option Nat × List Char :=
  let (digits, rest) :=
    gatherAll ignoring Char.isDigit ((skip ignoring text).dropWhile isBlankChar)
  let n := Digits.value digits
  (if digits = [] ∨ countLimit ≤ n then none else some n, rest.dropWhile isBlankChar)

/-- The least and the greatest number of repetitions, as they stand between braces of which the
first is already read. -/
def readBounds (ignoring : Bool) (text : List Char) :
    Option ((Nat × Option Nat) × List Char) :=
  match readCount ignoring text with
  | (some least, '}' :: rest) => some ((least, some least), rest)
  | (some least, ',' :: rest) =>
    match skip ignoring rest with
    | '}' :: rest => some ((least, none), rest)
    | more =>
      match readCount ignoring more with
      | (some most, '}' :: rest) => if least ≤ most then some ((least, some most), rest) else none
      | _ => none
  | _ => none

end SparqlScalar.Pattern
