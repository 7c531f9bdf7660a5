import SparqlScalar.Text.Hex
import SparqlScalar.Text.Split

/-!
# Ranges of characters

A property is written as lines of ranges of hexadecimal code points with spaces between them.
Reading it gives pairs of bounds, which are ordered and do not meet.
-/

namespace SparqlScalar.Property

/-- Code points from the first to the second, both included. -/
abbrev Ranges := List (Nat × Nat)

/-- Reads one range: two bounds with a hyphen between them, or one code point. -/
def readRange (digits : List Char) : Nat × Nat :=
  let low := Hex.value (digits.takeWhile (· ≠ '-'))
  match digits.dropWhile (· ≠ '-') with
  | [] => (low, low)
  | _ :: high => (low, Hex.value high)

/-- Reads the ranges on the lines of a table. -/
def ranges (table : List String) : Ranges :=
  table.flatMap fun line => (splitOnMark ' ' line.toList).map readRange

/-- A table of ranges and the names that it is looked up by. -/
structure Entry where
  names : List String
  table : List String

/-- The table of a name. -/
def Entry.find? (entries : List Entry) (name : String) : Option (List String) :=
  (entries.find? fun entry => entry.names.contains name).map Entry.table

/-- Whether a code point lies in one of the ranges. -/
def within (ranges : Ranges) (n : Nat) : Bool := ranges.any fun (low, high) => low ≤ n && n ≤ high

end SparqlScalar.Property
