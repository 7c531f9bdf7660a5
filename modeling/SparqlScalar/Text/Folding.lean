import SparqlScalar.Text.CaseTable
import SparqlScalar.Text.Property.Ordered

/-!
# Characters alike but for case

Every character has one that stands for all those that differ from it in case only. Two characters
are alike when the same one stands for both.
-/

namespace SparqlScalar.Case

/-- The code points of a run, each with the one that it is sent to. -/
def Run.pairs (r : Run) : List (Nat × Nat) :=
  (List.range ((r.last - r.first) / r.step + 1)).map fun i =>
    let n := r.first + i * r.step
    (n, ((n : Int) + r.shift).toNat)

/-- The code point that a run sends the given one to. -/
def Run.target? (r : Run) (n : Nat) : Option Nat :=
  if r.first ≤ n && n ≤ r.last && (n - r.first) % r.step == 0 then
    some ((n : Int) + r.shift).toNat
  else none

/-- The code point that a run sends to the given one. -/
def Run.source? (r : Run) (target : Nat) : Option Nat :=
  let n := ((target : Int) - r.shift).toNat
  if r.first ≤ n && n ≤ r.last && (n - r.first) % r.step == 0 then some n else none

/-- The code point that stands for all that are alike. -/
def representative (n : Nat) : Nat := (foldRuns.findSome? (Run.target? · n)).getD n

/-- The characters that are like the given one, itself included. -/
def alike (c : Char) : List Char :=
  let n := representative c.toNat
  (n :: foldRuns.filterMap (Run.source? · n)).map Char.ofNat

/-- All code points for which another one stands, each with that one. -/
def represented : List (Nat × Nat) := foldRuns.flatMap Run.pairs

/-- All code points like one in ranges in order, as ranges in order. -/
def closure (ranges : Property.Ranges) : Property.Ranges :=
  let standing := (represented.filter fun (n, _) => Property.within ranges n).map Prod.snd
  let chosen := Property.ordered (ranges ++ standing.map fun n => (n, n))
  let standingFor := (represented.filter fun (_, n) => Property.within chosen n).map Prod.fst
  Property.ordered (chosen ++ standingFor.map fun n => (n, n))

/-- The ASCII letters like the given character, and itself. -/
def alikeAscii (c : Char) : List Char := if c.toNat < 128 then [c.toLower, c.toUpper, c] else [c]

/-- All code points like one in ranges in order but for the case of ASCII letters, as ranges in
order. -/
def closureAscii (ranges : Property.Ranges) : Property.Ranges :=
  let moved (low high : Nat) (shift : Nat → Nat) : Property.Ranges :=
    (Property.meet ranges [(low, high)]).map fun (low, high) => (shift low, shift high)
  Property.ordered (ranges ++ moved 65 90 (· + 32) ++ moved 97 122 (· - 32))

end SparqlScalar.Case
