import SparqlScalar.Text.Folding

/-!
# Sets of characters

A set of characters is given by ranges of code points in order, so that equal sets are written
equally. Each way to make a set says which characters it has.
-/

namespace SparqlScalar.Pattern

/-- A set of characters, as ranges in order. -/
structure CharSet where
  ranges : Property.Ranges
deriving DecidableEq, Repr

namespace CharSet

/-- The characters in ranges that may be in any order. -/
def ofRanges (ranges : Property.Ranges) : CharSet := ⟨Property.ordered ranges⟩

/-- The set without characters. -/
def empty : CharSet := ⟨[]⟩

/-- The set of all characters. -/
def all : CharSet := ⟨[(0, Property.lastCodePoint)]⟩

/-- The set of one character. -/
def single (c : Char) : CharSet := ⟨[(c.toNat, c.toNat)]⟩

/-- The characters from one to another, both included. -/
def between (low high : Char) : CharSet := ⟨[(low.toNat, high.toNat)]⟩

/-- The set of some characters. -/
def ofList (chars : List Char) : CharSet := ofRanges (chars.map fun c => (c.toNat, c.toNat))

/-- The characters in one set or the other. -/
def union (left right : CharSet) : CharSet := ofRanges (left.ranges ++ right.ranges)

/-- The characters in both sets. -/
def meet (left right : CharSet) : CharSet := ⟨Property.meet left.ranges right.ranges⟩

/-- The characters of the first set that are not in the second. -/
def difference (left right : CharSet) : CharSet := ⟨Property.difference left.ranges right.ranges⟩

/-- The characters in exactly one of two sets. -/
def symmetricDifference (left right : CharSet) : CharSet :=
  difference (union left right) (meet left right)

/-- The characters that are not in a set. -/
def complement (s : CharSet) : CharSet := ⟨Property.complement s.ranges⟩

/-- The complement where asked for. -/
def complementIf (condition : Bool) (s : CharSet) : CharSet :=
  if condition then complement s else s

/-- All characters that are like a member but for their case. -/
def folded (s : CharSet) : CharSet := ⟨Case.closure s.ranges⟩

/-- The same, with cases for ASCII letters only. -/
def foldedAscii (s : CharSet) : CharSet := ⟨Case.closureAscii s.ranges⟩

/-- Whether a character is in the set. -/
def contains (s : CharSet) (c : Char) : Bool := Property.within s.ranges c.toNat

theorem contains_empty (c : Char) : empty.contains c = false := rfl

theorem contains_single (a c : Char) : (single a).contains c = decide (a = c) := by
  simp only [single, contains, Property.within, List.any_cons, List.any_nil, Bool.or_false]
  rw [Bool.eq_iff_iff, Bool.and_eq_true, decide_eq_true_iff, decide_eq_true_iff,
    decide_eq_true_iff]
  refine ⟨fun h => ?_, fun h => h ▸ ⟨Nat.le_refl _, Nat.le_refl _⟩⟩
  exact Char.ext (UInt32.toNat_inj.1 (Nat.le_antisymm h.1 h.2))

theorem contains_ofRanges (ranges : Property.Ranges) (c : Char) :
    (ofRanges ranges).contains c = Property.within ranges c.toNat :=
  Property.within_ordered c.toNat ranges

theorem contains_union (s t : CharSet) (c : Char) :
    (s.union t).contains c = (s.contains c || t.contains c) := by
  rw [union, contains_ofRanges, Property.within, List.any_append]
  rfl

/-- The only member of a set that has just one. -/
def only? (s : CharSet) : Option Char :=
  match s.ranges with
  | [(low, high)] => if low = high then some (Char.ofNat low) else none
  | _ => none

/-- The members of a set if they are at most a number. -/
def few? (s : CharSet) (limit : Nat) : Option (List Char) :=
  if Property.count s.ranges ≤ limit then
    some (s.ranges.flatMap fun (low, high) => (List.range' low (high + 1 - low)).map Char.ofNat)
  else none

/-- Whether all members are ASCII characters. -/
def isAscii (s : CharSet) : Bool := s.ranges.all fun (_, high) => high < 128

end CharSet

end SparqlScalar.Pattern
