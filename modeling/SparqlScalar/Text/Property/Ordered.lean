import SparqlScalar.Text.Property.Ranges

/-!
# Ranges in order

Ranges in the order of their bounds that neither meet nor touch are the one way to write a set of
characters. The surrogates, which are no characters, are passed over where a bound is moved by one,
and they keep ranges on both sides of them apart. A set has the same characters in order as it had
before (`within_ordered`).
-/

namespace SparqlScalar.Property

/-- A range and ranges that start after it, where those that meet or touch are made one. -/
def joinFrom (current : Nat × Nat) : Ranges → Ranges
  | [] => [current]
  | next :: rest =>
    if next.1 ≤ current.2 + 1 then joinFrom (current.1, max current.2 next.2) rest
    else current :: joinFrom next rest

/-- Ranges in the order of their lower bounds, where those that meet or touch are made one. -/
def join : Ranges → Ranges
  | [] => []
  | first :: rest => joinFrom first rest

/-- Ranges in order. -/
def ordered (ranges : Ranges) : Ranges := join (ranges.mergeSort fun a b => a.1 ≤ b.1)

/-- The last character there is. -/
def lastCodePoint : Nat := 0x10ffff

/-- The character after another one. -/
def next (n : Nat) : Nat := if n = 0xd7ff then 0xe000 else n + 1

/-- The character before another one. -/
def previous (n : Nat) : Nat := if n = 0xe000 then 0xd7ff else n - 1

/-- What lies between ranges in order that start after a character, as pairs of bounds. Nothing lies
between ranges on both sides of the surrogates, and there the bounds are in the wrong order. -/
def gapsAfter (last : Nat) : Ranges → Ranges
  | [] => if last < lastCodePoint then [(next last, lastCodePoint)] else []
  | (low, high) :: rest => (next last, previous low) :: gapsAfter high rest

/-- What lies before, between and after ranges in order, as pairs of bounds. -/
def gaps : Ranges → Ranges
  | [] => [(0, lastCodePoint)]
  | (low, high) :: rest => (if 0 < low then [(0, previous low)] else []) ++ gapsAfter high rest

/-- The ranges that are left out by ranges in order. Bounds in the wrong order stand for the range
that they have in the right order. -/
def complement (ranges : Ranges) : Ranges :=
  (gaps ranges).map fun (low, high) => (min low high, max low high)

/-- What ranges in order have in common. -/
def meet (left right : Ranges) : Ranges :=
  left.flatMap fun (low, high) =>
    (right.map fun (low', high') => (max low low', min high high')).filter fun (low, high) =>
      low ≤ high

/-- What the first of two lists of ranges in order has and the second has not. -/
def difference (left right : Ranges) : Ranges :=
  meet left ((gaps right).filter fun (low, high) => low ≤ high)

/-- How many code points ranges in order have. -/
def count (ranges : Ranges) : Nat :=
  ranges.foldl (fun total (low, high) => total + (high + 1 - low)) 0

theorem within_joinFrom (n : Nat) (ranges : Ranges) :
    ∀ current : Nat × Nat, (∀ r ∈ ranges, current.1 ≤ r.1) →
      (ranges.Pairwise fun a b => a.1 ≤ b.1) →
      within (joinFrom current ranges) n = within (current :: ranges) n := by
  induction ranges with
  | nil => intro current _ _; rfl
  | cons next rest ih =>
    intro current hle hsorted
    obtain ⟨hnext, hrest⟩ := List.pairwise_cons.1 hsorted
    have hcurrent : current.1 ≤ next.1 := hle next List.mem_cons_self
    simp only [joinFrom]
    split
    · rename_i htouch
      rw [ih (current.1, max current.2 next.2)
        (fun r hr => hle r (List.mem_cons_of_mem _ hr)) hrest]
      simp only [within, List.any_cons]
      rw [← Bool.or_assoc]
      congr 1
      rw [Bool.eq_iff_iff]
      simp only [Bool.and_eq_true, Bool.or_eq_true, decide_eq_true_eq]
      omega
    · have hrec := ih next hnext hrest
      simp only [within, List.any_cons] at hrec ⊢
      rw [hrec]

theorem within_ordered (n : Nat) (ranges : Ranges) :
    within (ordered ranges) n = within ranges n := by
  have hperm := List.mergeSort_perm ranges fun a b => decide (a.1 ≤ b.1)
  have hsorted := @List.pairwise_mergeSort _ (fun a b : Nat × Nat => decide (a.1 ≤ b.1))
    (by intro a b c; simp only [decide_eq_true_eq]; omega)
    (by intro a b; simp only [Bool.or_eq_true, decide_eq_true_eq]; omega) ranges
  have hsorted' : (ranges.mergeSort fun a b => decide (a.1 ≤ b.1)).Pairwise
      fun a b => a.1 ≤ b.1 :=
    hsorted.imp fun h => of_decide_eq_true h
  rw [ordered]
  rw [show within ranges n = within (ranges.mergeSort fun a b => decide (a.1 ≤ b.1)) n from
    (hperm.any_eq).symm]
  generalize (ranges.mergeSort fun a b => decide (a.1 ≤ b.1)) = sorted at hsorted'
  cases sorted with
  | nil => rfl
  | cons first rest =>
    obtain ⟨hfirst, hrest⟩ := List.pairwise_cons.1 hsorted'
    exact within_joinFrom n rest first hfirst hrest

end SparqlScalar.Property
