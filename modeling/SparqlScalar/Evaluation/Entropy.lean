/-!
# Random numbers

A sequence of numbers of 128 bits that has no visible order. It is a function of a seed, so the same
seed gives the same sequence.
-/

namespace SparqlScalar.Entropy

/-- Mixes the bits of a word. -/
def mix (w : UInt64) : UInt64 :=
  let w := (w ^^^ (w >>> 30)) * 0xbf58476d1ce4e5b9
  let w := (w ^^^ (w >>> 27)) * 0x94d049bb133111eb
  w ^^^ (w >>> 31)

/-- A word of the sequence of a seed. -/
def word (seed : UInt64) (k : Nat) : UInt64 := mix (seed + UInt64.ofNat k * 0x9e3779b97f4a7c15)

/-- A number of the sequence of a seed, from two words. -/
def number (seed : UInt64) (k : Nat) : Nat :=
  (word seed (2 * k)).toNat * 0x10000000000000000 + (word seed (2 * k + 1)).toNat

theorem number_lt (seed : UInt64) (k : Nat) :
    number seed k < 0x100000000000000000000000000000000 := by
  have h₁ := (word seed (2 * k)).toNat_lt
  have h₂ := (word seed (2 * k + 1)).toNat_lt
  unfold number
  omega

end SparqlScalar.Entropy
