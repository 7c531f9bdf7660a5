import SparqlScalar.Digest.Block

/-!
# The SHA-1 digest

Eighty rounds over each block, whose sixteen words of 32 bits are stretched to eighty.
-/

namespace SparqlScalar.Digest.Sha1

/-- The five words between two rounds. -/
structure State where
  a : UInt32
  b : UInt32
  c : UInt32
  d : UInt32
  e : UInt32

def initial : State := ⟨0x67452301, 0xefcdab89, 0x98badcfe, 0x10325476, 0xc3d2e1f0⟩

def rotateLeft (x n : UInt32) : UInt32 := (x <<< n) ||| (x >>> (32 - n))

/-- Appends as many further words, each from four earlier ones. -/
def stretch : Nat → Array UInt32 → Array UInt32
  | 0, words => words
  | count + 1, words =>
    let n := words.size
    let mixed :=
      words.getD (n - 3) 0 ^^^ words.getD (n - 8) 0 ^^^ words.getD (n - 14) 0
        ^^^ words.getD (n - 16) 0
    stretch count (words.push (rotateLeft mixed 1))

/-- The mixing function and the constant of a round. -/
def mix (s : State) (round : Nat) : UInt32 × UInt32 :=
  match round / 20 with
  | 0 => ((s.b &&& s.c) ||| (~~~s.b &&& s.d), 0x5a827999)
  | 1 => (s.b ^^^ s.c ^^^ s.d, 0x6ed9eba1)
  | 2 => ((s.b &&& s.c) ||| (s.b &&& s.d) ||| (s.c &&& s.d), 0x8f1bbcdc)
  | _ => (s.b ^^^ s.c ^^^ s.d, 0xca62c1d6)

def step (words : Array UInt32) (s : State) (round : Nat) : State :=
  let (f, constant) := mix s round
  let sum := rotateLeft s.a 5 + f + s.e + constant + words.getD round 0
  ⟨sum, s.a, rotateLeft s.b 30, s.c, s.d⟩

/-- Adds what the rounds over a block leave to what was there before. -/
def absorb (s : State) (block : List Nat) : State :=
  let words := stretch 64 (block.map UInt32.ofNat).toArray
  let t := (List.range 80).foldl (step words) s
  ⟨s.a + t.a, s.b + t.b, s.c + t.c, s.d + t.d, s.e + t.e⟩

/-- The twenty bytes of the digest. -/
def digest (message : List UInt8) : List UInt8 :=
  let s := (blocks .bigEndian 4 8 message).foldl absorb initial
  [s.a, s.b, s.c, s.d, s.e].flatMap fun word => bytesOf .bigEndian 4 word.toNat

end SparqlScalar.Digest.Sha1
