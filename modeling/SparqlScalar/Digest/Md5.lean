import SparqlScalar.Digest.Block

/-!
# The MD5 digest

Sixty-four rounds over each block of sixteen words of 32 bits, least byte first.
-/

namespace SparqlScalar.Digest.Md5

/-- The four words between two rounds. -/
structure State where
  a : UInt32
  b : UInt32
  c : UInt32
  d : UInt32

def initial : State := ⟨0x67452301, 0xefcdab89, 0x98badcfe, 0x10325476⟩

/-- What is added in each round. -/
def constants : List UInt32 :=
  [0xd76aa478, 0xe8c7b756, 0x242070db, 0xc1bdceee, 0xf57c0faf, 0x4787c62a,
    0xa8304613, 0xfd469501, 0x698098d8, 0x8b44f7af, 0xffff5bb1, 0x895cd7be,
    0x6b901122, 0xfd987193, 0xa679438e, 0x49b40821, 0xf61e2562, 0xc040b340,
    0x265e5a51, 0xe9b6c7aa, 0xd62f105d, 0x02441453, 0xd8a1e681, 0xe7d3fbc8,
    0x21e1cde6, 0xc33707d6, 0xf4d50d87, 0x455a14ed, 0xa9e3e905, 0xfcefa3f8,
    0x676f02d9, 0x8d2a4c8a, 0xfffa3942, 0x8771f681, 0x6d9d6122, 0xfde5380c,
    0xa4beea44, 0x4bdecfa9, 0xf6bb4b60, 0xbebfbc70, 0x289b7ec6, 0xeaa127fa,
    0xd4ef3085, 0x04881d05, 0xd9d4d039, 0xe6db99e5, 0x1fa27cf8, 0xc4ac5665,
    0xf4292244, 0x432aff97, 0xab9423a7, 0xfc93a039, 0x655b59c3, 0x8f0ccc92,
    0xffeff47d, 0x85845dd1, 0x6fa87e4f, 0xfe2ce6e0, 0xa3014314, 0x4e0811a1,
    0xf7537e82, 0xbd3af235, 0x2ad7d2bb, 0xeb86d391]

/-- By how many bits each round turns its word: four amounts in turn for every sixteen rounds. -/
def turns (round : Nat) : UInt32 :=
  let row : List UInt32 :=
    match round / 16 with
    | 0 => [7, 12, 17, 22]
    | 1 => [5, 9, 14, 20]
    | 2 => [4, 11, 16, 23]
    | _ => [6, 10, 15, 21]
  row.getD (round % 4) 0

def rotateLeft (x n : UInt32) : UInt32 := (x <<< n) ||| (x >>> (32 - n))

/-- The mixing function of a round and the word of the block that it takes. -/
def mix (s : State) (round : Nat) : UInt32 × Nat :=
  match round / 16 with
  | 0 => ((s.b &&& s.c) ||| (~~~s.b &&& s.d), round)
  | 1 => ((s.d &&& s.b) ||| (~~~s.d &&& s.c), (5 * round + 1) % 16)
  | 2 => (s.b ^^^ s.c ^^^ s.d, (3 * round + 5) % 16)
  | _ => (s.c ^^^ (s.b ||| ~~~s.d), (7 * round) % 16)

def step (block : Array UInt32) (s : State) (round : Nat × UInt32) : State :=
  let (f, word) := mix s round.1
  let sum := s.a + f + round.2 + block.getD word 0
  ⟨s.d, s.b + rotateLeft sum (turns round.1), s.b, s.c⟩

/-- Adds what the rounds over a block leave to what was there before. -/
def absorb (s : State) (block : List Nat) : State :=
  let words := (block.map UInt32.ofNat).toArray
  let t := ((List.range 64).zip constants).foldl (step words) s
  ⟨s.a + t.a, s.b + t.b, s.c + t.c, s.d + t.d⟩

/-- The sixteen bytes of the digest. -/
def digest (message : List UInt8) : List UInt8 :=
  let s := (blocks .littleEndian 4 8 message).foldl absorb initial
  [s.a, s.b, s.c, s.d].flatMap fun word => bytesOf .littleEndian 4 word.toNat

end SparqlScalar.Digest.Md5
