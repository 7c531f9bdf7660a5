/-!
# Messages in blocks

A message is filled up with a one bit, zeros and its length to whole blocks, which are cut into
words. A digest is written in lower-case hexadecimal digits.
-/

namespace SparqlScalar.Digest

/-- Which byte of a word comes first. -/
inductive ByteOrder where
  | bigEndian
  | littleEndian
deriving DecidableEq

/-- The last `count` bytes of a number, the least one last. -/
def bigEndianBytes : Nat → Nat → List UInt8
  | 0, _ => []
  | count + 1, n => bigEndianBytes count (n / 256) ++ [UInt8.ofNat n]

/-- The last `count` bytes of a number. -/
def bytesOf (order : ByteOrder) (count n : Nat) : List UInt8 :=
  match order with
  | .bigEndian => bigEndianBytes count n
  | .littleEndian => (bigEndianBytes count n).reverse

/-- The number that bytes stand for. -/
def numberOf (order : ByteOrder) (bytes : List UInt8) : Nat :=
  let ordered :=
    match order with
    | .bigEndian => bytes
    | .littleEndian => bytes.reverse
  ordered.foldl (fun n b => 256 * n + b.toNat) 0

/-- The message filled up to whole blocks; the length in bits takes the last bytes. -/
def fill (order : ByteOrder) (blockSize lengthSize : Nat) (message : List UInt8) : List UInt8 :=
  let used := message.length + 1 + lengthSize
  let zeros := (blockSize - used % blockSize) % blockSize
  message ++ 0x80 :: List.replicate zeros 0 ++ bytesOf order lengthSize (8 * message.length)

/-- The first `count` pieces of a list, each of the given size. -/
def pieces {α : Type} (size : Nat) : Nat → List α → List (List α)
  | 0, _ => []
  | count + 1, xs => xs.take size :: pieces size count (xs.drop size)

/-- The blocks of a message, each as the numbers of its sixteen words. -/
def blocks (order : ByteOrder) (wordSize lengthSize : Nat) (message : List UInt8) :
    List (List Nat) :=
  let filled := fill order (16 * wordSize) lengthSize message
  (pieces (16 * wordSize) (filled.length / (16 * wordSize)) filled).map fun block =>
    (pieces wordSize 16 block).map (numberOf order)

/-- The lower-case hexadecimal digits of a byte. -/
def hexByte (b : UInt8) : List Char :=
  [Nat.digitChar (b.toNat / 16), Nat.digitChar (b.toNat % 16)]

/-- Bytes in lower-case hexadecimal digits. -/
def hexText (bytes : List UInt8) : List Char := bytes.flatMap hexByte

end SparqlScalar.Digest
