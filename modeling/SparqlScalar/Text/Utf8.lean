import SparqlScalar.Text.Property.Ranges

/-!
# Characters in bytes

A character takes one to four bytes. The characters of a range are cut into blocks in which each
byte runs through a range of its own, so that a block is one sequence of ranges of bytes.
-/

namespace SparqlScalar.Utf8

/-- The bytes of a text. -/
def bytes (text : List Char) : List UInt8 := text.flatMap String.utf8EncodeChar

/-- The text that bytes encode, if they encode one. -/
def decode? (bytes : List UInt8) : Option String := String.fromUTF8? bytes.toByteArray

theorem decode?_bytes (text : List Char) : decode? (bytes text) = some (String.ofList text) := by
  have hbytes : (bytes text).toByteArray = text.utf8Encode := rfl
  rw [decode?, hbytes, String.fromUTF8?, dif_pos ByteArray.isValidUTF8_utf8Encode]
  rfl

/-- How many bytes a text takes. -/
def width (text : List Char) : Nat := text.foldl (fun total c => total + c.utf8Size) 0

/-- The bytes from one to another. -/
structure Span where
  low : UInt8
  high : UInt8
deriving DecidableEq, Repr

/-- The characters of equal width, with the number of bytes after the first one. The surrogates are
no characters. -/
def widths : List (Nat × Nat × Nat) :=
  [(0x0, 0x7f, 0), (0x80, 0x7ff, 1), (0x800, 0xd7ff, 2), (0xe000, 0xffff, 2),
    (0x10000, 0x10ffff, 3)]

/-- Cuts a range of code points where its bounds do not end a block of those that differ in as many
last bytes. -/
def cut : Nat → Nat → Nat → Property.Ranges
  | 0, low, high => [(low, high)]
  | level + 1, low, high =>
    let size := Nat.pow 64 (level + 1)
    if low / size = high / size then cut level low high
    else
      let first := (low + (size - 1)) / size
      let last := (high + 1) / size
      (if first * size = low then [] else cut level low (first * size - 1))
        ++ (if first < last then [(first * size, last * size - 1)] else [])
        ++ (if last * size = high + 1 then [] else cut level (last * size) high)

/-- The blocks of a range of characters, in order, each as a sequence of ranges of bytes. -/
def sequences (range : Nat × Nat) : List (List Span) :=
  widths.flatMap fun (low, high, level) =>
    let low := max low range.1
    let high := min high range.2
    if low ≤ high then
      (cut level low high).map fun (low, high) =>
        ((String.utf8EncodeChar (Char.ofNat low)).zip
          (String.utf8EncodeChar (Char.ofNat high))).map fun (a, b) => ⟨a, b⟩
    else []

end SparqlScalar.Utf8
