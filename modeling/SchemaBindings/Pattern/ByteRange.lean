import SchemaBindings.Pattern.CodeRange

/-!
# Ranges of bytes

Text is stored as bytes, from one to four for a character. The characters of a range
are exactly those whose bytes lie in one of several sequences of byte ranges: the
range is cut where the number of bytes changes, and where a byte could not run
through all of its values below a fixed byte in front of it.
-/
namespace SchemaBindings.Pattern

/-- The bytes from `first` to `last`. -/
structure ByteRange where
  first : UInt8
  last : UInt8
deriving DecidableEq, Repr

namespace CodeRange

/-- The parts of a range that hold characters. -/
def withoutSurrogates (range : CodeRange) : List CodeRange :=
  [⟨range.first, min range.last 0xD7FF⟩, ⟨max range.first 0xE000, range.last⟩].filter
    fun part => part.first ≤ part.last

/-- The parts of a range whose characters take the same number of bytes. -/
def bySize (range : CodeRange) : List CodeRange :=
  ([⟨0, 0x7F⟩, ⟨0x80, 0x7FF⟩, ⟨0x800, 0xFFFF⟩, ⟨0x10000, greatest⟩].map fun (part : CodeRange) =>
    (⟨max range.first part.first, min range.last part.last⟩ : CodeRange)).filter
      fun part => part.first ≤ part.last

/-- Cut a range at the blocks that the following bytes run through, from the smallest blocks on. A
head and a tail that do not fill their block are parts of their own; what is between them is cut
at the next greater blocks. -/
def byBlocks : (blocks : List Nat) → CodeRange → List CodeRange
  | [], range => [range]
  | block :: blocks, range =>
    if range.first / block = range.last / block then [range]
    else
      let start := if range.first % block = 0 then range.first
        else (range.first / block + 1) * block
      let stop := if range.last % block = block - 1 then range.last + 1
        else range.last / block * block
      (if range.first < start then [⟨range.first, start - 1⟩] else [])
        ++ (if start < stop then byBlocks blocks ⟨start, stop - 1⟩ else [])
        ++ (if stop ≤ range.last then [⟨stop, range.last⟩] else [])

/-- The bytes of a code point. -/
def bytesAt (code : Nat) : List UInt8 := String.utf8EncodeChar (Char.ofNat code)

/-- The sequences of byte ranges that hold the bytes of the characters of a range, in ascending
order. -/
def byteSequences (range : CodeRange) : List (List ByteRange) :=
  (range.withoutSurrogates.flatMap bySize).flatMap fun part =>
    if part.last < 0x80 then [[⟨.ofNat part.first, .ofNat part.last⟩]]
    else
      (byBlocks [0x40, 0x1000, 0x40000] part).map fun block =>
        List.zipWith ByteRange.mk (bytesAt block.first) (bytesAt block.last)

end CodeRange

end SchemaBindings.Pattern
