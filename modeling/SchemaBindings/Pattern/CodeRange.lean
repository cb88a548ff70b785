import SchemaBindings.Pattern.CharSet

/-!
# Ranges of code points

A set of characters as ascending ranges that neither overlap nor touch. This form is
unique, so it tells how much room a set takes; membership itself is decided from the
expression of the set. Code points that are no characters may lie inside of a range,
where they stand for nothing.
-/
namespace SchemaBindings.Pattern

open SchemaBindings.Unicode

/-- The code points from `first` to `last`. -/
structure CodeRange where
  first : Nat
  last : Nat
deriving DecidableEq, Repr

namespace CodeRange

/-- The greatest code point. -/
def greatest : Nat := 0x10FFFF

/-- Whether a range holds no character: it lies among the surrogates. -/
def isVoid (range : CodeRange) : Bool := 0xD800 ≤ range.first && range.last ≤ 0xDFFF

/-- Join neighbours in a list that is sorted by first code points; `pending` is the range that may
still grow. -/
def joined : (pending : CodeRange) → List CodeRange → List CodeRange
  | pending, [] => [pending]
  | pending, range :: ranges =>
    if range.first ≤ pending.last + 1 then
      joined ⟨pending.first, max pending.last range.last⟩ ranges
    else pending :: joined range ranges

/-- The unique form of any list of ranges. -/
def normalized (ranges : List CodeRange) : List CodeRange :=
  match ranges.mergeSort fun left right => left.first ≤ right.first with
  | [] => []
  | range :: others => joined range others

/-- The ranges between and around ranges in normal form, from a code point on. -/
def gaps : (start : Nat) → List CodeRange → List CodeRange
  | start, [] => if start ≤ greatest then [⟨start, greatest⟩] else []
  | start, range :: ranges =>
    if start < range.first then ⟨start, range.first - 1⟩ :: gaps (range.last + 1) ranges
    else gaps (range.last + 1) ranges

/-- The characters outside of ranges in normal form. -/
def complement (ranges : List CodeRange) : List CodeRange :=
  (gaps 0 ranges).filter fun range => !range.isVoid

end CodeRange

/-- Read boundaries in pairs: a first code point and the one after the last. -/
def pairedRanges : List Nat → List CodeRange
  | first :: next :: boundaries => ⟨first, next - 1⟩ :: pairedRanges boundaries
  | [first] => [⟨first, CodeRange.greatest⟩]
  | [] => []

/-- The ranges of a table. -/
def tableRanges (table : RangeTable) : List CodeRange := pairedRanges table.boundaries.toList

/-- The ranges of a set given by name. -/
def namedRanges : NamedSet → List CodeRange
  | .union tables => CodeRange.normalized (tables.flatMap tableRanges)
  | .outside tables => CodeRange.complement (CodeRange.normalized (tables.flatMap tableRanges))
  | .ascii => [⟨0, 127⟩]

/-- The white space of every script. -/
def blankRanges : List CodeRange :=
  [⟨9, 13⟩, ⟨0x20, 0x20⟩, ⟨0x85, 0x85⟩, ⟨0xA0, 0xA0⟩, ⟨0x1680, 0x1680⟩, ⟨0x2000, 0x200A⟩,
   ⟨0x2028, 0x2029⟩, ⟨0x202F, 0x202F⟩, ⟨0x205F, 0x205F⟩, ⟨0x3000, 0x3000⟩]

/-- The range of one character. -/
def characterRange (character : Char) : CodeRange := ⟨character.toNat, character.toNat⟩

/-- The letters of ASCII. -/
def asciiLetters : List Char :=
  "ABCDEFGHIJKLMNOPQRSTUVWXYZabcdefghijklmnopqrstuvwxyz".toList

/-- The ranges of a set of characters in normal form. -/
def CharSet.ranges : CharSet → List CodeRange
  | .nothing => []
  | .range first last => if first ≤ last then [⟨first.toNat, last.toNat⟩] else []
  | .word => tableRanges wordTable
  | .digit => tableRanges Category.decimalNumber
  | .space => blankRanges
  | .named set => namedRanges set
  | .union left right => CodeRange.normalized (left.ranges ++ right.ranges)
  | .intersection left right =>
    CodeRange.complement (CodeRange.normalized
      (CodeRange.complement left.ranges ++ CodeRange.complement right.ranges))
  | .outside set => CodeRange.complement set.ranges
  | .folded set =>
    let touched := foldClasses.filter fun variants => variants.any set.contains
    CodeRange.normalized (set.ranges ++ touched.flatten.map characterRange)
  | .foldedAscii set =>
    let added := asciiLetters.filter fun letter => set.contains (asciiVariant letter)
    CodeRange.normalized (set.ranges ++ added.map characterRange)

end SchemaBindings.Pattern
