/-!
# Numbers of double precision

A finite number of double precision is a significand below `2 ^ 53` times a power of
two. All arithmetic is exact: an operation forms the quotient of two natural numbers
and rounds it once, to the nearest such number and between two equally near ones to
the even significand.

The shortest text of a number uses the fewest digits from which the number is read
back. For one digit, two digits, and so on, the two neighbours of the number on the
decimal grid of that many digits are compared with the interval of quotients that
round to the number; the first grid with a hit wins, and of two hits the nearer.
-/
namespace SchemaBindings.Json

/-- A power of two. -/
def twoTo (exponent : Nat) : Nat := Nat.pow 2 exponent

/-- A power of ten. -/
def tenTo (exponent : Nat) : Nat := Nat.pow 10 exponent

/-- A finite number of double precision: `significand * 2 ^ exponent`, with a sign that also zero
has. The exponent is `-1074` or the significand has its full 53 bits. -/
structure Binary64 where
  negative : Bool
  significand : Nat
  exponent : Int
deriving DecidableEq, Repr

namespace Binary64

/-- The smallest exponent. -/
def leastExponent : Int := -1074

/-- The largest exponent. -/
def greatestExponent : Int := 971

/-- Zero, with either sign. -/
def zero (negative : Bool) : Binary64 := ⟨negative, 0, leastExponent⟩

/-- A quotient that is rounded to the nearest integer, and to the even one of two. -/
def roundedQuotient (numerator denominator : Nat) : Nat :=
  let quotient := numerator / denominator
  let twice := 2 * (numerator % denominator)
  if denominator < twice || (twice == denominator && quotient % 2 == 1) then quotient + 1
  else quotient

/-- The number nearest to the quotient of two natural numbers, the second not zero; `none` if it
would be infinite. -/
def ofRatio (negative : Bool) (numerator denominator : Nat) : Option Binary64 :=
  if numerator = 0 then some (zero negative)
  else
    let guess : Int := Int.ofNat numerator.log2 - Int.ofNat denominator.log2
    let reaches :=
      denominator * twoTo guess.toNat ≤ numerator * twoTo (-guess).toNat
    let magnitude := if reaches then guess else guess - 1
    let exponent := max leastExponent (magnitude - 52)
    let rounded :=
      roundedQuotient (numerator * twoTo (-exponent).toNat) (denominator * twoTo exponent.toNat)
    let (rounded, exponent) :=
      if rounded = twoTo 53 then (twoTo 52, exponent + 1) else (rounded, exponent)
    if greatestExponent < exponent then none else some ⟨negative, rounded, exponent⟩

/-- The number as a quotient of natural numbers, without its sign. -/
def ratio (number : Binary64) : Nat × Nat :=
  (number.significand * twoTo number.exponent.toNat, twoTo (-number.exponent).toNat)

/-- Multiply two numbers and round, keeping the sign of the first. -/
def times (left right : Binary64) : Option Binary64 :=
  ofRatio left.negative (left.ratio.1 * right.ratio.1) (left.ratio.2 * right.ratio.2)

/-- Divide a number by one that is not zero and round, keeping the sign of the first. -/
def dividedBy (left right : Binary64) : Option Binary64 :=
  ofRatio left.negative (left.ratio.1 * right.ratio.2) (left.ratio.2 * right.ratio.1)

/-- The number nearest to a power of ten up to `10 ^ 308`. -/
def powerOfTen (exponent : Nat) : Binary64 :=
  (ofRatio false (tenTo exponent) 1).getD (zero false)

/-- Divide by `10 ^ 308` as long as the power of ten to divide by is larger than that. Three rounds
bring every significand of 64 bits to zero. -/
def scaleDown : (rounds : Nat) → Binary64 → (power : Nat) → Binary64 × Nat
  | 0, number, power => (number, power)
  | rounds + 1, number, power =>
    if power ≤ 308 || number.significand == 0 then (number, power)
    else scaleDown rounds ((number.dividedBy (powerOfTen 308)).getD number) (power - 308)

/-- The number that a significand of up to 64 bits and a power of ten write. The significand is
rounded first, and the product or quotient with the rounded power of ten after it; so the result
can differ from the nearest number in its last bit. `none` if the number is too large. -/
def ofDecimal (negative : Bool) (significand : Nat) (exponent : Int) : Option Binary64 := do
  let number ← ofRatio negative significand 1
  if 0 ≤ exponent then
    if exponent ≤ 308 then number.times (powerOfTen exponent.toNat)
    else if significand = 0 then some number
    else none
  else
    let (number, power) := scaleDown 3 number (-exponent).toNat
    if number.significand = 0 then some number else number.dividedBy (powerOfTen power)

/-- The decimal exponent of the first digit of a positive quotient below one: the least number of
places that the point has to move. -/
def leadingPlaces (numerator denominator : Nat) : (bound places : Nat) → Nat
  | 0, places => places
  | bound + 1, places =>
    if denominator ≤ numerator * tenTo places then places
    else leadingPlaces numerator denominator bound (places + 1)

/-- The exponent of the first decimal digit of a positive quotient. -/
def decimalExponent (numerator denominator : Nat) : Int :=
  if denominator ≤ numerator then
    Int.ofNat ((toString (numerator / denominator)).length - 1)
  else -Int.ofNat (leadingPlaces numerator denominator 400 1)

/-- Whether a quotient lies between two others, with the ends or without. -/
def liesWithin (inclusive : Bool) (low high : Nat × Nat) (value : Nat × Nat) : Bool :=
  let above := low.1 * value.2
  let reached := value.1 * low.2
  let below := value.1 * high.2
  let limit := high.1 * value.2
  if inclusive then above ≤ reached && below ≤ limit else above < reached && below < limit

/-- The digits of a positive number on a grid of the given number of digits, if the grid has a
point that is read back as the number, with the exponent of the grid. -/
def digitsOnGrid (number : Binary64) (count : Nat) : Option (Nat × Int) :=
  let (numerator, denominator) := number.ratio
  let grid := decimalExponent numerator denominator - Int.ofNat count + 1
  let up := tenTo grid.toNat
  let down := tenTo (-grid).toNat
  let point (digits : Nat) : Nat × Nat := (digits * up, down)
  let scaled := numerator * down / (denominator * up)
  let halfBelow :=
    if number.significand == twoTo 52 && leastExponent < number.exponent then 1 else 2
  let low := (4 * numerator - halfBelow * (numerator / number.significand), 4 * denominator)
  let high := (4 * numerator + 2 * (numerator / number.significand), 4 * denominator)
  let inside := liesWithin (number.significand % 2 == 0) low high
  let lower := scaled
  let upper := scaled + 1
  match inside (point lower), inside (point upper) with
  | false, false => none
  | true, false => some (lower, grid)
  | false, true => some (upper, grid)
  | true, true =>
    let middle := (2 * scaled + 1) * up * denominator
    let doubled := 2 * numerator * down
    if doubled < middle || (doubled == middle && lower % 2 == 0) then some (lower, grid)
    else some (upper, grid)

/-- The first grid that has a point read back as the number. Seventeen digits always suffice. -/
def shortestFrom (number : Binary64) : (bound count : Nat) → Nat × Int
  | 0, count => (digitsOnGrid number count).getD (0, 0)
  | bound + 1, count =>
    match digitsOnGrid number count with
    | some found => found
    | none => shortestFrom number bound (count + 1)

/-- The shortest digits of a positive number, without zeros at the end, and the exponent of the
first of them. -/
def shortestDigits (number : Binary64) : List Char × Int :=
  let (digits, grid) := shortestFrom number 16 1
  let written := (toString digits).toList
  let exponent := grid + Int.ofNat written.length - 1
  ((written.reverse.dropWhile (· == '0')).reverse, exponent)

/-- The text of digits whose first has the given exponent. Exponents from -5 to 15 are written with
a point, others with an explicit exponent and its sign. -/
def decimalText (digits : List Char) (exponent : Int) : List Char :=
  if -5 ≤ exponent ∧ exponent ≤ 15 then
    if exponent < 0 then
      ['0', '.'] ++ List.replicate ((-exponent).toNat - 1) '0' ++ digits
    else
      let whole := exponent.toNat + 1
      let fraction := digits.drop whole
      digits.take whole ++ List.replicate (whole - digits.length) '0' ++ ['.']
        ++ (if fraction.isEmpty then ['0'] else fraction)
  else
    let sign := if exponent < 0 then '-' else '+'
    let fraction := digits.drop 1
    digits.take 1 ++ (if fraction.isEmpty then [] else '.' :: fraction) ++ ['e', sign]
      ++ (toString exponent.natAbs).toList

/-- The text of a number. -/
def text (number : Binary64) : List Char :=
  let sign := if number.negative then ['-'] else []
  if number.significand = 0 then sign ++ ['0', '.', '0']
  else
    let (digits, exponent) := number.shortestDigits
    sign ++ decimalText digits exponent

/-- Equality of values: zero has one value with two signs. -/
def same (left right : Binary64) : Bool :=
  left == right || (left.significand == 0 && right.significand == 0)

end Binary64

end SchemaBindings.Json
