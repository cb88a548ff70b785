/-!
# Tables of character ranges

A table holds the places where membership changes, in ascending order: the first
boundary is the first member, the second the first code point after it that is no
member, and so on. A code point is therefore a member exactly when the number of
boundaries at or below it is odd, and that number is found by bisection.

A table is written down as the steps from one boundary to the next, in base 36 and
separated by blanks or by ends of lines.
-/
namespace SchemaBindings.Unicode

/-- The value of a base-36 digit; other characters count as zero. -/
def digitValue (digit : Char) : Nat :=
  if '0' ≤ digit && digit ≤ '9' then digit.toNat - '0'.toNat
  else if 'a' ≤ digit && digit ≤ 'z' then digit.toNat - 'a'.toNat + 10
  else 0

/-- Whether a character separates the entries of a table. -/
def isSeparator (character : Char) : Bool := character == ' ' || character == '\n'

/-- The entries of a list that is written with separators; `pending` holds the characters of the
entry being read in reverse. -/
def separated : List Char → (pending : List Char) → List (List Char)
  | [], pending => if pending.isEmpty then [] else [pending.reverse]
  | character :: rest, pending =>
    if isSeparator character then pending.reverse :: separated rest []
    else separated rest (character :: pending)

/-- Read numbers in base 36. A separator ends a number; `pending` is the number being read, and
`none` between numbers. -/
def readSteps : List Char → Option Nat → List Nat
  | [], pending => pending.toList
  | character :: rest, pending =>
    if isSeparator character then pending.toList ++ readSteps rest none
    else readSteps rest (some (pending.getD 0 * 36 + digitValue character))

/-- The running sums of the steps. -/
def accumulate : Nat → List Nat → List Nat
  | _, [] => []
  | reached, step :: steps => (reached + step) :: accumulate (reached + step) steps

/-- A set of code points, as the ascending boundaries of its ranges. -/
structure RangeTable where
  boundaries : Array Nat

namespace RangeTable

/-- Read a table from its steps. -/
def ofSteps (steps : String) : RangeTable :=
  ⟨(accumulate 0 (readSteps steps.toList none)).toArray⟩

/-- Bisection: the number of boundaries at or below `code`, when it lies between `low` and
`high`. Each round halves the distance, so `rounds` equal to the size is always enough. -/
def rank (boundaries : Array Nat) (code : Nat) : (rounds low high : Nat) → Nat
  | 0, low, _ => low
  | rounds + 1, low, high =>
    if low < high then
      let middle := (low + high) / 2
      if boundaries.getD middle 0 ≤ code then rank boundaries code rounds (middle + 1) high
      else rank boundaries code rounds low middle
    else low

/-- Membership of a character. -/
def contains (table : RangeTable) (character : Char) : Bool :=
  let size := table.boundaries.size
  rank table.boundaries character.toNat size 0 size % 2 == 1

end RangeTable

end SchemaBindings.Unicode
