import SchemaBindings.Unicode.FoldTable
import SchemaBindings.Unicode.RangeTable

/-!
# Simple case folding

Two characters are equal up to case when simple folding sends both to the same
character. The classes of this relation with more than one member are listed; every
other character stands alone.
-/
namespace SchemaBindings.Unicode

/-- Read the members of one class: steps are separated by plus signs. -/
def readFoldClass : List Char → Nat → List Nat
  | [], pending => [pending]
  | '+' :: rest, pending => pending :: readFoldClass rest 0
  | digit :: rest, pending => readFoldClass rest (pending * 36 + digitValue digit)

/-- Turn steps into the characters of each class. -/
def foldClassesFrom : Nat → List (List Nat) → List (List Char)
  | _, [] => []
  | reached, [] :: classes => foldClassesFrom reached classes
  | reached, (step :: distances) :: classes =>
    let first := reached + step
    (Char.ofNat first :: distances.map fun distance => Char.ofNat (first + distance))
      :: foldClassesFrom first classes

/-- The classes of characters that differ only in case. -/
def foldClasses : List (List Char) :=
  foldClassesFrom 0 ((separated foldClassSteps.toList []).map (readFoldClass · 0))

/-- All characters equal to the given one up to case, itself included. -/
def caseVariants (character : Char) : List Char :=
  (foldClasses.find? (·.contains character)).getD [character]

end SchemaBindings.Unicode
