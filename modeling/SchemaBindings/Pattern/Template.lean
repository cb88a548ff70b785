import SchemaBindings.Pattern.Parser
import SchemaBindings.Pattern.Search
import SchemaBindings.Pattern.Size

/-!
# Replacement templates

A template is the text that takes the place of a match. A dollar sign begins a
reference to a group, by number or by name, in braces or as the longest run of
letters, digits and low lines; two dollar signs stand for one; a dollar sign that
begins nothing stands for itself. A reference to a group that does not exist or took
no part in the match stands for nothing.
-/
namespace SchemaBindings.Pattern

open SchemaBindings.Unicode

/-- A compiled pattern: what was written, the program that searches for it, and the names of its
groups by number, from one on. -/
structure Regex where
  source : String
  program : Program
  groupNames : List (Option String)

namespace Regex

/-- The number of groups. -/
def groupCount (regex : Regex) : Nat := regex.groupNames.length

/-- The number of the group with the given name. -/
def groupNamed (regex : Regex) (name : String) : Option Nat :=
  (regex.groupNames.findIdx? (· == some name)).map (· + 1)

/-- Compile a pattern with flags in force from its beginning. The groups are those that the
pattern still has when its repetitions are settled; one that is gone before another that stays
keeps its number but loses its name. -/
def compile (source : String) (flags : Flags) : Except Error Regex := do
  let expression ← parse source.toList
  let (shape, _) ← expression.meaning flags
  if shape.isTooLarge then throw ⟨.tooLarge sizeLimit, expression.span, none⟩
  let groups := shape.groups
  let count := groups.foldl (fun most group => max most group.1) 0
  let names := (List.range count).map fun offset => (groups.lookup (offset + 1)).join
  return ⟨source, shape.program, names⟩

/-- Whether the pattern occurs in a text. -/
def isMatch (regex : Regex) (text : String) : Bool := (regex.program.find text.toList).isSome

end Regex

/-- What a template refers to. -/
inductive Reference where
  | number (index : Nat)
  | name (name : List Char)
deriving DecidableEq, Repr

/-- A reference is a number if it is written in digits only. -/
def Reference.ofText (text : List Char) : Reference :=
  if !text.isEmpty && text.all isAsciiDigit then
    .number (text.foldl (fun value digit => value * 10 + (digit.toNat - '0'.toNat)) 0)
  else .name text

/-- The text that a reference stands for. -/
def Reference.text (reference : Reference) (regex : Regex) (text : List Char) (found : Match) :
    List Char :=
  match reference with
  | .number index =>
    if index ≤ regex.groupCount then (found.captured index text).getD [] else []
  | .name letters =>
    match regex.groupNamed (.ofList letters) with
    | some index => (found.captured index text).getD []
    | none => []

/-- The reference at the beginning of what follows a dollar sign, and what comes after it. -/
def referenceAt (following : List Char) : Option (Reference × List Char) :=
  match following with
  | '{' :: inside =>
    let name := inside.takeWhile (· != '}')
    match inside.drop name.length with
    | [] => none
    | _ :: rest => some (.ofText name, rest)
  | _ =>
    let name := following.takeWhile isAsciiWord
    if name.isEmpty then none else some (.ofText name, following.drop name.length)

/-- Expand a template, reading at most the given number of its parts. -/
def expandWithin (value : Reference → List Char) : (bound : Nat) → List Char → List Char
  | 0, _ => []
  | _ + 1, [] => []
  | bound + 1, '$' :: '$' :: rest => '$' :: expandWithin value bound rest
  | bound + 1, '$' :: following =>
    match referenceAt following with
    | some (reference, rest) => value reference ++ expandWithin value bound rest
    | none => '$' :: expandWithin value bound following
  | bound + 1, character :: rest => character :: expandWithin value bound rest

/-- Expand a template for a match in a text. -/
def expand (template : List Char) (regex : Regex) (text : List Char) (found : Match) :
    List Char :=
  expandWithin (fun reference => reference.text regex text found) template.length template

/-- Replace the given matches of a text, which are in order and do not overlap. The part of the
text from `position` on is `after`. -/
def splice (replacement : Match → List Char) : (position : Nat) → (after : List Char) →
    List Match → List Char
  | _, after, [] => after
  | position, after, found :: others =>
    after.take (found.start - position) ++ replacement found
      ++ splice replacement found.stop.index found.stop.after others

end SchemaBindings.Pattern
