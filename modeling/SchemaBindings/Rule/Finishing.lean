import SchemaBindings.Rule.Basic
import SchemaBindings.Text.Lines
import SchemaBindings.Text.Search

/-!
# Finishing generated text

The text that a generator returns is a list of lines, and lines are all that is
looked at. First the names that carry the marker are restored, in the lines that have
the marker and in no others. Then declarations are put after the first line that an
anchor matches, the names of types are replaced in every line, the declarations
included, and at last the alias of the union is appended.
-/
namespace SchemaBindings

open SchemaBindings.Pattern

/-- The declarations of a language that are written by hand, and the types that are replaced. -/
structure CustomTypes where
  /-- Finds the line after which declarations stand. Without one there are none. -/
  anchor : Option Regex
  declarations : List String
  substitutions : List Rule

/-- Restore a line that has the marker. -/
def restoreLine (marker : String) (restoring : Rule) (line : String) : String :=
  if Text.occurs marker.toList line.toList then restoring.apply line else line

/-- Restore the lines that have the marker. -/
def restoreLines (marker : String) (restoring : Rule) (lines : List String) : List String :=
  lines.map (restoreLine marker restoring)

/-- The lines of declarations, each after an empty line. -/
def declarationLines (declarations : List String) : List String :=
  declarations.flatMap fun declaration => "" :: Text.lines declaration

/-- Put a block of lines after the first line that an anchor matches. -/
def insertAfter (anchor : Regex) (block : List String) : List String → List String
  | [] => []
  | line :: lines =>
    if anchor.isMatch line then line :: (block ++ lines)
    else line :: insertAfter anchor block lines

/-- Apply rules to a line, one after the other. -/
def substituteLine (substitutions : List Rule) (line : String) : String :=
  substitutions.foldl (fun line rule => rule.apply line) line

/-- Apply rules to every line. -/
def substituteLines (substitutions : List Rule) (lines : List String) : List String :=
  lines.map (substituteLine substitutions)

/-- Whether the last line is there and shows something. -/
def endsVisibly (lines : List String) : Bool :=
  match lines.getLast? with
  | some last => !Text.isBlankText last
  | none => false

/-- Append the alias of a union, with an empty line before it unless there is one. -/
def appendUnion (lines union : List String) : List String :=
  if union.isEmpty then lines
  else if endsVisibly lines then lines ++ "" :: union
  else lines ++ union

namespace CustomTypes

/-- Put in the declarations and replace the types. -/
def apply (custom : CustomTypes) (lines : List String) : List String :=
  let lines :=
    match custom.anchor with
    | some anchor => insertAfter anchor (declarationLines custom.declarations) lines
    | none => lines
  substituteLines custom.substitutions lines

end CustomTypes

/-- Finish generated lines. -/
def finishLines (marker : String) (restoring : Rule) (custom : Option CustomTypes)
    (lines union : List String) : List String :=
  let lines := restoreLines marker restoring lines
  let lines :=
    match custom with
    | some custom => custom.apply lines
    | none => lines
  appendUnion lines union

end SchemaBindings
