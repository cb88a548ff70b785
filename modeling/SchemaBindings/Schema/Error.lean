import SchemaBindings.Schema.Pointer

/-!
# Faults of schemas

A document is refused if its shape hides properties from the passes, and a schema if
a renaming cannot be carried out or undone. Every fault names the place by a pointer.
-/
namespace SchemaBindings

/-- Why a document is no schema of the modelled shape. Some of these documents are valid schemas
nevertheless: they are refused because a pass could not reach all their properties. -/
inductive ShapeFault where
  | topLevelNotObject
  | bothDefinitionTables
  | definitionsNotObject
  | notASchema (found : String)
  | unsupportedKeyword (keyword : String)
  | nestedDefinitions
  | mixes (shapes : List String)
  | referenceNotString
  | compositionNotArray (keyword : String)
  | propertiesNotObject
  | requiredNotStrings
  | requiredNotArray
deriving DecidableEq, Repr

/-- The text that describes the fault. It does not name the place, which the message around it does.
-/
def ShapeFault.message : ShapeFault → String
  | .topLevelNotObject => "top-level schema must be an object"
  | .bothDefinitionTables => "both 'definitions' and '$defs' are present"
  | .definitionsNotObject => "definitions table must be an object"
  | .notASchema found => "expected a schema object, found " ++ found
  | .unsupportedKeyword keyword => "keyword '" ++ keyword ++ "' is not supported"
  | .nestedDefinitions => "nested definitions tables are not supported"
  | .mixes shapes => "mixes " ++ ", ".intercalate shapes
  | .referenceNotString => "'$ref' must be a string"
  | .compositionNotArray keyword => "'" ++ keyword ++ "' must be an array"
  | .propertiesNotObject => "'properties' must be an object"
  | .requiredNotStrings => "'required' must list strings"
  | .requiredNotArray => "'required' must be an array"

/-- A fault of a schema. The first is found when a document is read, the second when required names
are looked at, and the others by the passes that mark names and take the marks away. -/
inductive SchemaError where
  | shape (pointer : Pointer) (fault : ShapeFault)
  | requiredMismatch (pointer : Pointer) (name : String)
  | escapeCollision (pointer : Pointer) (escaped restored : String)
  | restoredReserved (pointer : Pointer) (escaped restored : String)
  | markerInPlainName (pointer : Pointer) (name marker : String)
  | restoreIncomplete (pointer : Pointer) (escaped restored : String)
deriving DecidableEq, Repr

/-- The beginning of a message about an escaped property. It names the property as it is called in
the schema with the marks, which the author of the schema has not written. -/
def escapedAt (pointer : Pointer) (escaped : String) : String :=
  "escaped property '" ++ escaped ++ "' at '" ++ pointer.text ++ "' "

/-- The text that describes the fault. Every text names the place by the written form of its
pointer. -/
def SchemaError.message : SchemaError → String
  | .shape pointer fault =>
    "unsupported schema shape at '" ++ pointer.text ++ "': " ++ fault.message
  | .requiredMismatch pointer name =>
    "required property '" ++ name ++ "' at '" ++ pointer.text
      ++ "' is not declared in properties"
  | .escapeCollision pointer escaped restored =>
    escapedAt pointer escaped ++ "restores to '" ++ restored
      ++ "', which collides with another property"
  | .restoredReserved pointer escaped restored =>
    escapedAt pointer escaped ++ "restores to '" ++ restored ++ "', which is still reserved"
  | .markerInPlainName pointer name marker =>
    "property '" ++ name ++ "' at '" ++ pointer.text ++ "' contains the escape marker '" ++ marker
      ++ "' but is not an escaped reserved word"
  | .restoreIncomplete pointer escaped restored =>
    escapedAt pointer escaped ++ "still carries the escape marker after restoration ('"
      ++ restored ++ "')"

end SchemaBindings
