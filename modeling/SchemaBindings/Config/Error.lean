import SchemaBindings.Json.Source
import SchemaBindings.Rule.Replacement

/-!
# Faults of settings

Every fault of the settings of a language names the language and the field. A
document that cannot be read names the file it was read from.
-/
namespace SchemaBindings

/-- Why the value of a field is refused. These are the values that are read without a fault but
cannot do what they are for: an empty marker marks nothing, a word with the marker would be taken
for a marked one, and an alias needs a place for its members. -/
inductive ValueFault where
  | emptyMarker
  | wordHasMarker (word marker : String)
  | noMemberMark
deriving DecidableEq, Repr

/-- The text that describes the fault. It does not name the field, which the message around it does.
-/
def ValueFault.message : ValueFault → String
  | .emptyMarker => "must not be empty"
  | .wordHasMarker word marker =>
    "'" ++ word ++ "' already carries the escape prefix '" ++ marker ++ "'"
  | .noMemberMark => "template has no '$1' marker"

/-- A fault of settings. All but the last two name a language and a field; an unknown language has
no fields, and settings that cannot be read have no languages yet. -/
inductive ConfigError where
  | missingField (language field : String)
  | invalidValue (language field : String) (fault : ValueFault)
  | invalidRule (language field : String) (error : RuleError)
  | unknownLanguage (language : String)
  | unreadable (file : String) (error : Json.ReadError)
deriving DecidableEq, Repr

/-- The text that describes the fault. It names the field in the words of the document, so that its
author finds it there. -/
def ConfigError.message : ConfigError → String
  | .missingField language field => "'" ++ field ++ "' not set for language '" ++ language ++ "'"
  | .invalidValue language field fault =>
    "invalid '" ++ field ++ "' for language '" ++ language ++ "': " ++ fault.message
  | .invalidRule language field error =>
    "invalid rule '" ++ field ++ "' for language '" ++ language ++ "': " ++ error.message
  | .unknownLanguage language => "target language '" ++ language ++ "' is not configured"
  | .unreadable file error => "failed to parse " ++ file ++ ": " ++ error.messageWithPath

end SchemaBindings
