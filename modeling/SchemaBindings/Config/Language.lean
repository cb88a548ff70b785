import SchemaBindings.Config.Error
import SchemaBindings.Config.Reading
import SchemaBindings.Rule.Finishing
import SchemaBindings.Schema.Reserved
import SchemaBindings.Schema.Union

/-!
# Languages

A language is what its settings say once they are known to be complete: nothing that
is needed is absent, and every pattern is compiled. The settings are looked at in a
fixed order, and the first fault is the one reported.
-/
namespace SchemaBindings

open SchemaBindings.Pattern

/-- All that is needed to write the text of a language. Nothing in it can be refused any more: the
patterns are compiled, the marker is not empty, and no reserved word has it in front, if the
language comes from settings. -/
structure Language where
  id : String
  options : RendererOptions
  outputPath : String
  reserved : ReservedWords
  escaping : EscapeRule
  restoring : Rule
  custom : Option CustomTypes
  union : UnionAlias

namespace Config

/-- A value that must not be absent. The fault has the path of the field in the settings of the
language, so nothing has to be added to it on the way out. -/
def required {α : Type} (language field : String) : Option α → Except ConfigError α
  | some value => .ok value
  | none => .error (.missingField language field)

end Config

open Config

/-- The rule that settings ask for. Fields that are absent are reported before the pattern is
compiled, so an absent replacement hides a fault of the pattern until it is there. -/
def RuleSettings.validate (settings : RuleSettings) (language field : String) :
    Except ConfigError Rule := do
  let pattern ← required language (field ++ ".pattern") settings.pattern
  let flags ← required language (field ++ ".flags") settings.flags
  let replacement ← required language (field ++ ".replacement") settings.replacement
  match Rule.compile pattern flags replacement with
  | .ok rule => return rule
  | .error error => throw (.invalidRule language field error)

/-- The anchor that settings ask for. Its flags may be absent, which a rule does not allow. Whether
the pattern fits once or everywhere does not matter for an anchor, since it is only searched for. -/
def PatternSettings.validateAnchor (settings : PatternSettings) (language field : String) :
    Except ConfigError Regex := do
  let pattern ← required language (field ++ ".pattern") settings.pattern
  match compilePattern pattern (settings.flags.getD "") with
  | .ok (regex, _) => return regex
  | .error error => throw (.invalidRule language field error)

/-- The rule that replaces a type. Its replacement is the name of the new type, in which the groups
of the pattern may be named; the faults of its pattern are those of the field for the old type. -/
def TypeMappingSettings.validate (settings : TypeMappingSettings) (language field : String) :
    Except ConfigError Rule := do
  let fromType ← required language (field ++ ".fromType") settings.fromType
  let toType ← required language (field ++ ".toType") settings.toType
  RuleSettings.validate ⟨fromType.pattern, fromType.flags, some toType⟩ language
    (field ++ ".fromType")

namespace Config

/-- The rules that replace types; `index` is the number of those before them, which the faults name.
The first mapping with a fault is the one that is reported, though others may have faults too. -/
def validateMappings (language field : String) :
    (index : Nat) → List TypeMappingSettings → Except ConfigError (List Rule)
  | _, [] => return []
  | index, settings :: others => do
    let rule ← settings.validate language (field ++ "[" ++ toString index ++ "]")
    let rules ← validateMappings language field (index + 1) others
    return rule :: rules

end Config

/-- The anchor of a language, which declarations cannot do without. An anchor that is there is held
against what it needs even if there is nothing to be put behind it. -/
def CustomMappingSettings.validateAnchor (settings : CustomMappingSettings)
    (language field : String) : Except ConfigError (Option Regex) :=
  match settings.importAnchor with
  | some anchor => some <$> anchor.validateAnchor language field
  | none =>
    if (settings.customTypes.getD []).isEmpty then return none
    else throw (.missingField language field)

/-- The declarations and replaced types of a language. The declarations are texts that are put into
the output as they are, so there is nothing about them that could be refused. -/
def CustomMappingSettings.validate (settings : CustomMappingSettings) (language : String) :
    Except ConfigError CustomTypes := do
  let anchor ← settings.validateAnchor language "processing.customMapping.importAnchor"
  let substitutions ←
    validateMappings language "processing.customMapping.typeMappings" 0
      (settings.typeMappings.getD [])
  return ⟨anchor, settings.customTypes.getD [], substitutions⟩

/-- The alias of a union. One that is not enabled may lack everything, and a template without a mark
for the members is refused only where the alias is to be written. -/
def UnionSettings.validate (settings : UnionSettings) (language : String) :
    Except ConfigError UnionAlias := do
  if settings.enabled.getD false then
    let template ← required language "processing.unionType.template" settings.template
    let separator ← required language "processing.unionType.separator" settings.separator
    if Text.occurs UnionAlias.memberMark template.toList then return ⟨true, template, separator⟩
    else throw (.invalidValue language "processing.unionType.template" .noMemberMark)
  else return ⟨false, settings.template.getD "", settings.separator.getD ""⟩

/-- The marker of a language. An empty one would mark nothing, so it is refused, while a marker that
is absent is the default one. Nothing else is asked of it here. -/
def ProcessingSettings.validateMarker (settings : ProcessingSettings) (language : String) :
    Except ConfigError EscapeRule :=
  match settings.escapeMarker with
  | none => return {}
  | some marker =>
    if marker.isEmpty then throw (.invalidValue language "processing.escapePrefix" .emptyMarker)
    else return ⟨marker⟩

/-- The reserved words of a language, none of which may begin with the marker. Such a word would be
taken for one that is marked already and would stay in the schema. The first one in the order of the
words is reported, which is not that of the document. -/
def ProcessingSettings.validateWords (settings : ProcessingSettings) (language : String)
    (escaping : EscapeRule) : Except ConfigError ReservedWords :=
  let reserved := ReservedWords.ofList (settings.reservedWords.getD [])
  match reserved.words.find? escaping.isEscaped with
  | some word =>
    throw (.invalidValue language "processing.reservedWords"
      (.wordHasMarker word escaping.marker))
  | none => return reserved

/-- The language that settings ask for. What is needed of every language comes first, in a fixed
order, and then the parts are held against what they need. The first fault ends this, so that
settings with several faults are mended one after the other. -/
def LanguageSettings.validate (settings : LanguageSettings) (language : String) :
    Except ConfigError Language := do
  let processing ← required language "processing" settings.processing
  let outputPath ← required language "processing.outputDir" processing.outputDir
  let propertyRegex ← required language "processing.propertyRegex" processing.propertyRegex
  let options ← required language "rendererOptions" settings.rendererOptions
  let escaping ← processing.validateMarker language
  let reserved ← processing.validateWords language escaping
  let restoring ← propertyRegex.validate language "processing.propertyRegex"
  let custom ←
    match processing.customMapping with
    | some mapping => some <$> mapping.validate language
    | none => pure none
  let union ← (processing.unionType.getD {}).validate language
  return ⟨language, options, outputPath, reserved, escaping, restoring, custom, union⟩

namespace Settings

/-- The language of the given name. A language that has no settings is unknown, whatever the other
settings say; the settings of other languages are not looked at. -/
def language (settings : Settings) (id : String) : Except ConfigError Language :=
  match settings.languages.lookup id with
  | some language => language.validate id
  | none => .error (.unknownLanguage id)

/-- Read settings from a text, which `file` names in faults. Whatever follows the document in the
text is passed over, so a text with something behind the settings is read as well. -/
def ofText (file text : String) : Except ConfigError Settings :=
  match Json.parseLeading Config.settings text with
  | .ok settings => .ok settings
  | .error error => .error (.unreadable file error)

end Settings

end SchemaBindings
