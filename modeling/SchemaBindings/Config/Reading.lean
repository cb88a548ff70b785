import SchemaBindings.Config.Settings
import SchemaBindings.Json.Decoder

/-!
# Reading settings

Every part of the settings is a record: an object, or an array of its fields. A field
that may be absent is absent as well if it is `null`. Fields that are not known are
passed over, and so is everything that follows the document.
-/
namespace SchemaBindings.Config

open SchemaBindings.Json SchemaBindings.Json.Decoder

/-- A field of a record whose value may be absent, which it is as well if it is `null`. An array of
the fields has to have it nevertheless, as the place in the array is all that tells which field a
value is for. -/
def optionalField {σ α : Type} (name : String) (decoder : Nat → Decoder α)
    (assign : Option α → σ → σ) : RecordField σ where
  name
  read := fun depth record => do return assign (← optional (decoder depth)) record
  hasDefault := false

/-- A field of a record that has a default. The default is that of the record and is taken if the
field is missing; a field that is there has to have a value, so `null` is refused. -/
def defaultField {σ α : Type} (name : String) (decoder : Nat → Decoder α) (assign : α → σ → σ) :
    RecordField σ where
  name
  read := fun depth record => do return assign (← decoder depth) record
  hasDefault := true

/-- A text, at any depth: nothing is nested in it. -/
def text (_ : Nat) : Decoder String := Decoder.string

/-- A path. It is any text and is not looked up here, but where something else stands in its place,
the fault asks for a path. -/
def path (_ : Nat) : Decoder String := Decoder.string "path string"

/-- A list of texts. One value that is no text refuses the list as a whole. -/
def texts (depth : Nat) : Decoder (List String) := Decoder.list text depth

/-- A truth value. Numbers and texts that could stand for one are refused. -/
def truth (_ : Nat) : Decoder Bool := Decoder.boolean

/-- The value of an option. Any value is read first and refused then if it is neither a truth value
nor a text, so that it is reported after the end of the options, if this comes next. -/
def optionValue (depth : Nat) : Decoder OptionValue := do
  match ← Decoder.any depth with
  | .bool on => return .switch on
  | .string value => return .text value
  | _ => failAfter '}' (.noVariant "RendererValue")

/-- The options of a language. They are a table and not a record, so every name is taken and the
order is kept. -/
def rendererOptions (depth : Nat) : Decoder RendererOptions := Decoder.table optionValue depth

/-- The settings of the schemas that are written, with a default for each field. An array may end
before all five have been given. -/
def schemaSettings (depth : Nat) : Decoder SchemaSettings :=
  record "SchemaSettings"
    [defaultField "title" text fun title settings => { settings with title },
     defaultField "id" text fun id settings => { settings with id },
     defaultField "draft" text fun draft settings => { settings with draft },
     defaultField "topLevelType" text fun topLevelType settings =>
       { settings with topLevelType },
     defaultField "outputDir" path fun outputDir settings => { settings with outputDir }]
    {} depth

/-- The settings of the source. A command without any words is read as well, and is
no source then. -/
def sourceSettings (depth : Nat) : Decoder SourceSettings :=
  record "SourceSettings"
    [optionalField "schemaFile" path fun schemaFile settings => { settings with schemaFile },
     optionalField "command" texts fun command settings => { settings with command }]
    {} depth

/-- The settings of the generator. The program has a default, so the settings need not name one. -/
def generatorSettings (depth : Nat) : Decoder GeneratorSettings :=
  record "GeneratorSettings"
    [defaultField "program" text fun program settings => { settings with program },
     defaultField "extraArgs" texts fun extraArgs settings => { settings with extraArgs }]
    {} depth

/-- A rule. No field is needed to read it and the pattern is not compiled; a rule that lacks
something is refused only when its language is asked for. -/
def ruleSettings (depth : Nat) : Decoder RuleSettings :=
  record "RawRule"
    [optionalField "pattern" text fun pattern settings => { settings with pattern },
     optionalField "flags" text fun flags settings => { settings with flags },
     optionalField "replacement" text fun replacement settings => { settings with replacement }]
    {} depth

/-- A pattern, read in the same way as a rule but for the replacement, which is a field that is not
known here and passed over. -/
def patternSettings (depth : Nat) : Decoder PatternSettings :=
  record "RawPattern"
    [optionalField "pattern" text fun pattern settings => { settings with pattern },
     optionalField "flags" text fun flags settings => { settings with flags }]
    {} depth

/-- A replacement of a type. Its pattern is a record within the record, so the depth of what may be
nested in it is one less. -/
def typeMappingSettings (depth : Nat) : Decoder TypeMappingSettings :=
  record "RawTypeMapping"
    [optionalField "fromType" patternSettings fun fromType settings => { settings with fromType },
     optionalField "toType" text fun toType settings => { settings with toType }]
    {} depth

/-- The declarations and replaced types of a language. An empty list and one that is absent are both
read and told apart, though nothing is made of the difference. -/
def customMappingSettings (depth : Nat) : Decoder CustomMappingSettings :=
  record "RawCustomMapping"
    [optionalField "importAnchor" patternSettings fun importAnchor settings =>
       { settings with importAnchor },
     optionalField "customTypes" texts fun customTypes settings => { settings with customTypes },
     optionalField "typeMappings" (Decoder.list typeMappingSettings) fun typeMappings settings =>
       { settings with typeMappings }]
    {} depth

/-- The alias of a union. Whether it is enabled does not matter for the other fields, which are read
in any case. -/
def unionSettings (depth : Nat) : Decoder UnionSettings :=
  record "RawUnion"
    [optionalField "enabled" truth fun enabled settings => { settings with enabled },
     optionalField "template" text fun template settings => { settings with template },
     optionalField "separator" text fun separator settings => { settings with separator }]
    {} depth

/-- What is done with the schema and the text of a language. The field for the marker has a name of
its own in the document, and faults use it. -/
def processingSettings (depth : Nat) : Decoder ProcessingSettings :=
  record "RawProcessing"
    [optionalField "outputDir" path fun outputDir settings => { settings with outputDir },
     optionalField "escapePrefix" text fun escapeMarker settings =>
       { settings with escapeMarker },
     optionalField "reservedWords" texts fun reservedWords settings =>
       { settings with reservedWords },
     optionalField "propertyRegex" ruleSettings fun propertyRegex settings =>
       { settings with propertyRegex },
     optionalField "customMapping" customMappingSettings fun customMapping settings =>
       { settings with customMapping },
     optionalField "unionType" unionSettings fun unionType settings =>
       { settings with unionType }]
    {} depth

/-- The settings of a language. An empty record is read without a fault, and so a language can be
listed without being complete. -/
def languageSettings (depth : Nat) : Decoder LanguageSettings :=
  record "RawLanguage"
    [optionalField "rendererOptions" rendererOptions fun rendererOptions settings =>
       { settings with rendererOptions },
     optionalField "processing" processingSettings fun processing settings =>
       { settings with processing }]
    {} depth

/-- The source is a record that may be absent, and has a default besides. So it may be left out of
an array of the fields, unlike every other field that may be `null`. -/
def sourceField : RecordField Settings where
  name := "source"
  read := fun depth settings => do
    return { settings with source := ← optional (sourceSettings depth) }
  hasDefault := true

/-- All settings. The fields may come in any order, and one that comes twice is a fault. Fields with
other names are passed over, so settings with a misspelled name are read as if it were not there. -/
def settings (depth : Nat) : Decoder Settings :=
  record "Config"
    [defaultField "schema" schemaSettings fun schema settings => { settings with schema },
     sourceField,
     defaultField "generator" generatorSettings fun generator settings =>
       { settings with generator },
     defaultField "languages" (Decoder.table languageSettings) fun languages settings =>
       { settings with languages }]
    {} depth

end SchemaBindings.Config
