import SchemaBindings.Config.Settings

/-!
# Writing settings

Settings are written with every field. A field that is absent is `null`, except for
the source, which is left out.
-/
namespace SchemaBindings

namespace Config

/-- A value that may be absent is `null` where it is, which is read as absent again. -/
def orNull {α : Type} (write : α → Json) : Option α → Json
  | some value => write value
  | none => .null

/-- A list of texts, in its order. -/
def writeTexts (texts : List String) : Json := .array (texts.map .string)

end Config

open Config

/-- Write the settings of the schemas that are written. The defaults are written out, so that the
result says what has been used. -/
def SchemaSettings.toJson (settings : SchemaSettings) : Json :=
  .object [("title", .string settings.title), ("id", .string settings.id),
    ("draft", .string settings.draft), ("topLevelType", .string settings.topLevelType),
    ("outputDir", .string settings.outputDir)]

/-- Write the settings of the source. Both fields are there, though at most one of them is taken. -/
def SourceSettings.toJson (settings : SourceSettings) : Json :=
  .object [("schemaFile", orNull .string settings.schemaFile),
    ("command", orNull writeTexts settings.command)]

/-- Write the settings of the generator, its default name included. -/
def GeneratorSettings.toJson (settings : GeneratorSettings) : Json :=
  .object [("program", .string settings.program), ("extraArgs", writeTexts settings.extraArgs)]

/-- Write the value of an option. The two kinds do not look alike, so the value is read as what it
was. -/
def OptionValue.toJson : OptionValue → Json
  | .switch on => .bool on
  | .text value => .string value

/-- Write the options of a language in their order, which is the order in which the generator gets
them. -/
def RendererOptions.toJson (options : RendererOptions) : Json :=
  .object (options.map fun (name, value) => (name, value.toJson))

/-- Write a rule, whether or not its pattern could be compiled. -/
def RuleSettings.toJson (settings : RuleSettings) : Json :=
  .object [("pattern", orNull .string settings.pattern), ("flags", orNull .string settings.flags),
    ("replacement", orNull .string settings.replacement)]

/-- Write a pattern. Flags that are absent stay so and do not become empty ones. -/
def PatternSettings.toJson (settings : PatternSettings) : Json :=
  .object [("pattern", orNull .string settings.pattern), ("flags", orNull .string settings.flags)]

/-- Write a replacement of a type, with the record for its pattern or `null` in its place. -/
def TypeMappingSettings.toJson (settings : TypeMappingSettings) : Json :=
  .object [("fromType", orNull PatternSettings.toJson settings.fromType),
    ("toType", orNull .string settings.toType)]

/-- Write the declarations and replaced types of a language. The order of the replacements matters,
as they are made one after the other, and is kept. -/
def CustomMappingSettings.toJson (settings : CustomMappingSettings) : Json :=
  .object [("importAnchor", orNull PatternSettings.toJson settings.importAnchor),
    ("customTypes", orNull writeTexts settings.customTypes),
    ("typeMappings", orNull (fun mappings => .array (mappings.map TypeMappingSettings.toJson))
      settings.typeMappings)]

/-- Write the alias of a union. One that is not enabled is written with all its fields just as well.
-/
def UnionSettings.toJson (settings : UnionSettings) : Json :=
  .object [("enabled", orNull .bool settings.enabled),
    ("template", orNull .string settings.template),
    ("separator", orNull .string settings.separator)]

/-- Write what is done with the schema and the text of a language. The marker has the name here that
it has in the document. -/
def ProcessingSettings.toJson (settings : ProcessingSettings) : Json :=
  .object [("outputDir", orNull .string settings.outputDir),
    ("escapePrefix", orNull .string settings.escapeMarker),
    ("reservedWords", orNull writeTexts settings.reservedWords),
    ("propertyRegex", orNull RuleSettings.toJson settings.propertyRegex),
    ("customMapping", orNull CustomMappingSettings.toJson settings.customMapping),
    ("unionType", orNull UnionSettings.toJson settings.unionType)]

/-- Write the settings of a language as they were written, without any default that would be taken
for them. -/
def LanguageSettings.toJson (settings : LanguageSettings) : Json :=
  .object [("rendererOptions", orNull RendererOptions.toJson settings.rendererOptions),
    ("processing", orNull ProcessingSettings.toJson settings.processing)]

/-- Write all settings. The source is the one field that is left out where it is absent, and it
stands in its place between the others where it is not. -/
def Settings.toJson (settings : Settings) : Json :=
  .object (("schema", settings.schema.toJson)
    :: (match settings.source with
        | some source => [("source", source.toJson)]
        | none => [])
    ++ [("generator", settings.generator.toJson),
        ("languages",
          .object (settings.languages.map fun (id, language) => (id, language.toJson)))])

end SchemaBindings
