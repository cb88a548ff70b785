import SchemaBindings.Json.Value
import SchemaBindings.Schema.Document

/-!
# Settings

The settings are a document that its authors write by hand. It is kept as it was
written: what an author may leave out of the settings of a language is absent here
too, and only a language that is asked for is held against what it needs. The other
settings have defaults.
-/
namespace SchemaBindings

/-- What is written around a schema, and the directory for the schemas that are written. These are
the same for all languages. Every field has a default, so none of them can be the reason why a
language is refused. -/
structure SchemaSettings where
  title : String := "SignalWireML"
  id : String := "SignalWireML"
  draft : String := "http://json-schema.org/draft-07/schema#"
  topLevelType : String := "Instruction"
  outputDir : String := "schema"
deriving DecidableEq, Repr

/-- Where a schema comes from: a file, or a command that prints it. Both may be absent, and both may
be there; which of them is taken is decided when a run begins, and until then it is no fault that
there is none. -/
structure SourceSettings where
  schemaFile : Option String := none
  command : Option (List String) := none
deriving DecidableEq, Repr

/-- The program that generates text from a schema, and what it is told besides the options of a
language. Whether there is such a program is found out only when it is started. -/
structure GeneratorSettings where
  program : String := "quicktype"
  extraArgs : List String := []
deriving DecidableEq, Repr

/-- The value of an option that is handed to the generator. A switch is turned on or off by the name
alone; a text follows the name as an argument of its own and is not looked into. -/
inductive OptionValue where
  | switch (on : Bool)
  | text (value : String)
deriving DecidableEq, Repr

/-- The options of a language, handed to the generator in the order of the document. Which options
there are is a matter of the generator, so no name is refused here. -/
abbrev RendererOptions := Table OptionValue

/-- A rule as it is written. All three fields are needed for a rule, the flags too although they may
be empty; a field that is absent is told from an empty one until the rule is asked for. -/
structure RuleSettings where
  pattern : Option String := none
  flags : Option String := none
  replacement : Option String := none
deriving DecidableEq, Repr

/-- A pattern as it is written. It is not known here whether it stands for an anchor, whose flags
may be absent, or for a type that is replaced, which needs them. -/
structure PatternSettings where
  pattern : Option String := none
  flags : Option String := none
deriving DecidableEq, Repr

/-- A replacement of a type as it is written. The type is given by a pattern, which may fit in other
places of a line as well; nothing restricts it to names of types. -/
structure TypeMappingSettings where
  fromType : Option PatternSettings := none
  toType : Option String := none
deriving DecidableEq, Repr

/-- The declarations and replaced types of a language as they are written. Declarations need an
anchor behind which they are put, but replaced types do not, and a list that is absent is the empty
one. -/
structure CustomMappingSettings where
  importAnchor : Option PatternSettings := none
  customTypes : Option (List String) := none
  typeMappings : Option (List TypeMappingSettings) := none
deriving DecidableEq, Repr

/-- The alias of a union as it is written. It has to be enabled, and the other fields are held
against what they need only then. -/
structure UnionSettings where
  enabled : Option Bool := none
  template : Option String := none
  separator : Option String := none
deriving DecidableEq, Repr

/-- What is done with the schema and the text of a language, as it is written. The path and the rule
are needed; without a marker there is a default one, and without reserved words nothing is marked.
-/
structure ProcessingSettings where
  outputDir : Option String := none
  escapeMarker : Option String := none
  reservedWords : Option (List String) := none
  propertyRegex : Option RuleSettings := none
  customMapping : Option CustomMappingSettings := none
  unionType : Option UnionSettings := none
deriving DecidableEq, Repr

/-- The settings of a language as they are written. Both parts are needed, so that a language that
is only named is refused with the first of them. -/
structure LanguageSettings where
  rendererOptions : Option RendererOptions := none
  processing : Option ProcessingSettings := none
deriving DecidableEq, Repr

/-- All settings. Languages are a table, so each has settings once; a name that the document has
twice has those of its last place, where the first one stands. -/
structure Settings where
  schema : SchemaSettings := {}
  source : Option SourceSettings := none
  generator : GeneratorSettings := {}
  languages : Table LanguageSettings := []
deriving DecidableEq, Repr

/-- What is written around the schemas of all languages. The directory is left out, as it does not
get into a schema. -/
def SchemaSettings.envelope (settings : SchemaSettings) : Envelope where
  title := settings.title
  id := settings.id
  draft := settings.draft
  topLevel := settings.topLevelType

/-- The languages that have settings, in the order of the document. It is the order in which they
are run, and none comes twice. That a language is listed does not mean that its settings are
complete. -/
def Settings.languageIds (settings : Settings) : List String := Table.keys settings.languages

end SchemaBindings
