import SchemaBindings.Config.Language
import SchemaBindings.Generation.Service
import SchemaBindings.Json.Printer

/-!
# Runs

A run for a language gets the schema, writes it down, marks its reserved words and
checks that the markers can be taken away again, writes it down once more, has it
turned into lines, finishes the lines, writes them, and at last takes the markers
from the schema and writes that. The first fault ends the run, and what has been
written stays.

Languages are run one after the other in the order of the settings. A fault of one
does not keep the others from running.
-/
namespace SchemaBindings

/-- The files that a run writes. The first two and the last are schemas, in the order in which they
are made from one another. -/
inductive ArtifactKind where
  | rawSchema
  | escapedSchema
  | source
  | finalSchema
deriving DecidableEq, Repr

/-- What a run does to the world around it. An effect is noted before it is tried, so the last one
in a list may have failed. -/
inductive Effect where
  | extract (typeName : String)
  | write (artifact : ArtifactKind) (path : String)
  | generate (language : String)
deriving DecidableEq, Repr

/-- The world around a run: the files, and what runs have set about doing so far, in order. The
notes are never read by a run, so they cannot change how it goes on. -/
structure World where
  files : Files
  effects : List Effect := []

/-- A part of a run. What it has done before it fails stays done, and nothing is cleaned up after
it. -/
abbrev Run (α : Type) := ExceptT RunError (StateM World) α

/-- A way to write a file as a whole. Runs use one that moves a file to its place when all of it has
been written, but what is said of their order holds of any. -/
abbrev FileWriter := (path : String) → (content : List UInt8) → FileAction FileError Unit

/-- A schema that is ready for the generator, with the value that it was made from and the number of
properties that were marked on the way. -/
structure PreparedSchema where
  raw : Json
  escaped : Schema
  escapedProperties : Nat

/-- What a run has written. It is there only if all files have been written; the numbers are those
that are reported. -/
structure Artifacts where
  language : String
  sourcePath : String
  rawSchemaPath : String
  escapedSchemaPath : String
  finalSchemaPath : String
  escapedProperties : Nat
  unionMembers : Nat
  lines : Nat
deriving DecidableEq, Repr

/-- The text of lines. It ends with the end of a line, also if there are no lines at all, and an
empty last line is not ended twice. -/
def sourceText (lines : List String) : String :=
  let text := "\n".intercalate lines
  if text.toList.getLast? == some '\n' then text else text ++ "\n"

/-- The text of a value in a file. Each value ends with the end of a line, as texts that are written
by hand do. -/
def documentText (value : Json) : String := value.indented ++ "\n"

namespace Run

/-- Go on with a result. Nothing is done to the world, be it a value or a fault. -/
def ofExcept {α : Type} (result : Except RunError α) : Run α :=
  match result with
  | .ok value => return value
  | .error error => throw error

/-- Note that something is about to be done. A note cannot fail, and it is the only thing that is
done before the files are touched. -/
def note (effect : Effect) : Run Unit :=
  modify fun world => { world with effects := world.effects ++ [effect] }

/-- Do something with the files. They are left in the world as the action leaves them, even if it
fails. -/
def onFiles {α : Type} (action : FileAction RunError α) : Run α := do
  let world ← get
  let (outcome, files) := action.run.run world.files
  set { world with files }
  ofExcept outcome

/-- Write an artifact. The text is written as bytes in one form only, and any fault is one of a file
and names the path. -/
def write (writer : FileWriter) (artifact : ArtifactKind) (path text : String) : Run Unit := do
  note (.write artifact path)
  onFiles ((writer path (Text.encode text.toList)).adapt .file)

/-- Ask for the schema of the top-level type. The type is the same for all languages, but each of
them asks on its own, and may get another answer. -/
def extract (settings : Settings) (services : Services) : Run Json := do
  note (.extract settings.schema.topLevelType)
  onFiles (services.extract settings.schema.topLevelType)

/-- Ask for the lines of a language. -/
def generate (services : Services) (request : GenerationRequest) : Run (List String) := do
  note (.generate request.language)
  onFiles (services.generate request)

end Run

/-- Mark the reserved words of a schema and check that this can be undone. Required names are looked
at after marking; a name that is required and not described may have become the name of a marked
property by then. -/
def Settings.prepareValue (settings : Settings) (language : Language) (raw : Json) :
    Except SchemaError PreparedSchema := do
  let schema ← Schema.ofJson raw
  let (escaped, outcome) :=
    (schema.enveloped settings.schema.envelope).escape language.reserved language.escaping
  let escapedProperties ← outcome
  match escaped.violations with
  | violation :: _ => throw violation
  | [] =>
    escaped.checkRoundTrip language.reserved language.escaping language.restoring
    return ⟨raw, escaped, escapedProperties⟩

/-- Mark the reserved words of a schema as a part of a run. The world is not touched. -/
def Run.prepareValue (settings : Settings) (language : Language) (raw : Json) :
    Run PreparedSchema :=
  match settings.prepareValue language raw with
  | .ok prepared => return prepared
  | .error error => throw (.schema error)

/-- Get a schema and prepare it. Nothing is written, so this can be asked for ahead of a run to see
whether it would come to the generator. -/
def Run.prepare (settings : Settings) (services : Services) (language : Language) :
    Run PreparedSchema := do
  Run.prepareValue settings language (← Run.extract settings services)

/-- The directory for the schemas of a language. It is named like the language, so a name that is a
path leads to wherever this path does, and two languages may have one directory. -/
def Settings.schemaDirectory (settings : Settings) (language : String) : String :=
  Path.join settings.schema.outputDir language

namespace Language

/-- The lines of the source of a language, from those that the generator has given. Markers are
taken away, types replaced, declarations added and the alias appended, and the order matters. -/
def sourceLines (language : Language) (union generated : List String) : List String :=
  finishLines language.escaping.marker language.restoring language.custom generated union

/-- The schema whose names are those of the source. It is restored from the marked schema, and a
schema that could not be restored as a whole is not given in part. -/
def documented (language : Language) (escaped : Schema) : Except SchemaError Schema :=
  match escaped.restore language.escaping language.restoring with
  | (schema, .ok _) => .ok schema
  | (_, .error error) => .error error

end Language

/-- Run a language, writing files in some way. Settings that are not complete are found out before
anything is done, and whether the markers can be taken away is known before the generator is run;
after it, only writes can fail. -/
def Run.languageBy (writer : FileWriter) (settings : Settings) (services : Services) (id : String) :
    Run Artifacts := do
  let language ← Run.ofExcept ((settings.language id).mapError .config)
  let directory := settings.schemaDirectory id
  let rawSchemaPath := Path.join directory "generated-schema.json"
  let escapedSchemaPath := Path.join directory "postProcess.json"
  let finalSchemaPath := Path.join directory "final.schema.json"
  let raw ← Run.extract settings services
  Run.write writer .rawSchema rawSchemaPath (documentText raw)
  let prepared ← Run.prepareValue settings language raw
  let schema := prepared.escaped.toJson
  Run.write writer .escapedSchema escapedSchemaPath (documentText schema)
  let topLevel := settings.schema.topLevelType
  let generated ←
    Run.generate services ⟨id, topLevel, schema, escapedSchemaPath, language.options⟩
  let union := language.union.lines prepared.escaped topLevel
  let lines := language.sourceLines union generated
  Run.write writer .source language.outputPath (sourceText lines)
  let documented ← Run.ofExcept ((language.documented prepared.escaped).mapError .schema)
  Run.write writer .finalSchema finalSchemaPath (documentText documented.toJson)
  return {
    language := id
    sourcePath := language.outputPath
    rawSchemaPath
    escapedSchemaPath
    finalSchemaPath
    escapedProperties := prepared.escapedProperties
    unionMembers := if union.isEmpty then 0 else (prepared.escaped.unionMembers topLevel).length
    lines := lines.length }

/-- Run a language. Each file is moved to its place when all of it has been written, so that at the
path of an artifact there is never a part of it. -/
def Run.language (settings : Settings) (services : Services) (id : String) : Run Artifacts :=
  Run.languageBy Files.writeWhole settings services id

/-- What is run: all languages, or one. -/
inductive Target where
  | all
  | language (id : String)
deriving DecidableEq, Repr

namespace Target

/-- The target that a text names; an asterisk names all languages, so one of this name cannot be run
by itself. -/
def ofText (text : String) : Target := if text = "*" then .all else .language text

/-- The text that names a target. It is read back as the same target, unless it is that of a
language which is called by the asterisk. -/
def text : Target → String
  | .all => "*"
  | .language id => id

end Target

/-- How the run of a language has ended. What it has written before a fault is not listed, though it
is there. -/
structure Outcome where
  language : String
  result : Except RunError Artifacts

/-- How the runs of all languages have ended, in the order of the settings. There is an outcome for
each of them, as no fault keeps the others from running. -/
structure Report where
  outcomes : List Outcome

namespace Report

/-- What has been written for the languages that succeeded, in the order in which they were run. -/
def succeeded (report : Report) : List Artifacts :=
  report.outcomes.filterMap fun outcome => outcome.result.toOption

/-- The languages that failed, and why. -/
def failed (report : Report) : List (String × RunError) :=
  report.outcomes.filterMap fun outcome =>
    match outcome.result with
    | .ok _ => none
    | .error error => some (outcome.language, error)

/-- Whether no language failed. A report without any languages is one of success. -/
def isSuccess (report : Report) : Bool := report.failed.isEmpty

end Report

namespace Run

/-- Run languages one after the other. Each begins in the world that the one before has left,
whether that one failed or not. -/
def outcomes (settings : Settings) (services : Services) :
    List String → StateM World (List Outcome)
  | [] => return []
  | id :: others => do
    let result ← (Run.language settings services id).run
    let later ← outcomes settings services others
    return ⟨id, result⟩ :: later

/-- Run a target. A single language that has no settings is a fault of its own and gives no report,
while one whose settings are not complete is run and fails. -/
def target (settings : Settings) (services : Services) (target : Target) : Run Report := do
  match target with
  | .all => return ⟨← outcomes settings services settings.languageIds⟩
  | .language id =>
    if Table.has settings.languages id then return ⟨← outcomes settings services [id]⟩
    else throw (.config (.unknownLanguage id))

end Run

/-- Read the settings of a file. A file that is missing is told from one that cannot be read, and
this from one whose text is no settings. -/
def Settings.load (files : Files) (path : String) : Except RunError Settings :=
  if files.hasPath path then
    match files.readText path with
    | .ok text => (Settings.ofText path text).mapError .config
    | .error cause => .error (.file ⟨path, cause⟩)
  else .error (.notFound .settings path)

end SchemaBindings
