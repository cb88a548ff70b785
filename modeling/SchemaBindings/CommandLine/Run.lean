import SchemaBindings.CommandLine.Arguments

/-!
# Running commands

A command reads the settings, does its work on the files, and ends with what it
prints and a code: zero if all went well, one if something failed, and two if the
command line itself is refused.
-/
namespace SchemaBindings.CommandLine

/-- How a command has ended, and what it has printed. -/
structure Output where
  code : Nat := 0
  stdout : String := ""
  stderr : String := ""
deriving DecidableEq, Repr

/-- A fault with what was being done. -/
structure Failure where
  context : Option String := none
  error : RunError

/-- The line that reports a fault. -/
def Failure.line (failure : Failure) : String :=
  let context :=
    match failure.context with
    | some context => context ++ ": "
    | none => ""
  "error: " ++ context ++ failure.error.messageWithCauses ++ "\n"

/-- A command at work. -/
abbrev Work (α : Type) := ExceptT Failure (StateM World) α

/-- Do a part of a run. -/
def during {α : Type} (part : Run α) : Work α := part.adapt fun error => ⟨none, error⟩

/-- Read the settings. -/
def loadSettings (path : String) : Work Settings := do
  match Settings.load (← get).files path with
  | .ok settings => return settings
  | .error error => throw ⟨some ("loading " ++ path), error⟩

/-- The services that settings ask for. -/
def servicesOf (settings : Settings) (schema : Option String) : Work Services :=
  during (Run.ofExcept ((settings.schemaSource schema).map settings.services))

/-- The line for a language that has been run. -/
def artifactsLine (artifacts : Artifacts) : String :=
  "✓ " ++ artifacts.language ++ ": " ++ artifacts.sourcePath ++ " (" ++ toString artifacts.lines
    ++ " lines, " ++ toString artifacts.escapedProperties ++ " escaped, "
    ++ toString artifacts.unionMembers ++ " union members)\n"

/-- The line for a language that has failed. -/
def failureLine (failed : String × RunError) : String :=
  "✗ " ++ failed.1 ++ ": " ++ failed.2.message ++ "\n"

/-- The text of a report. -/
def reportText (report : Report) : String :=
  String.join (report.succeeded.map artifactsLine ++ report.failed.map failureLine)

/-- The line for a language that has settings, and whether they are complete. -/
def languageLine (settings : Settings) (id : String) : String × Bool :=
  match settings.language id with
  | .ok language => ("✓ " ++ id ++ " → " ++ language.outputPath ++ "\n", true)
  | .error error => ("✗ " ++ id ++ ": " ++ error.message ++ "\n", false)

/-- Write a text to a file. -/
def writeText (path text : String) : Work Unit := do
  let world ← get
  let (outcome, files) := (Files.writeWhole path (Text.encode text.toList)).run.run world.files
  set { world with files }
  match outcome with
  | .ok () => return
  | .error error => throw ⟨none, .file error⟩

/-- Do what a command asks for. -/
def perform : Command → Work Output
  | .version => return { stdout := "swml-sdk-gen 0.1.0\n" }
  | .help => return {}
  | .generate target path schema _ => do
    let settings ← loadSettings path
    let services ← servicesOf settings schema
    let report ← during (Run.target settings services target)
    return { code := if report.isSuccess then 0 else 1, stderr := reportText report }
  | .schema id path schema out => do
    let settings ← loadSettings path
    let language ← during (Run.ofExcept ((settings.language id).mapError .config))
    let services ← servicesOf settings schema
    let prepared ← during (Run.prepare settings services language)
    let text := prepared.escaped.toJson.indented
    match out with
    | none => return { stdout := text ++ "\n" }
    | some out =>
      writeText out text
      return {
        stderr := "wrote " ++ out ++ " (" ++ toString prepared.escapedProperties
          ++ " properties escaped)\n" }
  | .languages path => do
    let settings ← loadSettings path
    let lines := settings.languageIds.map (languageLine settings)
    return {
      code := if lines.all (·.2) then 0 else 1
      stdout := String.join (lines.map (·.1)) }

/-- Run a command line on files. -/
def run (words : List String) (files : Files) : Output × Files :=
  match parse words with
  | none => ({ code := 2 }, files)
  | some command =>
    let (outcome, world) := (perform command).run.run ⟨files, []⟩
    match outcome with
    | .ok output => (output, world.files)
    | .error failure => ({ code := 1, stderr := failure.line }, world.files)

end SchemaBindings.CommandLine
