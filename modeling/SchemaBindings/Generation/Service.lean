import SchemaBindings.Config.Settings
import SchemaBindings.Generation.Error
import SchemaBindings.Json.Decoder
import SchemaBindings.Program.Shell
import SchemaBindings.Text.Lines

/-!
# Services

A run depends on two services: one that gives the schema of a type, and one that
turns a schema into lines of text. The first reads a file or runs a command that
prints the schema; the second runs the generator. Whatever a service answers or
refuses is handed on as it is, and the files are left as it leaves them.
-/
namespace SchemaBindings

/-- What the generator is asked for. The schema is there as a value and as a file; the generator
that settings ask for reads the file, and another service may take the value. -/
structure GenerationRequest where
  language : String
  topLevel : String
  /-- The schema with its markers, which stands at `schemaPath` too. -/
  schema : Json
  schemaPath : String
  options : RendererOptions

/-- The two services. Each is handed the files and leaves them as it likes, also when it fails, so
nothing can be said of the files after it but what holds of the service. -/
structure Services where
  extract : (typeName : String) → FileAction RunError Json
  generate : GenerationRequest → FileAction RunError (List String)

/-- What the end of a program comes to: the text that it has printed, or the reason why there is
none. A program that ends badly has given nothing, whatever it has printed, and its complaint is
read as text even where it is none. -/
def printedText (program : String) (outcome : Except OsError Program.Result) :
    Except RunError String :=
  match outcome with
  | .error cause => .error (.service (.notStarted program cause))
  | .ok result =>
    if result.status = .exited 0 then
      match Text.decode result.stdout with
      | .ok text => .ok text
      | .error fault => .error (.service (.invalidOutput program (.notText fault)))
    else
      let complaint := Text.trimmed (Text.decodeReplacing 0 result.stderr)
      .error (.service (.failed program result.status (.ofList complaint)))

/-- Run a program for what it prints. What it has done to the files stays done, whether or not its
output is taken. -/
def printed (program : String) (arguments : List String) : FileAction RunError String := do
  let (outcome, files) := Program.run (← get) program arguments
  set files
  liftExcept (printedText program outcome)

/-- A value that a program or a file is to give. The whole text has to be one value, with nothing
but blanks around it; where it is not, the one who has given it is named. -/
def parsedOutput (program text : String) : Except RunError Json :=
  match Json.parseWhole text with
  | .ok value => .ok value
  | .error error => .error (.service (.invalidOutput program (.notJson error)))

/-- Where a schema comes from. A command is its program followed by its arguments, and one without a
program is no source. -/
inductive SchemaSource where
  | file (path : String)
  | command (words : List String)
deriving DecidableEq, Repr

namespace SchemaSource

/-- The argument that stands for the name of the type. It has to be an argument as a whole; within a
longer one it stands for itself. -/
def typeMark : String := "\x7btype\x7d"

/-- Get the schema of a type. A file is read and not changed, and it gives the same schema for every
type; a command may do anything and is told the type where it asks for it. -/
def extract (source : SchemaSource) (typeName : String) : FileAction RunError Json := do
  match source with
  | .file path =>
    let files ← get
    if files.hasPath path then
      match files.readText path with
      | .ok text => liftExcept (parsedOutput path text)
      | .error cause => throw (.file ⟨path, cause⟩)
    else throw (.notFound .schemaSource path)
  | .command [] => throw (.service .noSource)
  | .command (program :: arguments) =>
    let arguments :=
      arguments.map fun argument => if argument = typeMark then typeName else argument
    liftExcept (parsedOutput program (← printed program arguments))

end SchemaSource

/-- The source that settings name; a file that is given besides comes before them, and a file that
they name before a command. Whether the source is there is not looked at, and one that is not is no
reason to take the next. -/
def Settings.schemaSource (settings : Settings) (given : Option String) :
    Except RunError SchemaSource :=
  match given with
  | some path => .ok (.file path)
  | none =>
    let source := settings.source.getD {}
    match source.schemaFile with
    | some path => .ok (.file path)
    | none =>
      match source.command with
      | some (program :: arguments) => .ok (.command (program :: arguments))
      | _ => .error (.service .noSource)

namespace GeneratorSettings

/-- The arguments that an option becomes. A switch that is off is not left out, as the generator may
turn it on by itself. -/
def optionArguments : String × OptionValue → List String
  | (name, .switch true) => ["--" ++ name]
  | (name, .switch false) => ["--no-" ++ name]
  | (name, .text value) => ["--" ++ name, value]

/-- The arguments that the generator is run with. The path of the schema comes last, behind the
options of the language and the extra arguments, in this order, so that extra arguments can take
back an option. -/
def arguments (settings : GeneratorSettings) (request : GenerationRequest) : List String :=
  ["--src-lang", "schema", "--lang", request.language, "--top-level", request.topLevel]
    ++ request.options.flatMap optionArguments ++ settings.extraArgs ++ [request.schemaPath]

/-- Run the generator. Its schema has to be there, and its lines are those of the text that it
prints; the end of the last line does not begin another one. -/
def generate (settings : GeneratorSettings) (request : GenerationRequest) :
    FileAction RunError (List String) := do
  if (← get).hasPath request.schemaPath then
    return Text.lines (← printed settings.program (settings.arguments request))
  else throw (.notFound .escapedSchema request.schemaPath)

end GeneratorSettings

/-- The services that settings ask for. Only the source is chosen elsewhere, since the command line
has a say in it. -/
def Settings.services (settings : Settings) (source : SchemaSource) : Services where
  extract := source.extract
  generate := settings.generator.generate

end SchemaBindings
