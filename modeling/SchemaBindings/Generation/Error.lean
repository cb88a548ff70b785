import SchemaBindings.Config.Error
import SchemaBindings.Program.Result
import SchemaBindings.Schema.Error
import SchemaBindings.Workspace.Atomic

/-!
# Faults of a run

A run may fail on its settings, on the schema, on a program it needs, or on a file.
Some faults have a cause of their own, which their text ends with; where a fault is
reported with all its causes, the causes come once more after it.
-/
namespace SchemaBindings

/-- Why the output of a program is refused. A program that ends well may have printed anything; it
is held against what it was started for only then. -/
inductive OutputFault where
  | notText (fault : Text.Utf8Fault)
  | notJson (error : Json.ReadError)
deriving DecidableEq, Repr

/-- The text that describes the fault. It says where in the output the fault is, but not which
program has printed it. -/
def OutputFault.message : OutputFault → String
  | .notText fault => fault.message
  | .notJson error => error.message

/-- A fault of a program that a run needs. A program that could not be started, one that ended badly
and one that printed something else are told apart, since what is to be done about them differs. -/
inductive ServiceError where
  | notStarted (program : String) (cause : OsError)
  | failed (program : String) (status : Program.ExitStatus) (stderr : String)
  | invalidOutput (program : String) (fault : OutputFault)
  | noSource
deriving DecidableEq, Repr

/-- The text that describes the fault. What the program has complained of stands at its end and is
not shortened. -/
def ServiceError.message : ServiceError → String
  | .notStarted program cause => "failed to start '" ++ program ++ "': " ++ cause.message
  | .failed program status stderr =>
    "'" ++ program ++ "' exited with " ++ status.message ++ ": " ++ stderr
  | .invalidOutput program fault =>
    "'" ++ program ++ "' produced invalid output: " ++ fault.message
  | .noSource => "no schema source configured (pass --schema or set 'source' in the configuration)"

/-- A file without which a run cannot go on. These are looked for before they are read, so that a
file that is missing is told from one that cannot be read. -/
inductive Resource where
  | settings
  | schemaSource
  | escapedSchema
deriving DecidableEq, Repr

/-- What a file is called in messages. -/
def Resource.text : Resource → String
  | .settings => "configuration file"
  | .schemaSource => "schema source"
  | .escapedSchema => "intermediate schema"

/-- A fault of a run. Every part that can fail has a kind of its own, and the part's own fault is
kept in it as it is. -/
inductive RunError where
  | config (error : ConfigError)
  | schema (error : SchemaError)
  | service (error : ServiceError)
  | notFound (resource : Resource) (path : String)
  | file (error : FileError)
deriving DecidableEq, Repr

namespace RunError

/-- The text that describes the fault. It is that of the part which failed, with nothing put in
front. -/
def message : RunError → String
  | .config error => error.message
  | .schema error => error.message
  | .service error => error.message
  | .notFound resource path => resource.text ++ " not found: " ++ path
  | .file error => error.message

/-- The texts of the causes of a fault. Most faults have none besides what their text says; those
that come from a pattern, from the start of a program or from a file have one. -/
def causes : RunError → List String
  | .config (.invalidRule _ _ error) => [error.message]
  | .service (.notStarted _ cause) => [cause.message]
  | .file error => [error.cause.message]
  | _ => []

/-- The text that describes the fault and all its causes. Texts end with their cause already, so the
cause is written twice, as it is where faults are reported. -/
def messageWithCauses (error : RunError) : String :=
  ": ".intercalate (error.message :: error.causes)

end RunError

end SchemaBindings
