import SchemaBindings.Workspace.Files

/-!
# Writing files as a whole

A file is written beside its place and then moved there, so that whoever reads it
finds the old content or the new one and nothing in between. The directories on the
way are made first. What has been written beside the place stays there if it cannot
be moved.
-/
namespace SchemaBindings

/-- A fault of an operation on a file, with the path that was operated on. -/
structure FileError where
  path : String
  cause : OsError
deriving DecidableEq, Repr

/-- The text that describes the fault. -/
def FileError.message (error : FileError) : String :=
  "i/o error on " ++ error.path ++ ": " ++ error.cause.message

namespace Files

/-- Name the path that a step of an operation is about. -/
def about {α : Type} (path : String) (action : FileAction OsError α) : FileAction FileError α :=
  action.adapt fun cause => ⟨path, cause⟩

/-- Replace the files by what a step makes of them. -/
def change (step : Files → Except OsError Files) : FileAction OsError Unit := do
  match step (← get) with
  | .ok files => set files
  | .error cause => throw cause

/-- The path beside another one to which a file is written at first. -/
def stagingPath (path : String) : String :=
  Path.withFileName path ("." ++ (Path.fileName? path).getD "" ++ ".tmp")

/-- Write a file as a whole. -/
def writeWhole (path : String) (content : List UInt8) : FileAction FileError Unit := do
  match Path.parent? path with
  | some parent =>
    unless parent.isEmpty do about parent (makeDirectories (Path.ancestors parent))
  | none => pure ()
  let staging := stagingPath path
  about staging (change (·.writeFile staging content))
  about path (change (·.moveFile staging path))

end Files

end SchemaBindings
