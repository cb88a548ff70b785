import SchemaBindings.CommandLine.Run

/-!
# The program

The files below the working directory are read, a command line is run on them, and
the files that it has changed are written. All decisions are made by the command
line; nothing here looks at what the files hold, except that a file that begins like a
script is taken to be executable.

No other program is ever started: those that a run needs are scripts among the files,
or plain programs that the library runs itself.
-/
namespace SchemaBindings

/-- Whether a file is taken to be executable. -/
def looksExecutable (content : List UInt8) : Bool := content.take 2 == [35, 33]

/-- Read the files below a directory. -/
partial def loadEntries (place : Location) (entries : List IO.FS.DirEntry) (files : Files) :
    IO Files := do
  let mut files := files
  for entry in entries do
    let location := place ++ [entry.fileName]
    match (← entry.path.symlinkMetadata).type with
    | .dir =>
      files ← loadEntries location (← entry.path.readDir).toList (files.put location .directory)
    | .file =>
      let content := (← IO.FS.readBinFile entry.path).toList
      files := files.put location (.file content (looksExecutable content))
    | _ => pure ()
  return files

/-- Write the files that differ from those there were before, and remove those that are gone. -/
def storeChanges (before after : Files) : IO Unit := do
  for (path, entry) in after.listing do
    if before.find? path != some entry then
      match entry with
      | .directory => IO.FS.createDirAll path
      | .file content _ => IO.FS.writeBinFile path content.toByteArray
  for (path, entry) in before.listing do
    if entry != .directory && !after.hasPath path then IO.FS.removeFile path

/-- Run a command line on the files below the working directory. -/
def runHere (arguments : List String) : IO UInt32 := do
  let directory ← IO.currentDir
  let before ← loadEntries Files.empty.workingDirectory (← directory.readDir).toList .empty
  let (output, after) := CommandLine.run arguments before
  storeChanges before after
  (← IO.getStdout).putStr output.stdout
  (← IO.getStderr).putStr output.stderr
  return .ofNat output.code

end SchemaBindings

/-- The program. -/
def main (arguments : List String) : IO UInt32 := SchemaBindings.runHere arguments
