import SchemaBindings.Text.Utf8
import SchemaBindings.Workspace.Path

/-!
# Files

Files and directories stand at locations, the names that lead to them from the root.
A path is looked up from the working directory, name by name: two points lead to the
directory above, and whatever is followed by another name, or by a slash, has to be a
directory. Operations fail as those of an operating system do, and when an operation
of several steps fails, the steps before stay done.
-/
namespace SchemaBindings

/-- The names that lead to a file or directory. -/
abbrev Location := List String

/-- What stands at a location. -/
inductive Entry where
  | file (content : List UInt8) (executable : Bool)
  | directory
deriving DecidableEq, Repr

/-- Why an operation on files fails. -/
inductive OsError where
  | noEntry
  | execFormat
  | permissionDenied
  | busy
  | fileExists
  | notDirectory
  | isDirectory
  | nameTooLong
  | nulInPath
  | nulInArgument
  | notText
deriving DecidableEq, Repr

/-- The text that describes the cause. -/
def OsError.message : OsError → String
  | .noEntry => "No such file or directory (os error 2)"
  | .execFormat => "Exec format error (os error 8)"
  | .permissionDenied => "Permission denied (os error 13)"
  | .busy => "Device or resource busy (os error 16)"
  | .fileExists => "File exists (os error 17)"
  | .notDirectory => "Not a directory (os error 20)"
  | .isDirectory => "Is a directory (os error 21)"
  | .nameTooLong => "File name too long (os error 36)"
  | .nulInPath => "file name contained an unexpected NUL byte"
  | .nulInArgument => "nul byte found in provided data"
  | .notText => "stream did not contain valid UTF-8"

/-- All files, and the directory from which paths are looked up. -/
structure Files where
  entries : List (Location × Entry)
  workingDirectory : Location
deriving DecidableEq, Repr

/-- An operation on files. What it has done before it fails stays done. -/
abbrev FileAction (ε α : Type) := ExceptT ε (StateM Files) α

namespace Files

/-- An empty working directory. -/
def empty : Files := ⟨[(["work"], .directory)], ["work"]⟩

/-- What stands at a location. The root is always there. -/
def entry? (files : Files) (location : Location) : Option Entry :=
  if location.isEmpty then some .directory else files.entries.lookup location

/-- Put an entry into a list of entries. -/
def putEntry (location : Location) (entry : Entry) :
    List (Location × Entry) → List (Location × Entry)
  | [] => [(location, entry)]
  | (present, old) :: rest =>
    if present = location then (location, entry) :: rest
    else (present, old) :: putEntry location entry rest

/-- Put an entry at a location. -/
def put (files : Files) (location : Location) (entry : Entry) : Files :=
  { files with entries := putEntry location entry files.entries }

/-- Remove the entry at a location. -/
def remove (files : Files) (location : Location) : Files :=
  { files with entries := files.entries.filter fun entry => entry.1 != location }

/-- Make directories out of whatever is not there yet, name by name. -/
def provideDirectories (files : Files) : Location → List String → Files
  | _, [] => files
  | place, name :: names =>
    let location := place ++ [name]
    match files.entry? location with
    | some _ => provideDirectories files location names
    | none => provideDirectories (files.put location .directory) location names

/-- Put an entry at a path below the working directory, with the directories above it. -/
def provide (files : Files) (path : String) (entry : Entry) : Files :=
  let names := (Path.segments path).filter fun name => !Path.isFiller name
  (files.provideDirectories files.workingDirectory names.dropLast).put
    (files.workingDirectory ++ names) entry

/-- Whether a directory stands at a location. -/
def hasDirectory (files : Files) (location : Location) : Bool :=
  files.entry? location == some .directory

/-- The greatest number of bytes in a name. -/
def nameLimit : Nat := 255

/-- The greatest number of bytes in a path. -/
def pathLimit : Nat := 4095

/-- Follow names from a location. -/
def walk (files : Files) : Location → List String → Except OsError Location
  | place, [] => .ok place
  | place, name :: names =>
    if !files.hasDirectory place then .error .notDirectory
    else if Path.isFiller name then walk files place names
    else if name == ".." then walk files place.dropLast names
    else if nameLimit < name.utf8ByteSize then .error .nameTooLong
    else
      match files.entry? (place ++ [name]) with
      | none => .error .noEntry
      | some _ => walk files (place ++ [name]) names

/-- The location at which a path is looked up. -/
def startOf (files : Files) (path : String) : Location :=
  if Path.isAbsolute path then [] else files.workingDirectory

/-- Refuse paths that cannot be looked up at all. -/
def checkPath (path : String) : Except OsError Unit :=
  if path.toList.contains '\x00' then .error .nulInPath
  else if path.isEmpty then .error .noEntry
  else if pathLimit < path.utf8ByteSize then .error .nameTooLong
  else .ok ()

/-- The location of what a path names. -/
def locate (files : Files) (path : String) : Except OsError Location := do
  checkPath path
  files.walk (files.startOf path) (Path.segments path)

/-- What a path names. -/
def find? (files : Files) (path : String) : Option Entry :=
  match files.locate path with
  | .ok location => files.entry? location
  | .error _ => none

/-- Whether a path names anything. -/
def hasPath (files : Files) (path : String) : Bool := (files.find? path).isSome

/-- Whether a path names a directory. -/
def isDirectory (files : Files) (path : String) : Bool := files.find? path == some .directory

/-- Where something is to be made: the directory, the name in it, and whether the path goes on with
a slash. The name is none of the usual kind if the path ends in points or is the root. -/
structure Spot where
  directory : Location
  name : Option String
  slash : Bool

/-- The spot that a path names. -/
def spotOf (files : Files) (path : String) : Except OsError Spot := do
  checkPath path
  let backwards := (Path.segments path).reverse
  let slash := backwards.head? == some ""
  match backwards.dropWhile String.isEmpty with
  | [] => return ⟨[], none, slash⟩
  | last :: above =>
    let directory ← files.walk (files.startOf path) above.reverse
    if !files.hasDirectory directory then throw .notDirectory
    else if last == "." || last == ".." then return ⟨directory, none, slash⟩
    else if nameLimit < last.utf8ByteSize then throw .nameTooLong
    else return ⟨directory, some last, slash⟩

/-- Read a file as a text. -/
def readText (files : Files) (path : String) : Except OsError String := do
  match files.entry? (← files.locate path) with
  | none => throw .noEntry
  | some .directory => throw .isDirectory
  | some (.file content _) =>
    match Text.decode content with
    | .ok text => return text
    | .error _ => throw .notText

/-- Make a directory. -/
def makeDirectory (files : Files) (path : String) : Except OsError Files := do
  let spot ← files.spotOf path
  match spot.name with
  | none => throw .fileExists
  | some name =>
    let location := spot.directory ++ [name]
    match files.entry? location with
    | some _ => throw .fileExists
    | none => return files.put location .directory

/-- Write a file. A file that is there already stays executable if it is. -/
def writeFile (files : Files) (path : String) (content : List UInt8) : Except OsError Files := do
  let spot ← files.spotOf path
  match spot.name with
  | none => throw .isDirectory
  | some name =>
    let location := spot.directory ++ [name]
    if spot.slash then throw .isDirectory
    else
      match files.entry? location with
      | some .directory => throw .isDirectory
      | some (.file _ executable) => return files.put location (.file content executable)
      | none => return files.put location (.file content false)

/-- Move a file over whatever file there may be at another place. -/
def moveFile (files : Files) (source target : String) : Except OsError Files := do
  let sourceSpot ← files.spotOf source
  let targetSpot ← files.spotOf target
  match sourceSpot.name, targetSpot.name with
  | some sourceName, some targetName =>
    let sourceLocation := sourceSpot.directory ++ [sourceName]
    let targetLocation := targetSpot.directory ++ [targetName]
    match files.entry? sourceLocation with
    | some (.file content executable) =>
      if sourceSpot.slash || targetSpot.slash then throw .notDirectory
      else if sourceLocation = targetLocation then return files
      else if files.hasDirectory targetLocation then throw .isDirectory
      else return (files.remove sourceLocation).put targetLocation (.file content executable)
    | some .directory => throw .isDirectory
    | none => throw .noEntry
  | _, _ => throw .busy

/-- Make the first of some directories, each of which lies in the next. A directory that is there
already is no fault. -/
def makeDirectories : List String → FileAction OsError Unit
  | [] => return
  | path :: above => do
    match (← get).makeDirectory path with
    | .ok files => set files
    | .error .noEntry =>
      makeDirectories above
      match (← get).makeDirectory path with
      | .ok files => set files
      | .error fault => unless (← get).isDirectory path do throw fault
    | .error fault => unless (← get).isDirectory path do throw fault

/-- Where everything below the working directory stands, as paths in order; the paths of directories
end in slashes. -/
def listing (files : Files) : List (String × Entry) :=
  let depth := files.workingDirectory.length
  let below := files.entries.filterMap fun (location, entry) =>
    let names := location.drop depth
    if location.take depth = files.workingDirectory && !names.isEmpty then
      let path := "/".intercalate names
      some (if entry = .directory then path ++ "/" else path, entry)
    else none
  below.mergeSort fun left right => left.1 ≤ right.1

end Files

end SchemaBindings
