/-!
# Paths

A path is a text whose parts are separated by slashes. Empty parts and single points
do not count, except for a point at the very beginning. What follows works on the
text alone: no part is looked up anywhere, and two points are a part like others,
though they name nothing.
-/
namespace SchemaBindings.Path

/-- The segments of a text between its slashes, empty ones included. -/
def splitSlashes : List Char → (pending : List Char) → List String
  | [], pending => [.ofList pending.reverse]
  | '/' :: rest, pending => .ofList pending.reverse :: splitSlashes rest []
  | character :: rest, pending => splitSlashes rest (character :: pending)

/-- The segments of a path. -/
def segments (path : String) : List String := splitSlashes path.toList []

/-- Whether a path begins at the root. -/
def isAbsolute (path : String) : Bool := path.toList.head? == some '/'

/-- Whether a segment does not count. -/
def isFiller (segment : String) : Bool := segment.isEmpty || segment == "."

/-- The beginning of a path that is no part of the usual kind, the root or a point, and the segments
after it. -/
def headAndBody (path : String) : String × List String :=
  match path.toList with
  | '/' :: rest => ("/", splitSlashes rest [])
  | ['.'] => (".", [""])
  | '.' :: '/' :: rest => (".", "" :: splitSlashes rest [])
  | characters => ("", splitSlashes characters [])

/-- The segments of the body from the last one that counts on backwards. -/
def significant (path : String) : List String :=
  (headAndBody path).2.reverse.dropWhile isFiller

/-- The path without its last part. The root and the empty path have none. -/
def parent? (path : String) : Option String :=
  let head := (headAndBody path).1
  match significant path with
  | [] => if head == "." then some "" else none
  | _ :: above => some (head ++ "/".intercalate (above.dropWhile isFiller).reverse)

/-- The last part of a path, if it names something. -/
def fileName? (path : String) : Option String :=
  match significant path with
  | [] => none
  | name :: _ => if name == ".." then none else some name

/-- A path followed by another one. An absolute path replaces what stands before it. -/
def join (base path : String) : String :=
  if isAbsolute path then path
  else
    match base.toList.getLast? with
    | none => path
    | some '/' => base ++ path
    | some _ => base ++ "/" ++ path

/-- Put a name in the place of the last part of a path, or after a path whose last part names
nothing. -/
def withFileName (path name : String) : String :=
  match fileName? path with
  | some _ => join ((parent? path).getD "") name
  | none => join path name

/-- The path and the paths above it, up to the first that is empty or has no parent. The bound is
the length of the path, by which every step shortens it. -/
def ancestorsWithin : (bound : Nat) → String → List String
  | 0, _ => []
  | bound + 1, path =>
    match parent? path with
    | none => []
    | some above => if path.isEmpty then [] else path :: ancestorsWithin bound above

/-- The path and the paths above it that have to be made if they are not there. -/
def ancestors (path : String) : List String := ancestorsWithin (path.length + 1) path

end SchemaBindings.Path
