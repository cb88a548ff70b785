import SchemaBindings.Program.Arithmetic
import SchemaBindings.Program.Session
import SchemaBindings.Program.Wildcard

/-!
# Expansion

A word of a command is expanded: parameters, substitutions and arithmetic are replaced
by their values. Values out of quotes are split at separators, so that a word may come
to several or to none, and wildcards out of quotes are replaced by the names of files
that fit, if there are any. Elsewhere a word comes to exactly one text.

How commands are substituted is given from outside.
-/
namespace SchemaBindings.Program

/-- The words that have been formed, the last first, and the characters of the one being formed, the
last first. -/
structure Fields where
  finished : List (List Marked) := []
  pending : Option (List Marked) := none
  /-- Whether a blank has just ended a word, so that a separator after it belongs to the same
  gap. -/
  afterBlank : Bool := false

namespace Fields

/-- Add characters to the word being formed. -/
def add (fields : Fields) (quoted : Bool) (text : Octets) : Fields :=
  { fields with
    pending := some (text.reverse.map (fun character => (character, quoted))
      ++ fields.pending.getD [])
    afterBlank := false }

/-- End the word being formed. -/
def finish (fields : Fields) : Fields :=
  match fields.pending with
  | some word => { fields with finished := word.reverse :: fields.finished, pending := none }
  | none => fields

/-- Whether a character is a separator of which many count as one. -/
def isBlank (character : Char) : Bool :=
  character == ' ' || character == '\t' || character == '\n'

/-- Add a value that is split at separators. -/
def split (fields : Fields) (separators : Octets) : Octets → Fields
  | [] => fields
  | character :: rest =>
    if !separators.contains character then split (fields.add false [character]) separators rest
    else if isBlank character then
      let ended := fields.pending.isSome
      split { fields.finish with afterBlank := ended || fields.afterBlank } separators rest
    else
      let ended :=
        if fields.pending.isNone && fields.afterBlank then { fields with afterBlank := false }
        else { (fields.add false []).finish with afterBlank := false }
      split ended separators rest

/-- The words that have been formed. -/
def words (fields : Fields) : List (List Marked) := fields.finish.finished.reverse

end Fields

/-- Whether values are split, and how text is taken. -/
inductive Splitting where
  /-- A word of a command. -/
  | words
  /-- A word that comes to several only if its own text is split too. -/
  | all
  | none
deriving DecidableEq, Repr

/-- Add a value to words. -/
def addValue (splitting : Splitting) (quoted : Bool) (value : Octets) (fields : Fields) :
    Shell Fields := do
  if quoted then return fields.add true value
  else if splitting = .none then return fields.add false value
  else return fields.split (← get).separators value

/-- Add arguments, each of which begins a word of its own but for the first. -/
def addArguments (splitting : Splitting) (quoted : Bool) : List Octets → Fields → Shell Fields
  | [], fields => return fields
  | [argument], fields => addValue splitting quoted argument fields
  | argument :: others, fields => do
    let fields ← addValue splitting quoted argument fields
    addArguments splitting quoted others fields.finish

/-- Add the value of a parameter. -/
def addParameter (splitting : Splitting) (quoted : Bool) (parameter : Parameter)
    (fields : Fields) : Shell Fields := do
  let session ← get
  let severally :=
    splitting != .none
      && match parameter with
        | .separate => true
        | .joined => !quoted
        | _ => false
  if severally then addArguments splitting quoted session.arguments fields
  else
    match session.value? parameter with
    | some value => addValue splitting quoted value fields
    | none => if quoted then return fields.add true [] else return fields

/-- The part of a value that is left when a part that fits a pattern is cut off. -/
def trimmedValue (trim : Trim) (pattern : List Wildcard) (value : Octets) : Octets :=
  match trim with
  | .shortestHead => value.drop ((Wildcard.headLengths pattern value).head?.getD 0)
  | .longestHead => value.drop ((Wildcard.headLengths pattern value).getLast?.getD 0)
  | .shortestTail => value.take ((tails.getLast?).getD value.length)
  | .longestTail => value.take (tails.head?.getD value.length)
where
  /-- The places from which on the value fits the pattern. -/
  tails : List Nat :=
    (List.range (value.length + 1)).filter fun start => Wildcard.fits pattern (value.drop start)

/-- Report that a parameter has no value. -/
def refuseParameter (parameter : Parameter) (message : Octets) : Shell Unit :=
  Shell.fail (parameter.name ++ ':' :: ' ' :: message)

/-- Add the value of a parameter that must have one if the script asks for that. -/
def addRequired (splitting : Splitting) (quoted : Bool) (parameter : Parameter)
    (fields : Fields) : Shell Fields := do
  let session ← get
  let optional :=
    match parameter with
    | .separate => true
    | .joined => true
    | _ => false
  if session.hasOption 'u' && !optional && (session.value? parameter).isNone then
    refuseParameter parameter "parameter not set".toList
    return fields
  else addParameter splitting quoted parameter fields

/-- Add the pieces of a word. `substitute` gives what commands write. -/
def expandPieces (substitute : List Command → Shell Octets) :
    (bound : Nat) → Splitting → List Piece → Fields → Shell Fields
  | 0, _, _, fields => return fields
  | _ + 1, _, [], fields => return fields
  | bound + 1, splitting, piece :: pieces, fields => do
    let single (word : List Piece) : Shell (List Marked) := do
      let fields ← expandPieces substitute bound .none word {}
      return (fields.pending.getD []).reverse
    let fields ←
      match piece with
      | .text value quoted =>
        if splitting = .all && !quoted then addValue splitting false value fields
        else pure (fields.add quoted value)
      | .parameter parameter quoted => addRequired splitting quoted parameter fields
      | .length parameter quoted => do
        let session ← get
        let length := ((session.value? parameter).getD []).length
        if session.hasOption 'u' && (session.value? parameter).isNone
            && parameter != .separate && parameter != .joined then
          refuseParameter parameter "parameter not set".toList
        addValue splitting quoted (Octets.ofNumber length) fields
      | .fallback parameter kind whenEmpty word quoted => do
        let value := (← get).value? parameter
        let present := value.any fun value => !(whenEmpty && value.isEmpty)
        let inner := if splitting = .none then Splitting.none else .all
        match kind, present with
        | .replace, false => if quoted then pure (fields.add true []) else pure fields
        | .replace, true => expandPieces substitute bound inner word fields
        | _, true => addParameter splitting quoted parameter fields
        | .use, false => expandPieces substitute bound inner word fields
        | .assign, false => do
          let text := (← single word).map Prod.fst
          match parameter with
          | .variable name => do
            Shell.assign name text
            addValue splitting quoted text fields
          | _ => do
            Shell.fail (parameter.name ++ ": bad variable name".toList)
            pure fields
        | .refuse, false => do
          let text := (← single word).map Prod.fst
          let message :=
            if !word.isEmpty then text
            else if whenEmpty then "parameter not set or null".toList
            else "parameter not set".toList
          refuseParameter parameter message
          pure fields
      | .trimmed parameter trim pattern quoted => do
        let marked ← single pattern
        let session ← get
        if session.hasOption 'u' && (session.value? parameter).isNone then
          refuseParameter parameter "parameter not set".toList
        let value := (session.value? parameter).getD []
        addValue splitting quoted (trimmedValue trim (Wildcard.ofMarked marked) value) fields
      | .substitution commands quoted => do
        addValue splitting quoted (← substitute commands) fields
      | .arithmetic expression quoted => do
        let text := (← single expression).map Prod.fst
        let session ← get
        if session.flow != .running then pure fields
        else
          let values (name : String) : Octets := (session.variableValue? name).getD []
          match evaluateArithmetic values text with
          | .ok (value, assigned) => do
            for (name, value) in assigned.reverse do
              Shell.assign name (Octets.ofNumber value.toInt)
            addValue splitting quoted (Octets.ofNumber value.toInt) fields
          | .error error => do
            Shell.fail (error.message text).toList
            pure fields
      | .malformed => do
        Shell.fail "Bad substitution".toList
        pure fields
    if ← Shell.isRunning then expandPieces substitute bound splitting pieces fields
    else return fields

/-- The names in a directory. -/
def namesIn (files : Files) (directory : Location) : List String :=
  let depth := directory.length
  let names := files.entries.filterMap fun entry =>
    if entry.1.length = depth + 1 && entry.1.take depth = directory then entry.1.getLast? else none
  names.mergeSort fun left right => left ≤ right

/-- The parts of a pattern between slashes. -/
def patternParts (pattern : List Marked) : List (List Marked) :=
  pattern.splitBy (fun left right => (left.1 == '/') == (right.1 == '/'))

/-- The paths that fit the parts of a pattern after a path. -/
def pathsWithin (files : Files) : List (List Marked) → (path : Octets) → List Octets
  | [], path => [path]
  | part :: parts, path =>
    let plain := part.map Prod.fst
    let wildcard := Wildcard.ofMarked part
    if plain.head? == some '/' || !Wildcard.isOpen wildcard then
      let path := path ++ plain
      if plain.head? == some '/' || files.hasPath (Octets.text path) then
        pathsWithin files parts path
      else []
    else
      let directory := if path.isEmpty then ['.'] else path
      match files.locate (Octets.text directory) with
      | .error _ => []
      | .ok location =>
        let hidden := plain.head? == some '.'
        let names := (namesIn files location).filter fun name =>
          (hidden || !name.startsWith ".") && Wildcard.fits wildcard (Octets.ofText name)
        names.flatMap fun name => pathsWithin files parts (path ++ Octets.ofText name)

/-- The words that a word with wildcards stands for: the paths that fit, or the word itself. -/
def withPaths (files : Files) (word : List Marked) : List Octets :=
  let plain := word.map Prod.fst
  if Wildcard.isOpen (Wildcard.ofMarked word) then
    match pathsWithin files (patternParts word) [] with
    | [] => [plain]
    | paths => paths
  else [plain]

/-- The words that a word of a command stands for. -/
def expandWord (substitute : List Command → Shell Octets) (bound : Nat) (word : ScriptWord) :
    Shell (List Octets) := do
  let fields ← expandPieces substitute bound .words word {}
  let session ← get
  if session.hasOption 'f' then return fields.words.map fun word => word.map Prod.fst
  else return fields.words.flatMap (withPaths session.files)

/-- The words that the words of a command stand for. -/
def expandWords (substitute : List Command → Shell Octets) (bound : Nat) :
    List ScriptWord → Shell (List Octets)
  | [] => return []
  | word :: words => do
    let first ← expandWord substitute bound word
    if ← Shell.isRunning then return first ++ (← expandWords substitute bound words)
    else return first

/-- The one text that a word stands for, with its quoted characters marked. -/
def expandMarked (substitute : List Command → Shell Octets) (bound : Nat) (word : ScriptWord) :
    Shell (List Marked) := do
  let fields ← expandPieces substitute bound .none word {}
  return (fields.pending.getD []).reverse

/-- The one text that a word stands for. -/
def expandText (substitute : List Command → Shell Octets) (bound : Nat) (word : ScriptWord) :
    Shell Octets := do
  return (← expandMarked substitute bound word).map Prod.fst

end SchemaBindings.Program
