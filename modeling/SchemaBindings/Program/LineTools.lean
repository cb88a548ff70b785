import SchemaBindings.Program.LineEditor
import SchemaBindings.Program.Tools

/-!
# Tools for lines

One tool looks for lines in which a pattern matches and ends with zero if there are
any; the other edits lines. Where files cannot be read they go on with the others and
say so in how they end.
-/
namespace SchemaBindings.Program

namespace Tool

/-- Which part of a line a pattern has to match. -/
inductive LineExtent where
  | anywhere
  | word
  | wholeLine
deriving DecidableEq, Repr

/-- A pattern that matches only in an extent. -/
def within (extent : LineExtent) (pattern : LinePattern) : LinePattern :=
  match extent with
  | .anywhere => pattern
  | .word => .sequence .noWordBefore (.sequence pattern .noWordAfter)
  | .wholeLine => .sequence .lineStart (.sequence pattern .lineEnd)

/-- A search for lines. -/
structure LineSearch where
  patterns : List LinePattern
  folded : Bool
  inverted : Bool
  most : Option Nat

namespace LineSearch

/-- Whether a line is looked for. -/
def selects (search : LineSearch) (line : Octets) : Bool :=
  (search.patterns.any fun pattern => pattern.matchesIn search.folded line) != search.inverted

/-- The lines that are looked for, with their numbers. -/
def selected (search : LineSearch) (content : Octets) : List (Nat × Octets) :=
  let lines := (Octets.lines content).map bodyOf
  let found := (lines.zip (List.range lines.length)).filterMap fun (line, index) =>
    if search.selects line then some (index + 1, line) else none
  match search.most with
  | some count => found.take count
  | none => found

/-- The parts of a line that match and are not empty, from a place on. -/
def parts (search : LineSearch) (text : Array Char) : (bound start : Nat) → List Octets
  | 0, _ => []
  | bound + 1, start =>
    let found := search.patterns.filterMap fun pattern =>
      pattern.find? search.folded text (text.size + 1 - start) start
    let better (best : Option (Nat × Nat)) (other : Nat × LineState) : Option (Nat × Nat) :=
      let (first, last) := (other.1, other.2.position)
      match best with
      | none => some (first, last)
      | some (first', last') =>
        if first < first' || (first == first' && last' < last) then some (first, last) else best
    match found.foldl better none with
    | none => []
    | some (first, last) =>
      if first = last then parts search text bound (first + 1)
      else (text.extract first last).toList :: parts search text bound last

end LineSearch

/-- The long names of the options of the search. -/
def searchOptions : List (String × Char) :=
  [("count", 'c'), ("ignore-case", 'i'), ("invert-match", 'v'), ("line-number", 'n'),
    ("quiet", 'q'), ("silent", 'q'), ("no-messages", 's'), ("only-matching", 'o'), ("word-regexp", 'w'),
    ("line-regexp", 'x'), ("fixed-strings", 'F'), ("extended-regexp", 'E'), ("basic-regexp", 'G'),
    ("files-with-matches", 'l'), ("files-without-match", 'L'), ("with-filename", 'H'),
    ("no-filename", 'h'), ("regexp", 'e'), ("max-count", 'm'), ("text", 'a')]

/-- Refuse the arguments of the search. -/
def refuseSearch (message : Option String) : Shell Unit := do
  if let some message := message then complain message.toList
  let name := (← get).name
  Shell.writeLine 2 ("Usage: ".toList ++ name ++ " [OPTION]... PATTERNS [FILE]...".toList)
  Shell.writeLine 2 ("Try '".toList ++ name ++ " --help' for more information.".toList)
  Shell.finish 2

/-- Write the lines of a file that are looked for, and say whether there are any. -/
def searchFile (arguments : ToolArguments) (search : LineSearch) (named : Bool) (path : Octets)
    (content : Octets) : Shell Bool := do
  let found := search.selected content
  let name := if path == ['-'] then "(standard input)".toList else path
  let head := if named then name ++ [':'] else []
  if arguments.has 'q' then return !found.isEmpty
  else if arguments.has 'L' then
    if found.isEmpty then Shell.writeLine 1 name
  else if arguments.has 'l' then
    unless found.isEmpty do Shell.writeLine 1 name
  else if arguments.has 'c' then Shell.writeLine 1 (head ++ Octets.ofNumber found.length)
  else
    for (number, line) in found do
      let head := if arguments.has 'n' then head ++ Octets.ofNumber number ++ [':'] else head
      if !arguments.has 'o' then Shell.writeLine 1 (head ++ line)
      else unless search.inverted do
        for part in search.parts line.toArray (2 * line.length + 2) 0 do
          Shell.writeLine 1 (head ++ part)
  return !found.isEmpty

/-- Look for lines. -/
def grep (arguments : List Octets) : Shell Unit := do
  let plain := "ciyvnqsowxFEGlLHha".toList
  match ToolArguments.read plain ['e', 'm'] false
      (arguments.map (ToolArguments.shortened searchOptions)) with
  | .error message => refuseSearch (some message)
  | .ok arguments =>
    let given := arguments.values 'e'
    let texts := if given.isEmpty then arguments.operands.take 1 else given
    let paths := if given.isEmpty then arguments.operands.drop 1 else arguments.operands
    if texts.isEmpty then refuseSearch none
    else
      let extent : LineExtent :=
        if arguments.has 'x' then .wholeLine else if arguments.has 'w' then .word else .anywhere
      let texts := (texts.map (fieldsOf '\n' [])).flatten
      let patterns := texts.mapM fun text =>
        (within extent) <$>
          if arguments.has 'F' then .ok (LinePattern.ofText text)
          else LinePattern.ofOctets (arguments.has 'E') text
      match patterns with
      | .error message =>
        complain message.toList
        Shell.finish 2
      | .ok patterns =>
        let search : LineSearch :=
          { patterns, folded := arguments.has 'i' || arguments.has 'y', inverted := arguments.has 'v',
            most := (arguments.value? 'm').bind Octets.digits? }
        let named := !arguments.has 'h' && (arguments.has 'H' || 1 < paths.length)
        let mut any := false
        let mut failed := false
        for path in (if paths.isEmpty then [['-']] else paths) do
          if any && arguments.has 'q' then break
          match ← contentOf path with
          | .ok content =>
            if ← searchFile arguments search named path content then any := true
          | .error cause =>
            failed := true
            unless arguments.has 's' do complain (path ++ ':' :: ' ' :: cause.toList)
        Shell.finish (if failed && !(any && arguments.has 'q') then 2 else if any then 0 else 1)

/-- The long names of the options of the editor. -/
def editorOptions : List (String × Char) :=
  [("quiet", 'n'), ("silent", 'n'), ("expression", 'e'), ("regexp-extended", 'E'), ("in-place", 'i'),
    ("separate", 's'), ("unbuffered", 'u')]

/-- What an editor leaves of a text that has been put together from files. -/
def edited (commands : List EditCommand) (quiet : Bool) (content : Octets) : LineEditor :=
  let lines := Octets.lines content
  LineEditor.runAll commands (lines.length + 1)
    { quiet, rest := lines.map bodyOf, ended := content.getLast? == some '\n' }

/-- Say that a file cannot be edited, and which status that leads to. -/
def refuseFile (inPlace : Bool) (path : Octets) (cause : String) : Shell Nat := do
  if cause == "Is a directory" then
    if inPlace then complain ("couldn't edit ".toList ++ path ++ ": not a regular file".toList)
    else complain ("read error on ".toList ++ path ++ ": Is a directory".toList)
    return 4
  else
    complain ("can't read ".toList ++ path ++ ": ".toList ++ cause.toList)
    return 2

/-- Edit lines of files, which make one text unless they are edited apart. -/
def editFiles (arguments : ToolArguments) (commands : List EditCommand) (paths : List Octets) :
    Shell Unit := do
  let inPlace := arguments.has 'i'
  let mut whole : Octets := []
  let mut status := 0
  let mut stopped : Option Nat := none
  for path in (if paths.isEmpty then [['-']] else paths) do
    if stopped.isNone then
      match ← contentOf path with
      | .ok content =>
        if inPlace || arguments.has 's' then
          let editor := edited commands (arguments.has 'n') content
          if inPlace then store path false editor.written.reverse
          else Shell.write 1 editor.written.reverse
          stopped := editor.stopped
        else
          let feed := if whole.isEmpty || whole.getLast? == some '\n' then [] else ['\n']
          whole := whole ++ feed ++ content
      | .error cause => status := max status (← refuseFile inPlace path cause)
  unless inPlace || arguments.has 's' do
    let editor := edited commands (arguments.has 'n') whole
    Shell.write 1 editor.written.reverse
    stopped := editor.stopped
  Shell.finish (if status = 0 then stopped.getD 0 else status)

/-- Edit lines. -/
def sed (arguments : List Octets) : Shell Unit := do
  match ToolArguments.read ['n', 'E', 'r', 'i', 's', 'u'] ['e'] false
      (arguments.map (ToolArguments.shortened editorOptions)) with
  | .error message =>
    complain message.toList
    Shell.finish 1
  | .ok arguments =>
    let given := arguments.values 'e'
    let scripts := if given.isEmpty then arguments.operands.take 1 else given
    let paths := if given.isEmpty then arguments.operands.drop 1 else arguments.operands
    if scripts.isEmpty then Shell.finish 1
    else
      let extended := arguments.has 'E' || arguments.has 'r'
      match EditCommand.ofOctets extended (Octets.joined ['\n'] scripts) with
      | .error (message, place) =>
        complain ("-e expression #1, char ".toList ++ Octets.ofNumber place ++ ':' :: ' '
          :: message.toList)
        Shell.finish 1
      | .ok commands =>
        match EditCommand.missingLabel? commands with
        | some name =>
          complain ("can't find label for jump to \x60".toList ++ name ++ ['\''])
          Shell.finish 4
        | none => editFiles arguments commands paths

end Tool

end SchemaBindings.Program
