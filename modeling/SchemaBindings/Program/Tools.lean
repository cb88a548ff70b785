import SchemaBindings.Program.Format
import SchemaBindings.Program.Session
import SchemaBindings.Program.Wildcard

/-!
# Tools

Tools are small programs that read their arguments, files and the first stream, write
to the second, and complain to the third under their own names. Whatever they are
asked that they do not know is refused.
-/
namespace SchemaBindings.Program

/-- The options and the operands among arguments. -/
structure ToolArguments where
  options : List (Char × Octets) := []
  operands : List Octets := []

namespace ToolArguments

/-- Whether an option is given. -/
def has (arguments : ToolArguments) (letter : Char) : Bool :=
  arguments.options.any fun option => option.1 == letter

/-- The value of an option; the last one counts. -/
def value? (arguments : ToolArguments) (letter : Char) : Option Octets :=
  arguments.options.reverse.lookup letter

/-- The values of an option. -/
def values (arguments : ToolArguments) (letter : Char) : List Octets :=
  arguments.options.filterMap fun option =>
    if option.1 == letter then some option.2 else none

/-- An argument in which the long name of an option has been replaced by its letter. -/
def shortened (names : List (String × Char)) (argument : Octets) : Octets :=
  match argument with
  | '-' :: '-' :: text =>
    let name := text.takeWhile (· != '=')
    match names.lookup (.ofList name) with
    | some letter => '-' :: letter :: (text.drop (name.length + 1))
    | none => argument
  | _ => argument

/-- Read the letters of an argument. The second value says that the next argument is used up. -/
def letters (plain valued : List Char) (next : Option Octets) :
    Octets → Except String (List (Char × Octets) × Bool)
  | [] => .ok ([], false)
  | letter :: rest => do
    if valued.contains letter then
      if rest.isEmpty then
        match next with
        | some value => return ([(letter, value)], true)
        | none => throw ("option requires an argument -- '" ++ .singleton letter ++ "'")
      else return ([(letter, rest)], false)
    else if plain.contains letter then
      let (others, used) ← letters plain valued next rest
      return ((letter, []) :: others, used)
    else throw ("invalid option -- '" ++ .singleton letter ++ "'")

/-- Read arguments. `valued` are the options that have values; `skip` says that an argument has been
used up. -/
def read (plain valued : List Char) : (skip : Bool) → List Octets → Except String ToolArguments
  | _, [] => .ok {}
  | true, _ :: others => read plain valued false others
  | false, argument :: others => do
    match argument with
    | ['-', '-'] => return { operands := others }
    | '-' :: '-' :: _ => throw ("unrecognized option '" ++ .ofList argument ++ "'")
    | '-' :: first :: rest =>
      if first.isDigit && valued.contains 'n' then
        let later ← read plain valued false others
        return { later with options := ('n', first :: rest) :: later.options }
      else
        let (options, used) ← letters plain valued others.head? (first :: rest)
        let later ← read plain valued used others
        return { later with options := options ++ later.options }
    | _ =>
      let later ← read plain valued false others
      return { later with operands := argument :: later.operands }

end ToolArguments

namespace Tool

/-- Write a complaint of a tool, which is called as the session is. -/
def complain (message : Octets) : Shell Unit := do
  Shell.writeLine 2 ((← get).name ++ ':' :: ' ' :: message)

/-- Refuse arguments. -/
def refuse (status : Nat) (message : String) : Shell Unit := do
  complain message.toList
  Shell.writeLine 2 ("Try '".toList ++ (← get).name ++ " --help' for more information.".toList)
  Shell.finish status

/-- Do something with arguments, or refuse them. -/
def withArguments (status : Nat) (plain valued : List Char)
    (arguments : List Octets) (action : ToolArguments → Shell Unit) : Shell Unit :=
  match ToolArguments.read plain valued false arguments with
  | .ok arguments => action arguments
  | .error message => refuse status message

/-- What went wrong with a file, in the words of tools. -/
def reason : OsError → String
  | .notDirectory => "Not a directory"
  | .nameTooLong => "File name too long"
  | .isDirectory => "Is a directory"
  | .fileExists => "File exists"
  | _ => "No such file or directory"

/-- The characters that a name is put into quotes for. -/
def needsQuotes (octet : Char) : Bool :=
  [' ', '\t', '\n', '!', '"', '$', '&', '\'', '(', ')', '*', ';', '<', '=', '>', '?', '[', '\\', '^',
    '\x60', '{', '|', '}'].contains octet

/-- A name as it stands in complaints. -/
def shown (name : Octets) : Octets :=
  if !name.isEmpty && !name.any needsQuotes then name
  else if name.contains '\'' && !name.any (['"', '$', '\x60', '\\', '!'].contains ·) then
    '"' :: name ++ ['"']
  else
    '\'' :: name.flatMap (fun octet => if octet == '\'' then "'\\''".toList else [octet]) ++ ['\'']

/-- What a path names, for reading; a hyphen names the first stream. -/
def contentOf (path : Octets) : Shell (Except String Octets) := do
  if path == ['-'] || path == "/dev/stdin".toList then
    if ((← get).channels.lookup 0).isNone then return .error "Bad file descriptor"
    else return .ok (← Shell.readAll 0)
  else if path == "/dev/null".toList then return .ok []
  else
    let files := (← get).files
    match files.locate (Octets.text path) with
    | .error cause => return .error (reason cause)
    | .ok location =>
      match files.entry? location with
      | some (.file content _) => return .ok (.ofBytes content)
      | some .directory => return .error "Is a directory"
      | none => return .error "No such file or directory"

/-- Do something with the contents of files in turn, and complain about those that cannot be read.
Without files the first stream is read. -/
def forContents (paths : List Octets) (action : Octets → Octets → Shell Unit) :
    Shell Unit := do
  for path in (if paths.isEmpty then [['-']] else paths) do
    match ← contentOf path with
    | .ok content => action path content
    | .error cause =>
      complain (shown path ++ ':' :: ' ' :: cause.toList)
      Shell.finish 1

/-- The contents of all files in a row. -/
def allContents (paths : List Octets) : Shell Octets := do
  let mut whole : Octets := []
  for path in (if paths.isEmpty then [['-']] else paths) do
    match ← contentOf path with
    | .ok content => whole := whole ++ content
    | .error cause =>
      complain (shown path ++ ':' :: ' ' :: cause.toList)
      Shell.finish 1
  return whole

/-- A line without its end. -/
def bodyOf (line : Octets) : Octets := Octets.withoutLastFeeds line

/-- Lines that are numbered, from a number on. -/
def numbered : (number : Nat) → List Octets → List Octets
  | _, [] => []
  | number, line :: lines =>
    (padded [] 6 (Octets.ofNumber number) ++ '\t' :: line) :: numbered (number + 1) lines

/-- Write files one after the other. -/
def cat (arguments : List Octets) : Shell Unit :=
  withArguments 1 ['n', 'u'] [] arguments fun arguments =>
    if arguments.has 'n' then do
      let whole ← allContents arguments.operands
      Shell.write 1 (numbered 1 (Octets.lines whole)).flatten
    else forContents arguments.operands fun _ content => Shell.write 1 content

/-- Write arguments with blanks between them. -/
def echo : (newline escapes : Bool) → List Octets → Shell Unit
  | newline, escapes, arguments => do
    match arguments with
    | ('-' :: letter :: letters) :: others =>
      if (letter :: letters).all (['n', 'e', 'E'].contains ·) then
        let newline := newline && !(letter :: letters).contains 'n'
        let escapes :=
          match (letter :: letters).reverse.find? (· != 'n') with
          | some last => last == 'e'
          | none => escapes
        echo newline escapes others
      else finish newline escapes arguments
    | _ => finish newline escapes arguments
where
  /-- Write what is not an option. -/
  finish (newline escapes : Bool) (arguments : List Octets) : Shell Unit := do
    let text := Octets.joined [' '] arguments
    let (text, ended) := if escapes then unescaped .program text else (text, false)
    Shell.write 1 (if newline && !ended then text ++ ['\n'] else text)

/-- Write arguments by a format. -/
def printf (arguments : List Octets) : Shell Unit := do
  let arguments := if arguments.head? == some ['-', '-'] then arguments.tail else arguments
  match arguments with
  | [] => refuse 1 "missing operand"
  | format :: values =>
    let formatted := printFormatted .program format values
    for complaint in formatted.complaints do
      complain complaint
    if !formatted.taken && !formatted.stopped then
      match values with
      | [] => pure ()
      | first :: _ =>
        complain
          ("warning: ignoring excess arguments, starting with '".toList ++ first ++ ['\''])
    Shell.write 1 formatted.output
    Shell.finish formatted.status

/-- The number that an option gives, and its sign if it has one. -/
def countOf (text : Octets) : Option (Option Char × Nat) :=
  match text with
  | '+' :: digits => (Octets.digits? digits).map fun count => (some '+', count)
  | '-' :: digits => (Octets.digits? digits).map fun count => (some '-', count)
  | digits => (Octets.digits? digits).map fun count => (none, count)

/-- Write parts of files, each under its name if there are several. -/
def parts (arguments : List Octets)
    (select : (lines : Bool) → (sign : Option Char) → Nat → Octets → Octets) : Shell Unit :=
  withArguments 1 ['q', 'v'] ['n', 'c'] arguments fun arguments =>
    let (byLines, count) :=
      match arguments.value? 'c' with
      | some text => (false, text)
      | none => (true, (arguments.value? 'n').getD ['1', '0'])
    match countOf count with
    | none =>
      let unit := if byLines then "lines" else "bytes"
      do
        complain ("invalid number of ".toList ++ unit.toList ++ ": '".toList ++ count ++ ['\''])
        Shell.finish 1
    | some (sign, count) => do
      let several := 1 < arguments.operands.length && !arguments.has 'q'
      let first := arguments.operands.head?
      forContents arguments.operands fun path content => do
        if several then
          let gap : Octets := if first == some path then [] else ['\n']
          Shell.write 1 (gap ++ "==> ".toList ++ path ++ " <==\n".toList)
        Shell.write 1 (select byLines sign count content)

/-- Write the beginnings of files. -/
def head (arguments : List Octets) : Shell Unit :=
  parts arguments fun byLines sign count content =>
    if byLines then
      let lines := Octets.lines content
      (lines.take (if sign == some '-' then lines.length - count else count)).flatten
    else content.take (if sign == some '-' then content.length - count else count)

/-- Write the ends of files. -/
def tail (arguments : List Octets) : Shell Unit :=
  parts arguments fun byLines sign count content =>
    if byLines then
      let lines := Octets.lines content
      (lines.drop (if sign == some '+' then count - 1 else lines.length - count)).flatten
    else content.drop (if sign == some '+' then count - 1 else content.length - count)

/-- The number of words of a text. -/
def wordCount (inWord : Bool) : Octets → Nat
  | [] => 0
  | character :: rest =>
    if inNamedClass "space" character then wordCount false rest
    else (if inWord then 0 else 1) + wordCount true rest

/-- Count the lines, words and bytes of files. -/
def wc (arguments : List Octets) : Shell Unit :=
  withArguments 1 ['l', 'w', 'c', 'm'] [] arguments fun arguments => do
    let all := arguments.options.isEmpty
    let counts (content : Octets) : List Nat :=
      (if all || arguments.has 'l' then [content.count '\n'] else [])
        ++ (if all || arguments.has 'w' then [wordCount false content] else [])
        ++ (if all || arguments.has 'c' || arguments.has 'm' then [content.length] else [])
    let mut rows : List (List Nat × Octets) := []
    let mut size := 0
    for path in (if arguments.operands.isEmpty then [['-']] else arguments.operands) do
      match ← contentOf path with
      | .ok content =>
        rows := rows ++ [(counts content, path)]
        size := size + content.length
      | .error cause =>
        complain (shown path ++ ':' :: ' ' :: cause.toList)
        Shell.finish 1
    let total := rows.foldl (fun total row =>
      if total.isEmpty then row.1 else List.zipWith (· + ·) total row.1) []
    if 1 < arguments.operands.length then rows := rows ++ [(total, "total".toList)]
    let single := rows.length ≤ 1 && total.length ≤ 1
    let width :=
      if single then 1
      else if arguments.operands.isEmpty then 7
      else (Octets.ofNumber size).length
    for (counts, path) in rows do
      let columns := counts.map fun (count : Nat) => padded [] width (Octets.ofNumber count)
      let name : Octets := if arguments.operands.isEmpty then [] else ' ' :: path
      Shell.writeLine 1 (Octets.joined [' '] columns ++ name)

/-- The characters that a set of `tr` stands for, of which at most the given number is read. -/
def setWithin : (bound : Nat) → Octets → Octets
  | 0, _ => []
  | _ + 1, [] => []
  | bound + 1, '[' :: ':' :: rest =>
    let name := rest.takeWhile Char.isAlpha
    match rest.drop name.length with
    | ':' :: ']' :: others =>
      ((List.range 256).map Char.ofNat).filter (inNamedClass (.ofList name))
        ++ setWithin bound others
    | _ => '[' :: setWithin bound (':' :: rest)
  | bound + 1, '\\' :: rest =>
    match formatEscape .command rest with
    | some (octets, rest) => octets ++ setWithin bound rest
    | none => setWithin bound rest
  | bound + 1, [first, '-'] => first :: setWithin bound ['-']
  | bound + 1, first :: '-' :: last :: rest =>
    ((List.range (last.toNat + 1 - first.toNat)).map fun step => Char.ofNat (first.toNat + step))
      ++ setWithin bound rest
  | bound + 1, first :: rest => first :: setWithin bound rest

/-- Drop what repeats the character before it, among those of a set. -/
def squeezed (set : Octets) : (before : Option Char) → Octets → Octets
  | _, [] => []
  | before, character :: rest =>
    if before == some character && set.contains character then squeezed set before rest
    else character :: squeezed set (some character) rest

/-- Replace or delete characters. -/
def tr (arguments : List Octets) : Shell Unit :=
  withArguments 1 ['d', 's', 'c', 'C'] [] arguments fun arguments => do
    let set (text : Octets) : Octets := setWithin (text.length + 1) text
    let complement := arguments.has 'c' || arguments.has 'C'
    match arguments.operands with
    | [] => refuse 1 "missing operand"
    | first :: others =>
      let source := set first
      let source :=
        if complement then ((List.range 256).map Char.ofNat).filter (!source.contains ·) else source
      let target := others.head?.map set
      let text ← Shell.readAll 0
      if arguments.has 'd' then
        let kept := text.filter (!source.contains ·)
        Shell.write 1 (if arguments.has 's' then squeezed (target.getD []) none kept else kept)
      else
        match target with
        | none =>
          if arguments.has 's' then Shell.write 1 (squeezed source none text)
          else
            complain ("missing operand after '".toList ++ first ++ ['\''])
            Shell.writeLine 2 "Two strings must be given when translating.".toList
            Shell.writeLine 2 "Try 'tr --help' for more information.".toList
            Shell.finish 1
        | some target =>
          let table := source.zip (target ++ List.replicate (source.length - target.length)
            (target.getLast?.getD '\x00'))
          let replaced := text.map fun character =>
            (table.reverse.lookup character).getD character
          Shell.write 1 (if arguments.has 's' then squeezed target none replaced else replaced)

/-- The number that a line begins with, for sorting. -/
def leadingNumber (line : Octets) : Int :=
  let body := line.dropWhile fun character => character == ' ' || character == '\t'
  match body with
  | '-' :: digits => -(((Octets.digits? (digits.takeWhile Char.isDigit)).getD 0 : Nat) : Int)
  | digits => ((Octets.digits? (digits.takeWhile Char.isDigit)).getD 0 : Nat)

/-- Write the lines of files in order. -/
def sort (arguments : List Octets) : Shell Unit :=
  withArguments 2 ['r', 'u', 'n', 'f', 'b', 's'] [] arguments fun arguments => do
    let lines := (Octets.lines (← allContents arguments.operands)).map bodyOf
    if (← get).status != 0 then Shell.finish 2
    let before (left right : Octets) : Bool :=
      if arguments.has 'n' && leadingNumber left != leadingNumber right then
        leadingNumber left < leadingNumber right
      else !decide (right < left)
    let sorted := lines.mergeSort before
    let sorted := if arguments.has 'r' then sorted.reverse else sorted
    let sorted := if arguments.has 'u' then sorted.eraseReps else sorted
    Shell.write 1 (sorted.flatMap (· ++ ['\n']))

/-- Write lines without those that repeat the line before. -/
def uniq (arguments : List Octets) : Shell Unit :=
  withArguments 1 ['c', 'd', 'u'] [] arguments fun arguments => do
    let lines := (Octets.lines (← allContents (arguments.operands.take 1))).map bodyOf
    let groups := lines.splitBy (· == ·)
    let groups := groups.filter fun group =>
      (!arguments.has 'd' || 1 < group.length) && (!arguments.has 'u' || group.length = 1)
    for group in groups do
      let line := group.headD []
      if arguments.has 'c' then
        Shell.writeLine 1 (padded [] 7 (Octets.ofNumber group.length) ++ ' ' :: line)
      else Shell.writeLine 1 line

/-- Write the numbers of a sequence. -/
def seq (arguments : List Octets) : Shell Unit := do
  let numbers := arguments.filterMap Octets.integer?
  let (first, step, last) : Int × Int × Int :=
    match numbers with
    | [last] => (1, 1, last)
    | [first, last] => (first, 1, last)
    | first :: step :: last :: _ => (first, step, last)
    | [] => (1, 1, 0)
  match arguments with
  | [] => refuse 1 "missing operand"
  | ('-' :: '-' :: option) :: _ =>
    refuse 1 ("unrecognized option '--" ++ .ofList option ++ "'")
  | _ =>
    if numbers.length != arguments.length then
      match arguments.find? fun argument => (Octets.integer? argument).isNone with
      | some argument =>
        refuse 1 ("invalid floating point argument: '" ++ .ofList argument ++ "'")
      | none => pure ()
    else if step = 0 then refuse 1 "invalid Zero increment value: '0'"
    else
      let count := ((last - first) / step + 1).toNat
      Shell.write 1 ((List.range count).flatMap fun index =>
        Octets.ofNumber (first + step * Int.ofNat index) ++ ['\n'])

/-- A path without slashes at its end. -/
def withoutLastSlashes (path : Octets) : Octets := (path.reverse.dropWhile (· == '/')).reverse

/-- Write the last part of a path. -/
def basename (arguments : List Octets) : Shell Unit :=
  withArguments 1 [] [] arguments fun arguments => do
    match arguments.operands with
    | [] => refuse 1 "missing operand"
    | path :: others =>
      let body := withoutLastSlashes path
      let name := (body.reverse.takeWhile (· != '/')).reverse
      let name := if body.isEmpty && !path.isEmpty then ['/'] else name
      let ending := others.headD []
      if !ending.isEmpty && name != ending && ending.isSuffixOf name then
        Shell.writeLine 1 (name.take (name.length - ending.length))
      else Shell.writeLine 1 name

/-- Write paths without their last parts. -/
def dirname (arguments : List Octets) : Shell Unit :=
  withArguments 1 [] [] arguments fun arguments => do
    if arguments.operands.isEmpty then refuse 1 "missing operand"
    else
      for path in arguments.operands do
        let body := withoutLastSlashes path
        let above := body.reverse.dropWhile (· != '/')
        let directory := (above.dropWhile (· == '/')).reverse
        if directory.isEmpty then
          Shell.writeLine 1 (if path.head? == some '/' then ['/'] else ['.'])
        else Shell.writeLine 1 directory

/-- Write the lines of files, the last first. -/
def tac (arguments : List Octets) : Shell Unit :=
  withArguments 1 [] [] arguments fun arguments =>
    forContents arguments.operands fun _ content =>
      Shell.write 1 (Octets.lines content).reverse.flatten

/-- Write lines, each in reverse. -/
def rev (arguments : List Octets) : Shell Unit :=
  withArguments 1 [] [] arguments fun arguments =>
    forContents arguments.operands fun _ content =>
      Shell.write 1 ((Octets.lines content).flatMap fun line =>
        Octets.ofText (.ofList (Octets.text (bodyOf line)).toList.reverse)
          ++ line.drop (bodyOf line).length)

/-- Whether a list of ranges such as `1,3-5,7-` holds a number. -/
def inRanges (ranges : Octets) (number : Nat) : Bool :=
  (ranges.splitBy (fun left right => left != ',' && right != ',')).any fun range =>
    let first := range.takeWhile Char.isDigit
    match range.drop first.length with
    | [] => (Octets.digits? first) == some number
    | '-' :: last =>
      (Octets.digits? first).getD 1 ≤ number
        && ((Octets.digits? last).map fun last => decide (number ≤ last)).getD last.isEmpty
    | _ => false

/-- The fields of a line. -/
def fieldsOf (separator : Char) (pending : Octets) : Octets → List Octets
  | [] => [pending.reverse]
  | character :: rest =>
    if character == separator then pending.reverse :: fieldsOf separator [] rest
    else fieldsOf separator (character :: pending) rest

/-- Write parts of lines. -/
def cut (arguments : List Octets) : Shell Unit :=
  withArguments 1 ['s'] ['d', 'f', 'c', 'b'] arguments fun arguments => do
    let keep {α : Type} (ranges : Octets) (items : List α) : List α :=
      (items.zipIdx.filter fun item => inRanges ranges (item.2 + 1)).map Prod.fst
    let bytes := (arguments.value? 'c').or (arguments.value? 'b')
    match bytes, arguments.value? 'f' with
    | none, none => refuse 1 "you must specify a list of bytes, characters, or fields"
    | some ranges, _ =>
      forContents arguments.operands fun _ content =>
        Shell.write 1 ((Octets.lines content).flatMap fun line =>
          keep ranges (bodyOf line) ++ ['\n'])
    | none, some ranges =>
      let separator := ((arguments.value? 'd').getD ['\t']).headD '\t'
      forContents arguments.operands fun _ content =>
        Shell.write 1 ((Octets.lines content).flatMap fun line =>
          let body := bodyOf line
          if body.contains separator then
            Octets.joined [separator] (keep ranges (fieldsOf separator [] body)) ++ ['\n']
          else if arguments.has 's' then []
          else body ++ ['\n'])

/-- Put a text into a file. -/
def store (path : Octets) (append : Bool) (content : Octets) : Shell Unit := do
  let session ← get
  let name := Octets.text path
  let before :=
    match session.files.find? name with
    | some (.file content _) => if append then content else []
    | _ => []
  match session.files.writeFile name (before ++ content.bytes) with
  | .ok files => set { session with files }
  | .error cause =>
    complain (path ++ ':' :: ' ' :: (reason cause).toList)
    Shell.finish 1

/-- Write what is read to files as well. -/
def tee (arguments : List Octets) : Shell Unit :=
  withArguments 1 ['a', 'i'] [] arguments fun arguments => do
    let text ← Shell.readAll 0
    Shell.write 1 text
    for path in arguments.operands do
      store path (arguments.has 'a') text

/-- Make directories. -/
def mkdir (arguments : List Octets) : Shell Unit :=
  withArguments 1 ['p', 'v'] ['m'] arguments fun arguments => do
    if arguments.operands.isEmpty then refuse 1 "missing operand"
    for path in arguments.operands do
      let session ← get
      let name := Octets.text path
      let (outcome, files) :=
        if arguments.has 'p' then
          (Files.makeDirectories (Path.ancestors name)).run.run session.files
        else
          match session.files.makeDirectory name with
          | .ok files => (.ok (), files)
          | .error cause => (.error cause, session.files)
      set { session with files }
      match outcome with
      | .ok () => pure ()
      | .error cause =>
        complain ("cannot create directory '".toList ++ path ++ "': ".toList
          ++ (reason cause).toList)
        Shell.finish 1

/-- Remove files. -/
def rm (arguments : List Octets) : Shell Unit :=
  withArguments 1 ['f', 'r', 'R', 'v'] [] arguments fun arguments => do
    if arguments.operands.isEmpty && !arguments.has 'f' then refuse 1 "missing operand"
    for path in arguments.operands do
      let session ← get
      let deep := arguments.has 'r' || arguments.has 'R'
      let complaint (cause : String) : Shell Unit := do
        complain ("cannot remove '".toList ++ path ++ "': ".toList ++ cause.toList)
        Shell.finish 1
      match session.files.locate (Octets.text path) with
      | .error cause => unless arguments.has 'f' do complaint (reason cause)
      | .ok location =>
        if session.files.hasDirectory location && !deep then complaint "Is a directory"
        else
          let entries := session.files.entries.filter fun entry =>
            entry.1.take location.length != location
          set { session with files := { session.files with entries } }

/-- Make files that are not there. -/
def touch (arguments : List Octets) : Shell Unit :=
  withArguments 1 ['c', 'a', 'm'] [] arguments fun arguments => do
    if arguments.operands.isEmpty then refuse 1 "missing file operand"
    for path in arguments.operands do
      unless (← get).files.hasPath (Octets.text path) do
        store path false []

/-- Where a copy goes: into a directory under the name of the source, or to the path itself. -/
def destination (files : Files) (source target : Octets) : Octets :=
  if files.isDirectory (Octets.text target) then
    let name := ((withoutLastSlashes source).reverse.takeWhile (· != '/')).reverse
    withoutLastSlashes target ++ '/' :: name
  else target

/-- Copy or move files. -/
def transfer (move : Bool) (arguments : List Octets) : Shell Unit :=
  withArguments 1 ['f', 'p', 'r', 'R', 'v'] [] arguments fun arguments => do
    match arguments.operands.reverse with
    | [] => refuse 1 "missing file operand"
    | [only] =>
      refuse 1 ("missing destination file operand after '" ++ .ofList only ++ "'")
    | target :: sources =>
      for source in sources.reverse do
        let session ← get
        match session.files.find? (Octets.text source) with
        | some (.file content executable) =>
          let path := Octets.text (destination session.files source target)
          match session.files.writeFile path content with
          | .ok files =>
            let files :=
              match files.locate path with
              | .ok location => files.put location (.file content executable)
              | .error _ => files
            let files :=
              match files.locate (Octets.text source) with
              | .ok location => if move then files.remove location else files
              | .error _ => files
            set { session with files }
          | .error cause =>
            complain ("cannot create regular file '".toList ++ target ++ "': ".toList
              ++ (reason cause).toList)
            Shell.finish 1
        | some .directory =>
          complain ("-r not specified; omitting directory '".toList ++ source ++ ['\''])
          Shell.finish 1
        | none =>
          complain ("cannot stat '".toList ++ source
            ++ "': No such file or directory".toList)
          Shell.finish 1

/-- Write the names in directories. -/
def ls (arguments : List Octets) : Shell Unit :=
  withArguments 2 ['1', 'a', 'A', 'd', 'l', 'R', 't', 'r', 'h', 'F'] [] arguments fun arguments => do
    let operands := if arguments.operands.isEmpty then [['.']] else arguments.operands
    for path in operands do
      let files := (← get).files
      match files.locate (Octets.text path) with
      | .error cause =>
        complain ("cannot access '".toList ++ path ++ "': ".toList ++ (reason cause).toList)
        Shell.finish 2
      | .ok location =>
        if files.hasDirectory location && !arguments.has 'd' then
          let depth := location.length
          let names := files.entries.filterMap fun entry =>
            if entry.1.length = depth + 1 && entry.1.take depth = location then entry.1.getLast?
            else none
          let names := names.filter fun name =>
            arguments.has 'a' || arguments.has 'A' || !name.startsWith "."
          for name in names.mergeSort fun left right => left ≤ right do
            Shell.writeLine 1 (Octets.ofText name)
        else Shell.writeLine 1 path

/-- Wait, for as long as a number says; here it takes no time. -/
def sleep (arguments : List Octets) : Shell Unit :=
  withArguments 1 [] [] arguments fun arguments => do
    if arguments.operands.isEmpty then refuse 1 "missing operand"
    for duration in arguments.operands do
      let digits := duration.takeWhile fun octet => octet.isDigit || octet == '.'
      let unit := duration.drop digits.length
      if digits.isEmpty || !(unit.isEmpty || [['s'], ['m'], ['h'], ['d']].contains unit) then
        refuse 1 ("invalid time interval '" ++ .ofList duration ++ "'")

/-- Write what an operator comes to between two operands, or an operand itself. -/
def expr (arguments : List Octets) : Shell Unit := do
  let answer (value : Octets) : Shell Unit := do
    Shell.writeLine 1 value
    Shell.finish (if value.isEmpty || value == ['0'] then 1 else 0)
  match arguments with
  | [] => refuse 2 "missing operand"
  | [value] => answer value
  | [left, operator, right] =>
    let truth (holds : Bool) : Octets := if holds then ['1'] else ['0']
    match String.ofList operator, Octets.integer? left, Octets.integer? right with
    | "+", some left, some right => answer (Octets.ofNumber (left + right))
    | "-", some left, some right => answer (Octets.ofNumber (left - right))
    | "*", some left, some right => answer (Octets.ofNumber (left * right))
    | "/", some left, some right =>
      if right = 0 then
        complain "division by zero".toList
        Shell.finish 2
      else answer (Octets.ofNumber (left.tdiv right))
    | "%", some left, some right =>
      if right = 0 then
        complain "division by zero".toList
        Shell.finish 2
      else answer (Octets.ofNumber (left.tmod right))
    | "=", some left, some right => answer (truth (left == right))
    | "!=", some left, some right => answer (truth (left != right))
    | "<", some left, some right => answer (truth (decide (left < right)))
    | "<=", some left, some right => answer (truth (decide (left ≤ right)))
    | ">", some left, some right => answer (truth (decide (right < left)))
    | ">=", some left, some right => answer (truth (decide (right ≤ left)))
    | "=", _, _ => answer (truth (left == right))
    | "!=", _, _ => answer (truth (left != right))
    | "<", _, _ => answer (truth (decide (left < right)))
    | ">", _, _ => answer (truth (decide (right < left)))
    | "|", _, _ => answer (if left.isEmpty || left == ['0'] then right else left)
    | "&", _, _ =>
      let void (value : Octets) : Bool := value.isEmpty || value == ['0']
      answer (if void left || void right then ['0'] else left)
    | text, _, _ =>
      if ["+", "-", "*", "/", "%"].contains text then complain "non-integer argument".toList
      else complain ("syntax error: unexpected argument '".toList ++ operator ++ ['\''])
      Shell.finish 2
  | [_, operator] =>
    complain ("syntax error: missing argument after '".toList ++ operator ++ ['\''])
    Shell.finish 2
  | _ :: operator :: _ =>
    complain ("syntax error: unexpected argument '".toList ++ operator ++ ['\''])
    Shell.finish 2

/-- The number of lines after which it is taken that nobody reads on. -/
def patience : Nat := 20000

/-- Write a line again and again while somebody reads. -/
def yes (arguments : List Octets) : Shell Unit :=
  withArguments 1 [] [] arguments fun arguments =>
    let line := if arguments.operands.isEmpty then ['y'] else Octets.joined [' '] arguments.operands
    Shell.write 1 (List.replicate patience (line ++ ['\n'])).flatten

end Tool

end SchemaBindings.Program
