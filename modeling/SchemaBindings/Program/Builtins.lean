import SchemaBindings.Program.Condition
import SchemaBindings.Program.Expansion
import SchemaBindings.Program.Format

/-!
# Built-in commands

Built-in commands work on the session itself: its variables, its arguments and
options, and the way it goes on. What they refuse ends the script if the command is one
of the special ones, and gives the status two otherwise.
-/
namespace SchemaBindings.Program

namespace Builtin

/-- Refuse what a command is asked. -/
def refuse (message : String) : Shell Unit := do
  Shell.complain message.toList
  Shell.finish 2

/-- Refuse what a special command is asked, which ends the script. -/
def refuseForGood (message : String) : Shell Unit := Shell.fail message.toList

/-- Write arguments with blanks between them. -/
def echo (arguments : List Octets) : Shell Unit := do
  let (newline, arguments) :=
    if arguments.head? == some ['-', 'n'] then (false, arguments.tail) else (true, arguments)
  let text := Octets.joined [' '] arguments
  let (text, ended) :=
    if (← get).dialect = .bash then (text, false) else unescaped .command text
  Shell.write 1 (if newline && !ended then text ++ ['\n'] else text)

/-- Write arguments by a format. -/
def printf (arguments : List Octets) : Shell Unit := do
  let arguments := if arguments.head? == some ['-', '-'] then arguments.tail else arguments
  match arguments with
  | [] => refuse "usage: printf format [arg ...]"
  | format :: values =>
    let formatted := printFormatted .command format values
    for complaint in formatted.complaints do
      Shell.complain complaint
    Shell.write 1 formatted.output
    Shell.finish formatted.status

/-- Decide a condition. -/
def condition (words : List Octets) : Shell Unit := do
  match conditionHolds (← get).files words with
  | .ok holds => Shell.finish (if holds then 0 else 1)
  | .error error => refuse error.message

/-- Decide a condition that ends in a bracket. -/
def bracketed (words : List Octets) : Shell Unit :=
  if words.getLast? == some [']'] then condition words.dropLast
  else refuse ConditionError.missingBracket.message

/-- Go to another directory. -/
def changeDirectory (arguments : List Octets) : Shell Unit := do
  let session ← get
  let path :=
    match arguments with
    | [] => (session.variableValue? "HOME").getD []
    | path :: _ => path
  match session.files.locate (Octets.text path) with
  | .ok location =>
    if session.files.hasDirectory location then
      set { session with files := { session.files with workingDirectory := location } }
      Shell.finish 0
    else refuse ("can't cd to " ++ .ofList path)
  | .error _ =>
    if arguments.isEmpty then Shell.finish 0 else refuse ("can't cd to " ++ .ofList path)

/-- Write where the session is. -/
def workingDirectory (_ : List Octets) : Shell Unit := do
  let names := (← get).files.workingDirectory
  Shell.writeLine 1 ('/' :: (("/".intercalate names).toList))

/-- The name and the value of an argument that may be an assignment. -/
def definition (argument : Octets) : Octets × Option Octets :=
  let name := argument.takeWhile (· != '=')
  match argument.drop name.length with
  | '=' :: value => (name, some value)
  | _ => (name, none)

/-- Mark variables, and give them values. -/
def mark (change : Variable → Variable) (arguments : List Octets) : Shell Unit := do
  for argument in arguments do
    if (← Shell.isRunning) && argument != ['-', 'p'] then
      let (name, value) := definition argument
      if !isName name then refuseForGood (.ofList name ++ ": bad variable name")
      else
        let name := String.ofList name
        match value with
        | some value => Shell.assign name value
        | none => pure ()
        if ← Shell.isRunning then
          Shell.putVariable name (change (((← get).bindings.lookup name).getD {}))

/-- Make variables those of the call of a function. -/
def declareLocal (arguments : List Octets) : Shell Unit := do
  for argument in arguments do
    let (name, value) := definition argument
    let name := String.ofList name
    match (← get).frames with
    | [] => refuseForGood "not in a function"
    | frame :: frames =>
      let present := (← get).bindings.lookup name
      unless frame.any (fun saved => saved.1 == name) do
        modify fun session => { session with frames := ((name, present) :: frame) :: frames }
      match value with
      | some value => Shell.assign name value
      | none => pure ()

/-- Remove variables or functions. -/
def unset (arguments : List Octets) : Shell Unit := do
  let functions := arguments.head? == some ['-', 'f']
  for argument in arguments do
    unless argument == ['-', 'f'] || argument == ['-', 'v'] do
      let name := String.ofList argument
      if functions then
        modify fun session =>
          { session with functions := session.functions.filter fun present => present.1 != name }
      else if isName argument then Shell.unset name
      else refuseForGood (name ++ ": bad variable name")

/-- The letters of the options that have names. -/
def optionLetters : List (String × Char) :=
  [("errexit", 'e'), ("noglob", 'f'), ("ignoreeof", 'I'), ("interactive", 'i'), ("monitor", 'm'),
   ("noexec", 'n'), ("stdin", 's'), ("xtrace", 'x'), ("verbose", 'v'), ("vi", 'V'), ("emacs", 'E'),
   ("noclobber", 'C'), ("allexport", 'a'), ("notify", 'b'), ("nounset", 'u')]

/-- Set or clear an option. -/
def setOption (value : Bool) (letter : Char) : Shell Unit := do
  if (optionLetters.map Prod.snd).contains letter then
    modify fun session =>
      let others := session.options.filter (· != letter)
      { session with options := if value then others ++ [letter] else others }
  else refuseForGood ("Illegal option -" ++ .singleton letter)

/-- Set the options of an argument and give what is left of the arguments; `named` says that an
option is named by the next one. -/
def setOptions : (named : Option Bool) → List Octets → Shell (Option (List Octets))
  | _, [] => return none
  | some value, name :: others => do
    match optionLetters.lookup (.ofList name) with
    | some letter => setOption value letter
    | none => refuseForGood ("Illegal option -o " ++ .ofList name)
    setOptions none others
  | none, argument :: others => do
    match argument with
    | ['-', '-'] => return some others
    | ['-'] => return if others.isEmpty then none else some others
    | sign :: letters =>
      if sign == '-' || sign == '+' then
        for letter in letters do
          if (← Shell.isRunning) && letter != 'o' then setOption (sign == '-') letter
        if ← Shell.isRunning then
          setOptions (if letters.contains 'o' then some (sign == '-') else none) others
        else return none
      else return some (argument :: others)
    | [] => return some (argument :: others)

/-- Set options and arguments. -/
def setArguments (arguments : List Octets) : Shell Unit := do
  match ← setOptions none arguments with
  | some arguments => modify fun session => { session with arguments }
  | none => return

/-- A count that an argument gives. -/
def countOf (argument : Octets) : Option Nat := (Octets.integer? argument).bind Int.toNat?

/-- Drop arguments. -/
def shift (arguments : List Octets) : Shell Unit := do
  let session ← get
  match (arguments.head?.map countOf).getD (some 1) with
  | none => refuseForGood ("Illegal number: " ++ .ofList (arguments.headD []))
  | some count =>
    if session.arguments.length < count then refuseForGood "can't shift that many"
    else set { session with arguments := session.arguments.drop count }

/-- End the script. -/
def exit (before : Nat) (arguments : List Octets) : Shell Unit := do
  match arguments with
  | [] => Shell.leave before
  | argument :: _ =>
    match countOf argument with
    | some status => Shell.leave (status % 256)
    | none => refuseForGood ("Illegal number: " ++ .ofList argument)

/-- End a function or a script that has been called. -/
def leaveCall (before : Nat) (arguments : List Octets) : Shell Unit := do
  let flow := if (← get).called then Flow.returning else .exiting
  match arguments with
  | [] => modify fun session => { session with status := before, flow }
  | argument :: _ =>
    match countOf argument with
    | some status => modify fun session => { session with status, flow }
    | none => refuseForGood ("Illegal number: " ++ .ofList argument)

/-- Leave loops or go on with them. -/
def leaveLoops (flow : Nat → Flow) (arguments : List Octets) : Shell Unit := do
  match (arguments.head?.map countOf).getD (some 1) with
  | some (count + 1) =>
    let loops := (← get).loops
    if loops != 0 then modify fun session => { session with flow := flow (min (count + 1) loops) }
  | _ => refuseForGood ("Illegal number: " ++ .ofList (arguments.headD []))

/-- Read a line that may go on after a backslash at its end. Characters after backslashes are
marked. None if there is nothing to be read. -/
def readMarked (raw : Bool) : (bound : Nat) → Shell (List Marked × Bool)
  | 0 => return ([], false)
  | bound + 1 => do
    let line ← Shell.readLine 0
    let ended := line.getLast? == some '\n'
    let body := if ended then line.dropLast else line
    if raw then return (body.map fun character => (character, false), ended)
    else
      let (marked, continues) := withoutBackslashes body
      if continues && ended then
        let (others, ended) ← readMarked raw bound
        return (marked ++ others, ended)
      else return (marked, ended)
where
  /-- Drop backslashes; whether the last one has nothing after it is given too. -/
  withoutBackslashes : Octets → List Marked × Bool
    | [] => ([], false)
    | ['\\'] => ([], true)
    | '\\' :: character :: rest =>
      let (others, continues) := withoutBackslashes rest
      ((character, true) :: others, continues)
    | character :: rest =>
      let (others, continues) := withoutBackslashes rest
      ((character, false) :: others, continues)

/-- Whether a marked character is a blank separator. -/
def isBlankSeparator (separators : Octets) (marked : Marked) : Bool :=
  !marked.2 && separators.contains marked.1 && Fields.isBlank marked.1

/-- Drop blank separators at the end. -/
def withoutLastBlanks (separators : Octets) (text : List Marked) : List Marked :=
  (text.reverse.dropWhile (isBlankSeparator separators)).reverse

/-- Give variables the parts of a line; the last one gets what is left. -/
def assignParts (separators : Octets) : List Octets → List Marked → Shell Unit
  | [], _ => return
  | [name], text => do
    let text := withoutLastBlanks separators (text.dropWhile (isBlankSeparator separators))
    let text :=
      match text.reverse with
      | last :: before =>
        if !last.2 && separators.contains last.1
            && !before.any (fun marked => !marked.2 && separators.contains marked.1) then
          before.reverse
        else text
      | [] => text
    Shell.assign (.ofList name) (text.map Prod.fst)
  | name :: names, text => do
    let text := text.dropWhile (isBlankSeparator separators)
    let part := text.takeWhile fun marked => marked.2 || !separators.contains marked.1
    let rest := (text.drop part.length).dropWhile (isBlankSeparator separators)
    let rest :=
      match text.drop part.length, rest with
      | first :: _, next :: others =>
        if isBlankSeparator separators first then
          if !next.2 && separators.contains next.1 then others else rest
        else others
      | _, _ => rest
    Shell.assign (.ofList name) (part.map Prod.fst)
    assignParts separators names rest

/-- Read a line into variables. -/
def read (arguments : List Octets) : Shell Unit := do
  let raw := arguments.head? == some ['-', 'r']
  let names := if raw then arguments.tail else arguments
  if names.isEmpty then refuse "arg count"
  else if let some name := names.find? fun name => !isName name then
    refuse (.ofList name ++ ": bad variable name")
  else
    let lines := (← get).inputs.foldl (fun lines input => lines + input.2.count '\n') 0
    let (text, ended) ← readMarked raw (lines + 1)
    assignParts (← get).separators names text
    if ← Shell.isRunning then Shell.finish (if ended then 0 else 1)

/-- The signal that a text names by its name or number. -/
def signalOf (text : Octets) : Option Nat :=
  match Octets.digits? text with
  | some number => if number < 65 then some number else none
  | none => signalNumber? (.ofList text)

/-- Send a signal to the script. It is answered when the command is done. -/
def sendSignal (signal : Nat) : Shell Unit :=
  modify fun session => { session with signals := session.signals ++ [signal] }

/-- Send signals. -/
def kill (arguments : List Octets) : Shell Unit := do
  let usage : Shell Unit :=
    refuse ("Usage: kill [-s sigspec | -signum | -sigspec] [pid | job]... or\n"
      ++ "kill -l [exitstatus]")
  let send (signal : Nat) (targets : List Octets) : Shell Unit := do
    if targets.isEmpty then usage
    else
      for target in targets do
        if target == processNumber then sendSignal signal
        else if (Octets.digits? target).isSome then
          Shell.complain "No such process\n".toList
          Shell.finish 1
        else refuse ("Illegal number: " ++ .ofList target)
  match arguments with
  | ['-', 's'] :: name :: targets =>
    match signalOf name with
    | some signal => send signal targets
    | none => refuse ("invalid signal number or name: " ++ .ofList name)
  | ['-', 's'] :: [] => refuse "No arg for -s option"
  | ['-', 'l'] :: targets =>
    match targets with
    | [] =>
      for name in signalNames do
        Shell.writeLine 1 name.toList
    | target :: _ =>
      match (countOf target).bind fun number => signalName (number % 128) with
      | some name => Shell.writeLine 1 (name.toList.drop 3)
      | none => refuse ("invalid signal number or exit status: " ++ .ofList target)
  | ['-', '-'] :: targets => send 15 targets
  | ('-' :: name) :: targets =>
    match signalOf name with
    | some signal => send signal targets
    | none => refuse ("Illegal option -" ++ .ofList (name.take 1))
  | [] => usage
  | targets => send 15 targets

/-- The number of what a trap is set for. -/
def trapNumber? (text : Octets) : Option Nat :=
  if text == "EXIT".toList || text == "exit".toList then some 0 else signalOf text

/-- A text in single quotes. -/
def singleQuotes (text : Octets) : Octets :=
  '\'' :: text.flatMap (fun octet => if octet == '\'' then "'\"'\"'".toList else [octet]) ++ ['\'']

/-- Set what is to be done on signals. -/
def trap (arguments : List Octets) : Shell Unit := do
  let arguments := if arguments.head? == some ['-', '-'] then arguments.tail else arguments
  let (action, names) : Option Octets × List Octets :=
    match arguments with
    | [only] => (none, [only])
    | action :: names =>
      if action == ['-'] || (Octets.digits? action).isSome then
        (none, if action == ['-'] then names else arguments)
      else (some action, names)
    | [] => (none, [])
  for name in names do
    match trapNumber? name with
    | some number =>
      modify fun session =>
        let others := session.traps.filter fun trap => trap.1 != number
        { session with
          traps :=
            match action with
            | some action => (number, action) :: others
            | none => others }
    | none =>
      Shell.writeLine 2 ("trap: ".toList ++ name ++ ": bad trap".toList)
      Shell.finish 1
  if arguments.isEmpty then
    for (number, action) in (← get).traps.mergeSort fun left right => left.1 ≤ right.1 do
      let name :=
        if number = 0 then "EXIT".toList
        else ((signalName number).map fun name => name.toList.drop 3).getD (Octets.ofNumber number)
      Shell.writeLine 1 ("trap -- ".toList ++ singleQuotes action ++ ' ' :: name)

/-- Wait for commands in the background, which have come to their ends already. -/
def wait (arguments : List Octets) : Shell Unit := do
  for argument in arguments do
    match Octets.digits? argument with
    | some number => Shell.finish (((← get).started.lookup number).getD 127)
    | none => refuse ("Illegal number: " ++ .ofList argument)

/-- The commands that end the script when they are refused something, and whose assignments stay. -/
def special : List String :=
  [":", ".", "break", "continue", "eval", "exec", "exit", "export", "readonly", "return", "set",
   "shift", "times", "trap", "unset"]

/-- The built-in command of a name. It is run after its status has been set to zero; `before` is the
status of the command before. -/
def find? (name : String) (before : Nat) : Option (List Octets → Shell Unit) :=
  match name with
  | ":" => some fun _ => return
  | "true" => some fun _ => return
  | "false" => some fun _ => Shell.finish 1
  | "echo" => some echo
  | "printf" => some printf
  | "test" => some condition
  | "[" => some bracketed
  | "cd" => some changeDirectory
  | "chdir" => some changeDirectory
  | "pwd" => some workingDirectory
  | "export" => some (mark fun content => { content with exported := true })
  | "readonly" => some (mark fun content => { content with readOnly := true })
  | "local" => some declareLocal
  | "unset" => some unset
  | "set" => some setArguments
  | "shift" => some shift
  | "exit" => some (exit before)
  | "return" => some (leaveCall before)
  | "break" => some (leaveLoops .breaking)
  | "continue" => some (leaveLoops .continuing)
  | "read" => some read
  | "kill" => some kill
  | "trap" => some trap
  | "wait" => some wait
  | "umask" => some fun arguments =>
    if arguments.isEmpty then Shell.writeLine 1 ['0', '0', '2', '2'] else return
  | _ =>
    if ["times", "hash", "alias", "unalias", "ulimit", "jobs", "bg", "fg"].contains name then
      some fun _ => return
    else none

end Builtin

end SchemaBindings.Program
