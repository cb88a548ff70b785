import SchemaBindings.Program.Result
import SchemaBindings.Program.Script
import SchemaBindings.Program.Octets
import SchemaBindings.Workspace.Files

/-!
# Sessions

A session is what goes on while a script runs: its variables and functions, where its
streams lead, what has been written and what is still to be read, and how the script
goes on after a command. Streams are numbered; what is written to one may end up with
what is written to another, in a file, or nowhere.
-/
namespace SchemaBindings.Program

/-- A variable. It may be marked before it has a value. -/
structure Variable where
  value : Option Octets := none
  exported : Bool := false
  readOnly : Bool := false
deriving DecidableEq, Repr

/-- Where a stream leads. -/
inductive Channel where
  | output (number : Nat)
  | input (number : Nat)
  | file (location : Location)
  | nowhere
deriving DecidableEq, Repr

/-- How a script goes on after a command. -/
inductive Flow where
  | running
  | breaking (loops : Nat)
  | continuing (loops : Nat)
  | returning
  | exiting
  | killed (signal : Nat)
deriving DecidableEq, Repr

/-- The shell that runs a script. The two differ in what `echo` makes of backslashes and in how
messages begin. -/
inductive Dialect where
  | dash
  | bash
deriving DecidableEq, Repr

/-- What goes on while a script runs. -/
structure Session where
  name : Octets
  arguments : List Octets := []
  bindings : List (String × Variable) := []
  functions : List (String × Command) := []
  /-- The variables that calls of functions have to restore, the innermost call first. -/
  frames : List (List (String × Option Variable)) := []
  /-- What is to be done on signals; the number zero stands for the end of the script. -/
  traps : List (Nat × Octets) := []
  /-- Signals that are still to be answered. -/
  signals : List Nat := []
  options : List Char := []
  /-- The number of loops around the command. -/
  loops : Nat := 0
  /-- Whether a script of commands is being run by another one, or a function is. -/
  called : Bool := false
  dialect : Dialect := .dash
  texts : List (Nat × ScriptWord) := []
  channels : List (Nat × Channel) :=
    [(0, .input 0), (1, .output 1), (2, .output 2)]
  /-- What can still be read. -/
  inputs : List (Nat × Octets) := [(0, [])]
  /-- What has been written, the last first. -/
  outputs : List (Nat × List Octets) := [(1, []), (2, [])]
  /-- The first number that no input, output or text has. -/
  count : Nat := 3
  files : Files
  status : Nat := 0
  /-- The numbers and the statuses of the commands in the background, the last first. -/
  started : List (Nat × Nat) := []
  /-- The status of the last substitution in the words of a command. -/
  substituted : Option Nat := none
  line : Nat := 1
  /-- The line up to which the script has been read. -/
  reached : Nat := 1
  /-- The built-in command that is at work. -/
  utility : Option Octets := none
  flow : Flow := .running

/-- A step of a session. -/
abbrev Shell := StateM Session

/-- Put a value at a key of a list of pairs. -/
def putAt {κ ν : Type} [BEq κ] (key : κ) (value : ν) : List (κ × ν) → List (κ × ν)
  | [] => [(key, value)]
  | (present, old) :: rest =>
    if present == key then (key, value) :: rest else (present, old) :: putAt key value rest

/-- The number that a script knows itself by. -/
def processNumber : Octets := ['1']

namespace Shell

/-- Go on with a status. -/
def finish (status : Nat) : Shell Unit := modify fun session => { session with status }

/-- End a script with a status. -/
def leave (status : Nat) : Shell Unit :=
  modify fun session => { session with status, flow := .exiting }

/-- Whether the script goes on with the next command. -/
def isRunning : Shell Bool := return (← get).flow == .running

/-- Write to a channel. -/
def writeTo (channel : Channel) (octets : Octets) : Shell Unit :=
  modify fun session =>
    match channel with
    | .output number =>
      let written := (session.outputs.lookup number).getD []
      { session with outputs := putAt number (octets :: written) session.outputs }
    | .file location =>
      match session.files.entry? location with
      | some (.file content executable) =>
        let files := session.files.put location (.file (content ++ octets.bytes) executable)
        { session with files }
      | _ => session
    | _ => session

/-- Write to a stream. -/
def write (stream : Nat) (octets : Octets) : Shell Unit := do
  match (← get).channels.lookup stream with
  | some channel => writeTo channel octets
  | none => return

/-- Write a line to a stream. -/
def writeLine (stream : Nat) (octets : Octets) : Shell Unit := write stream (octets ++ ['\n'])

/-- What a message of a script begins with: its name, the line, and the command at work. -/
def messageHead (session : Session) : Octets :=
  let place := if session.dialect = .bash then ": line ".toList else [':', ' ']
  session.name ++ place ++ Octets.ofNumber session.line ++ [':', ' ']
    ++ match session.utility with
      | some utility => utility ++ [':', ' ']
      | none => []

/-- Write a message. -/
def complain (message : Octets) : Shell Unit := do
  writeLine 2 (messageHead (← get) ++ message)

/-- Write a message and end the script. -/
def fail (message : Octets) : Shell Unit := do
  complain message
  leave 2

/-- Take all that a channel still has to be read. -/
def readAll (stream : Nat) : Shell Octets := do
  let session ← get
  match session.channels.lookup stream with
  | some (.input number) =>
    set { session with inputs := putAt number [] session.inputs }
    return (session.inputs.lookup number).getD []
  | some (.file location) =>
    match session.files.entry? location with
    | some (.file content _) => return .ofBytes content
    | _ => return []
  | _ => return []

/-- Take a line that a stream has to be read, with its end if it has one. -/
def readLine (stream : Nat) : Shell Octets := do
  let session ← get
  match session.channels.lookup stream with
  | some (.input number) =>
    let text := (session.inputs.lookup number).getD []
    let body := text.takeWhile (· != '\n')
    let taken := text.take (body.length + 1)
    set { session with inputs := putAt number (text.drop taken.length) session.inputs }
    return taken
  | _ => return []

/-- A new input. -/
def newInput (octets : Octets) : Shell Channel := do
  let session ← get
  set { session with
    inputs := (session.count, octets) :: session.inputs, count := session.count + 1 }
  return .input session.count

/-- A new output. -/
def newOutput : Shell Nat := do
  let session ← get
  set { session with
    outputs := (session.count, []) :: session.outputs, count := session.count + 1 }
  return session.count

/-- All that an output has got, which is then forgotten. -/
def takeOutput (number : Nat) : Shell Octets := do
  let session ← get
  set { session with outputs := session.outputs.filter fun output => output.1 != number }
  return ((session.outputs.lookup number).getD []).reverse.flatten

/-- Let a stream lead to a channel. -/
def connect (stream : Nat) (channel : Channel) : Shell Unit :=
  modify fun session => { session with channels := putAt stream channel session.channels }

/-- Do something, and let the streams lead where they led before. -/
def withChannels (action : Shell Unit) : Shell Unit := do
  let channels := (← get).channels
  action
  modify fun session => { session with channels }

/-- Do something in a session that is given up afterwards. What has been read, written and changed
in files stays, and so does the end of the whole script by a signal. -/
def apart (action : Shell Unit) : Shell Unit := do
  let before ← get
  action
  modify fun after =>
    { before with
      texts := after.texts
      inputs := after.inputs
      outputs := after.outputs
      count := after.count
      files := { after.files with workingDirectory := before.files.workingDirectory }
      status := after.status
      flow :=
        match after.flow with
        | .killed signal => .killed signal
        | _ => before.flow }

/-- Put a variable. -/
def putVariable (name : String) (content : Variable) : Shell Unit :=
  modify fun session => { session with bindings := putAt name content session.bindings }

/-- Give a variable a value. One that must not change ends the script. -/
def assign (name : String) (value : Octets) : Shell Unit := do
  let present := ((← get).bindings.lookup name).getD {}
  if present.readOnly then fail (name.toList ++ ": is read only".toList)
  else
    let exported := present.exported || (← get).options.contains 'a'
    putVariable name { present with value := some value, exported }

/-- Remove a variable. -/
def unset (name : String) : Shell Unit := do
  if (((← get).bindings.lookup name).getD {}).readOnly then
    fail (name.toList ++ ": is read only".toList)
  else
    modify fun session =>
      { session with bindings := session.bindings.filter fun present => present.1 != name }

end Shell

namespace Session

/-- The value of a variable. -/
def variableValue? (session : Session) (name : String) : Option Octets :=
  (session.bindings.lookup name).bind Variable.value

/-- The characters that separate words in values. -/
def separators (session : Session) : Octets :=
  match session.bindings.lookup "IFS" with
  | some present => present.value.getD [' ', '\t', '\n']
  | none => [' ', '\t', '\n']

/-- What stands between arguments that are put into one text. -/
def joint (session : Session) : Octets := session.separators.take 1

/-- The value of a parameter, if it has one. -/
def value? (session : Session) : Parameter → Option Octets
  | .variable name => session.variableValue? name
  | .position 0 => some session.name
  | .position (number + 1) => session.arguments[number]?
  | .count => some (Octets.ofNumber session.arguments.length)
  | .separate =>
    if session.arguments.isEmpty then none else some (Octets.joined [' '] session.arguments)
  | .joined =>
    if session.arguments.isEmpty then none
    else some (Octets.joined session.joint session.arguments)
  | .process => some processNumber
  | .status => some (Octets.ofNumber session.status)
  | .options => some session.options
  | .started => session.started.head?.map fun command => Octets.ofNumber command.1

/-- Whether an option of the script is set. -/
def hasOption (session : Session) (letter : Char) : Bool := session.options.contains letter

end Session

/-- The text that names a parameter. -/
def Parameter.name : Parameter → Octets
  | .variable name => name.toList
  | .position number => Octets.ofNumber number
  | .count => ['#']
  | .separate => ['@']
  | .joined => ['*']
  | .process => ['$']
  | .status => ['?']
  | .options => ['-']
  | .started => ['!']

end SchemaBindings.Program
