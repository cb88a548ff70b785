import SchemaBindings.Program.Builtins
import SchemaBindings.Program.ScriptReader
import SchemaBindings.Program.Toolbox

/-!
# The shell

The shell runs the commands of a script one after the other. A simple command names a
function, a built-in command, a tool, or a file to be executed; the other commands are
made of commands. What runs in a session of its own, such as the parts of a pipeline or
what is substituted into a word, leaves nothing behind but what it has written and how
it ended.

The bound says how deep commands may be nested, where a round of a loop and a line of a
script count as a step into the depth.
-/
namespace SchemaBindings.Program

/-- The number of steps that a script may take into the depth. -/
def depthLimit : Nat := 1000000

/-- The programs that run scripts. -/
def interpreters : List String := ["sh", "dash", "bash"]

/-- Whether there is a program of a name. -/
def isProgram (name : String) : Bool :=
  (Tool.find? name).isSome || interpreters.contains name || name == "env"

/-- The directories of the programs that are named by themselves. -/
def programDirectories : List Location := [["bin"], ["usr", "bin"]]

/-- The directories that lie outside of the files that are worked on. -/
def systemDirectories : List Location :=
  programDirectories
    ++ [["usr"], ["etc"], ["dev"], ["lib"], ["home"], ["opt"], ["proc"], ["root"], ["sbin"], ["sys"],
      ["tmp"], ["var"]]

/-- The location that an absolute path has if no part of it has to be looked up. -/
def systemLocation (path : String) : Location :=
  (Path.segments path).foldl (fun location segment =>
    if Path.isFiller segment then location
    else if segment == ".." then location.dropLast
    else location ++ [segment]) []

/-- The name of a program that a path names in one of the directories of programs. -/
def systemName? (path : String) : Option String :=
  let location := systemLocation path
  if Path.isAbsolute path && programDirectories.contains location.dropLast then
    location.getLast?
  else none

/-- The interpreter that the first line of a file names, and the argument that it is given. -/
def interpreterLine? (content : Octets) : Option (Octets × Option Octets) :=
  let isBlank (octet : Char) : Bool := octet == ' ' || octet == '\t'
  match content with
  | '#' :: '!' :: rest =>
    let line := (rest.takeWhile (· != '\n')).dropWhile isBlank
    let line := (line.reverse.dropWhile isBlank).reverse
    let interpreter := line.takeWhile fun octet => !isBlank octet
    let argument := (line.drop interpreter.length).dropWhile isBlank
    if interpreter.isEmpty then none
    else some (interpreter, if argument.isEmpty then none else some argument)
  | _ => none

/-- A program that is to be run: its own name, what it is called, and its arguments. -/
structure Launch where
  program : String
  name : Octets
  arguments : List Octets

/-- The program that a path leads to, and its arguments: a file that names an interpreter leads to
that, which gets the path as an argument. Interpreters may be such files themselves, but not over
and over. -/
def resolvePath (files : Files) : (bound : Nat) → (path : Octets) → List Octets →
    Except OsError Launch
  | 0, _, _ => .error .execFormat
  | bound + 1, path, arguments =>
    let text := Octets.text path
    match systemName? text with
    | some name =>
      if !isProgram name then .error .noEntry
      else if text.endsWith "/" then .error .notDirectory
      else .ok ⟨name, path, arguments⟩
    | none => do
      if Path.isAbsolute text && systemDirectories.contains (systemLocation text) then
        throw .permissionDenied
      match files.entry? (← files.locate text) with
      | none => throw .noEntry
      | some .directory => throw .permissionDenied
      | some (.file _ false) => throw .permissionDenied
      | some (.file content true) =>
        match interpreterLine? (.ofBytes content) with
        | none => throw .execFormat
        | some (interpreter, argument) =>
          resolvePath files bound interpreter (argument.toList ++ path :: arguments)

/-- The greatest number of files that lead to one another. -/
def interpreterLimit : Nat := 5

/-- The program that a name or a path leads to, and its arguments. -/
def resolveProgram (files : Files) (name : Octets) (arguments : List Octets) :
    Except OsError Launch :=
  if name.contains '/' then resolvePath files interpreterLimit name arguments
  else if Files.nameLimit < name.length then .error .nameTooLong
  else if name == ['.'] || name == ['.', '.'] then .error .permissionDenied
  else if isProgram (.ofList name) then .ok ⟨.ofList name, name, arguments⟩
  else .error .noEntry

namespace Shell

/-- The channel that a redirection opens. -/
def openChannel (kind : RedirectionKind) (path : Octets) : Shell (Except Octets Channel) := do
  let session ← get
  let name := Octets.text path
  let refused (action missing : String) (cause : OsError) : Except Octets Channel :=
    let reason :=
      match cause with
      | .noEntry => missing
      | .notDirectory => missing
      | .isDirectory => "Is a directory"
      | .nameTooLong => "File name too long"
      | _ => "Permission denied"
    .error ("cannot ".toList ++ action.toList ++ ' ' :: path ++ ": ".toList ++ reason.toList)
  let stream? : Option Nat :=
    match name with
    | "/dev/stdin" => some 0
    | "/dev/stdout" => some 1
    | "/dev/stderr" => some 2
    | _ => none
  match stream?.bind fun stream => session.channels.lookup stream with
  | some channel => return .ok channel
  | none =>
    if name == "/dev/null" then
      if kind = .read || kind = .readAndWrite then return .ok (← newInput []) else return .ok .nowhere
    else if kind = .read then
      match session.files.locate name with
      | .error cause => return refused "open" "No such file" cause
      | .ok location =>
        match session.files.entry? location with
        | some (.file content _) => return .ok (← newInput (.ofBytes content))
        | _ => return .ok (← newInput [])
    else
      let present :=
        match session.files.find? name with
        | some (.file content _) => if kind = .write then [] else content
        | _ => []
      match session.files.writeFile name present with
      | .error cause => return refused "create" "Directory nonexistent" cause
      | .ok files =>
        set { session with files }
        if kind = .readAndWrite then return .ok (← newInput (.ofBytes present))
        match files.locate name with
        | .ok location => return .ok (.file location)
        | .error _ => return .ok .nowhere

/-- Let streams lead where redirections say, until one is refused. -/
def redirect (substitute : List Command → Shell Octets) (bound : Nat) :
    List Redirection → Shell Bool
  | [] => return true
  | .mk stream kind target :: others => do
    let refuse (message : Octets) : Shell Bool := do
      complain message
      finish 2
      return false
    match kind with
    | .here number =>
      let text ← expandText substitute bound (((← get).texts.lookup number).getD [])
      connect stream (← newInput text)
      redirect substitute bound others
    | .duplicate =>
      let text ← expandText substitute bound target
      if text == ['-'] then
        modify fun session =>
          { session with channels := session.channels.filter fun channel => channel.1 != stream }
        redirect substitute bound others
      else
        match (if text.length = 1 then Octets.digits? text else none) with
        | none =>
          modify fun session => { session with line := session.reached }
          fail "Syntax error: Bad fd number".toList
          return false
        | some number =>
          match (← get).channels.lookup number with
          | some channel =>
            connect stream channel
            redirect substitute bound others
          | none => refuse (text ++ ": Bad file descriptor".toList)
    | _ =>
      let path ← expandText substitute bound target
      if ← isRunning then
        match ← openChannel kind path with
        | .ok channel =>
          connect stream channel
          redirect substitute bound others
        | .error message => refuse message
      else return false

/-- Expand assignments and make them. -/
def assignAll (substitute : List Command → Shell Octets) (bound : Nat) (exported : Bool) :
    List (String × ScriptWord) → Shell Unit
  | [] => return
  | (name, word) :: others => do
    let value ← expandText substitute bound word
    if ← isRunning then
      assign name value
      if exported then
        modify fun session =>
          match session.bindings.lookup name with
          | some present =>
            { session with bindings := putAt name { present with exported } session.bindings }
          | none => session
      if ← isRunning then assignAll substitute bound exported others

/-- Give variables back what they held. -/
def restore : List (String × Option Variable) → Shell Unit
  | [] => return
  | (name, content) :: others => do
    modify fun session =>
      match content with
      | some content => { session with bindings := putAt name content session.bindings }
      | none =>
        { session with bindings := session.bindings.filter fun present => present.1 != name }
    restore others

/-- End the script if it asks for that and a command has failed. -/
def check (tested : Bool) : Shell Unit := do
  let session ← get
  if session.flow == .running && session.status != 0 && !tested && session.hasOption 'e' then
    set { session with flow := .exiting }

/-- Begin a session of its own: only signals that are ignored stay so. -/
def enterSubshell : Shell Unit :=
  modify fun session =>
    { session with traps := session.traps.filter (fun trap => trap.2.isEmpty), loops := 0 }

/-- Begin a script of its own, which knows only the variables that are handed on. -/
def enterScript (dialect : Dialect) (name : Octets) (arguments : List Octets) : Shell Unit :=
  modify fun session =>
    { session with
      name, arguments, dialect
      bindings := session.bindings.filter fun present => present.2.exported
      functions := []
      frames := []
      traps := session.traps.filter fun trap => trap.2.isEmpty
      options := []
      loops := 0
      called := false
      line := 1
      utility := none
      status := 0 }

/-- End a round of a loop. Whether the loop goes on is given. -/
def endRound : Shell Bool := do
  let session ← get
  match session.flow with
  | .running => return true
  | .breaking (loops + 2) =>
    set { session with flow := .breaking (loops + 1) }
    return false
  | .breaking _ =>
    set { session with flow := .running }
    return false
  | .continuing (loops + 2) =>
    set { session with flow := .continuing (loops + 1) }
    return false
  | .continuing _ =>
    set { session with flow := .running }
    return true
  | _ => return false

/-- Take a signal that a script has not caught as the status of the script. -/
def survive : Shell Unit :=
  modify fun session =>
    match session.flow with
    | .killed signal => { session with status := 128 + signal, flow := .running }
    | _ => session

/-- Do what the options of `env` ask for, and give the arguments after them. -/
def environmentOptions : List Octets → Shell (List Octets)
  | [] => return []
  | argument :: others => do
    let clear : Shell Unit := modify fun session => { session with bindings := [] }
    match argument with
    | ['-', '-'] => return others
    | ['-'] =>
      clear
      environmentOptions others
    | ['-', 'i'] =>
      clear
      environmentOptions others
    | ['-', 'u'] => skipName others
    | '-' :: 'S' :: words =>
      return ((Tool.fieldsOf ' ' [] words).filter fun word => word != []) ++ others
    | _ => return argument :: others
where
  /-- Forget the variable that is named first. -/
  skipName : List Octets → Shell (List Octets)
    | [] => return []
    | name :: others => do
      unset (.ofList name)
      environmentOptions others

/-- What an interpreter is asked to run. -/
structure Invocation where
  letters : List (Bool × Char) := []
  /-- Whether the script is given as an argument. -/
  inline : Bool := false
  operands : List Octets := []

/-- Read the arguments of an interpreter; `named` says that the next one names an option. -/
def invocationOf : (named : Option Bool) → List Octets → Invocation
  | _, [] => {}
  | some value, name :: others =>
    let later := invocationOf none others
    let letter := (Builtin.optionLetters.lookup (.ofList name)).getD '-'
    { later with letters := (value, letter) :: later.letters }
  | none, argument :: others =>
    match argument with
    | ['-'] => { operands := others }
    | ['-', '-'] => { operands := others }
    | sign :: letters =>
      if sign == '-' || sign == '+' then
        let value := sign == '-'
        let later := invocationOf (if letters.contains 'o' then some value else none) others
        { later with
          letters := (letters.filter fun letter => letter != 'c' && letter != 'o').map
              (fun letter => (value, letter))
            ++ later.letters
          inline := later.inline || letters.contains 'c' }
      else { operands := argument :: others }
    | [] => { operands := argument :: others }

/-- Where a command is found, for those who ask. -/
def descriptionOf (name : Octets) : Shell (Option (Octets × Octets)) := do
  let session ← get
  let text := String.ofList name
  if keywords.contains text then return some (name, " is a shell keyword".toList)
  else if (session.functions.lookup text).isSome then
    return some (name, " is a shell function".toList)
  else if Builtin.special.contains text then
    return some (name, " is a special shell builtin".toList)
  else if (Builtin.find? text 0).isSome || text == "command" || text == "type" then
    return some (name, " is a shell builtin".toList)
  else if name.contains '/' then
    match resolveProgram session.files name [] with
    | .ok _ => return some (name, " is ".toList ++ name)
    | .error .execFormat => return some (name, " is ".toList ++ name)
    | .error _ => return none
  else if isProgram text then
    let path := "/usr/bin/".toList ++ name
    return some (path, " is ".toList ++ path)
  else return none

/-- Say what commands are. -/
def describe (arguments : List Octets) : Shell Unit := do
  for name in arguments do
    match ← descriptionOf name with
    | some (_, description) => writeLine 1 (name ++ description)
    | none =>
      writeLine 1 (name ++ ": not found".toList)
      finish 127

mutual

/-- What commands write, without the line feeds at the end. -/
def substitution : (bound : Nat) → List Command → Shell Octets
  | 0, _ => return []
  | bound + 1, commands => do
    let before := (← get).status
    let number ← newOutput
    apart do
      connect 1 (.output number)
      enterSubshell
      runCommands bound false commands
      closeScript bound
    let octets ← takeOutput number
    modify fun session =>
      { session with substituted := some session.status, status := before }
    return Octets.withoutLastFeeds (octets.filter (· != '\x00'))

/-- Run commands one after the other. `tested` says that the script looks at how they end. -/
def runCommands : (bound : Nat) → (tested : Bool) → List Command → Shell Unit
  | 0, _, _ => leave 2
  | _ + 1, _, [] => return
  | bound + 1, tested, command :: commands => do
    runCommand bound tested command
    if ← isRunning then runCommands bound tested commands

/-- Run a command. -/
def runCommand : (bound : Nat) → (tested : Bool) → Command → Shell Unit
  | 0, _, _ => leave 2
  | bound + 1, tested, command => do
    match command with
    | .simple line assignments words redirections =>
      runSimple bound tested line assignments words redirections
      answerSignals bound
      check tested
    | .pipeline negated commands =>
      match commands with
      | [only] => runCommand bound (tested || negated) only
      | _ => runStages bound (tested || negated) commands
      if negated then
        modify fun session => { session with status := if session.status = 0 then 1 else 0 }
      else check tested
    | .both first second =>
      runCommand bound true first
      if (← isRunning) && (← get).status == 0 then runCommand bound tested second
    | .either first second =>
      runCommand bound true first
      if (← isRunning) && (← get).status != 0 then runCommand bound tested second
    | .background command =>
      apart do
        connect 0 (← newInput [])
        enterSubshell
        runCommand bound tested command
        closeScript bound
      if ← isRunning then
        modify fun session =>
          { session with
            started := (session.count, session.status) :: session.started
            count := session.count + 1
            status := 0 }
    | .group commands => runCommands bound tested commands
    | .subshell commands =>
      apart do
        enterSubshell
        runCommands bound tested commands
        closeScript bound
      check tested
    | .branch condition body otherwise =>
      runCommands bound true condition
      if ← isRunning then
        if (← get).status == 0 then runCommands bound tested body
        else
          finish 0
          runCommands bound tested otherwise
    | .loop untilHolds condition body =>
      modify fun session => { session with loops := session.loops + 1 }
      runLoop bound tested untilHolds condition body 0
      modify fun session => { session with loops := session.loops - 1 }
    | .forEach name words body =>
      let values ←
        match words with
        | some words => expandWords (substitution bound) bound words
        | none => pure (← get).arguments
      if ← isRunning then
        finish 0
        modify fun session => { session with loops := session.loops + 1 }
        runForEach bound tested name body values
        modify fun session => { session with loops := session.loops - 1 }
    | .choose word cases =>
      let text ← expandText (substitution bound) bound word
      if ← isRunning then
        finish 0
        runCases bound tested text cases
    | .define name body =>
      modify fun session => { session with functions := putAt name body session.functions }
      finish 0
    | .redirected command redirections =>
      withChannels do
        if ← redirect (substitution bound) bound redirections then
          runCommand bound tested command
      check tested

/-- Run the parts of a pipeline, each of which reads what the one before has written. -/
def runStages : (bound : Nat) → (tested : Bool) → List Command → Shell Unit
  | 0, _, _ => leave 2
  | _ + 1, _, [] => return
  | bound + 1, tested, command :: commands => do
    let stage : Shell Unit := do
      enterSubshell
      runCommand bound tested command
      closeScript bound
    if commands.isEmpty then apart stage
    else
      let number ← newOutput
      apart do
        connect 1 (.output number)
        stage
      let input ← newInput (← takeOutput number)
      if ← isRunning then
        withChannels do
          connect 0 input
          runStages bound tested commands

/-- Run rounds of a loop. `status` is how the last round ended. -/
def runLoop : (bound : Nat) → (tested untilHolds : Bool) → (condition body : List Command) →
    (status : Nat) → Shell Unit
  | 0, _, _, _, _, _ => leave 2
  | bound + 1, tested, untilHolds, condition, body, status => do
    runCommands bound true condition
    if ← endRound then
      if ((← get).status == 0) == untilHolds then finish status
      else
        runCommands bound tested body
        if ← endRound then runLoop bound tested untilHolds condition body (← get).status

/-- Run a loop for values. -/
def runForEach : (bound : Nat) → (tested : Bool) → (name : String) → (body : List Command) →
    List Octets → Shell Unit
  | 0, _, _, _, _ => leave 2
  | _ + 1, _, _, _, [] => return
  | bound + 1, tested, name, body, value :: values => do
    assign name value
    if ← isRunning then
      runCommands bound tested body
      if ← endRound then runForEach bound tested name body values

/-- Run the first case that has a pattern for a text. -/
def runCases : (bound : Nat) → (tested : Bool) → (text : Octets) →
    List (List ScriptWord × List Command) → Shell Unit
  | 0, _, _, _ => leave 2
  | _ + 1, _, _, [] => return
  | bound + 1, tested, text, (patterns, body) :: cases => do
    if ← anyFits bound text patterns then runCommands bound tested body
    else if ← isRunning then runCases bound tested text cases

/-- Whether one of some patterns fits a text. -/
def anyFits : (bound : Nat) → (text : Octets) → List ScriptWord → Shell Bool
  | 0, _, _ => return false
  | _ + 1, _, [] => return false
  | bound + 1, text, pattern :: patterns => do
    let marked ← expandMarked (substitution bound) bound pattern
    if !(← isRunning) then return false
    else if Wildcard.fits (Wildcard.ofMarked marked) text then return true
    else anyFits bound text patterns

/-- Run a simple command. -/
def runSimple : (bound : Nat) → (tested : Bool) → (line : Nat) → List (String × ScriptWord) →
    List ScriptWord → List Redirection → Shell Unit
  | 0, _, _, _, _, _ => leave 2
  | bound + 1, tested, line, assignments, words, redirections => do
    modify fun session => { session with line, substituted := none }
    let words ← expandWords (substitution bound) bound words
    if ← isRunning then
      match words with
      | [] =>
        withChannels do
          if ← redirect (substitution bound) bound redirections then
            assignAll (substitution bound) bound false assignments
            if ← isRunning then finish (((← get).substituted).getD 0)
      | name :: arguments =>
        if (← get).hasOption 'x' then writeLine 2 ('+' :: ' ' :: Octets.joined [' '] words)
        let text := String.ofList name
        let special := Builtin.special.contains text
        if text == "exec" && arguments.isEmpty then
          if ← redirect (substitution bound) bound redirections then finish 0 else leave 2
        else
          withChannels do
            if ← redirect (substitution bound) bound redirections then
              let bindings := (← get).bindings
              let saved := assignments.map fun assignment =>
                (assignment.1, bindings.lookup assignment.1)
              assignAll (substitution bound) bound (!special) assignments
              if ← isRunning then
                runWords bound tested true name arguments
                unless special do restore saved
            else if special then leave 2

/-- Run a command with its arguments. Functions count only if they are wanted. -/
def runWords : (bound : Nat) → (tested functions : Bool) → (name : Octets) → List Octets →
    Shell Unit
  | 0, _, _, _, _ => leave 2
  | bound + 1, tested, functions, name, arguments => do
    let session ← get
    let text := String.ofList name
    let asBuiltin (action : Shell Unit) : Shell Unit := do
      modify fun session => { session with utility := some name, status := 0 }
      action
      modify fun after => { after with utility := session.utility }
    let body? := if functions then session.functions.lookup text else none
    match body? with
    | some body =>
      if Builtin.special.contains text then runBuiltin bound tested text session.status arguments
      else
        modify fun session =>
          { session with
            arguments, frames := [] :: session.frames, loops := 0, called := true }
        runCommand bound tested body
        restore ((← get).frames.headD [])
        modify fun after =>
          { after with
            arguments := session.arguments
            frames := session.frames
            loops := session.loops
            called := session.called
            flow := if after.flow == .returning then .running else after.flow }
    | none =>
      match Builtin.find? text session.status with
      | some action => asBuiltin (action arguments)
      | none =>
        if ["eval", ".", "command", "exec", "type"].contains text then
          runBuiltin bound tested text session.status arguments
        else runExternal bound name arguments

/-- Run a built-in command that runs commands itself. -/
def runBuiltin : (bound : Nat) → (tested : Bool) → (name : String) → (before : Nat) →
    List Octets → Shell Unit
  | 0, _, _, _, _ => leave 2
  | bound + 1, tested, name, before, arguments => do
    let outer := (← get).utility
    let within (utility : Octets) (action : Shell Unit) : Shell Unit := do
      modify fun session => { session with utility := some utility, status := 0 }
      action
      modify fun session => { session with utility := outer }
    match name with
    | "eval" => within name.toList (runText bound (Octets.joined [' '] arguments))
    | "." =>
      match arguments with
      | [] => finish 0
      | path :: _ =>
        let session ← get
        match session.files.find? (Octets.text path), path.contains '/' with
        | some (.file content _), true =>
          within path do
            modify fun session => { session with called := true }
            runText bound (.ofBytes content)
            modify fun after =>
              { after with
                called := session.called
                flow := if after.flow == .returning then .running else after.flow }
        | _, true =>
          within ['.'] (fail ("cannot open ".toList ++ path ++ ": No such file".toList))
        | _, false => within ['.'] (fail (path ++ ": not found".toList))
    | "type" => within name.toList (describe arguments)
    | "command" =>
      match arguments with
      | ['-', 'v'] :: names =>
        finish 0
        for name in names.take 1 do
          match ← descriptionOf name with
          | some (place, _) => writeLine 1 place
          | none => finish 127
      | ['-', 'V'] :: names =>
        finish 0
        describe (names.take 1)
      | ['-', 'p'] :: name :: others => runWords bound tested false name others
      | name :: others => runWords bound tested false name others
      | [] => finish 0
    | "exec" =>
      match arguments with
      | [] => finish 0
      | command :: others =>
        within name.toList do
          runExternal bound command others
          if ← isRunning then leave (← get).status
    | _ =>
      match Builtin.find? name before with
      | some action => within name.toList (action arguments)
      | none => runExternal bound name.toList arguments

/-- Run a program. -/
def runExternal : (bound : Nat) → (name : Octets) → List Octets → Shell Unit
  | 0, _, _ => leave 2
  | bound + 1, name, arguments => do
    let session ← get
    match resolveProgram session.files name arguments with
    | .ok launch =>
      apart do
        runProgram bound launch
        survive
    | .error .execFormat =>
      match session.files.find? (Octets.text name) with
      | some (.file content _) =>
        apart do
          enterScript session.dialect name arguments
          runScript bound (.ofBytes content)
          survive
      | _ => finish 126
    | .error cause =>
      let missing := cause matches .noEntry || cause matches .notDirectory
      let text :=
        if missing then
          if session.dialect = .bash && !name.contains '/' then "command not found"
          else if session.dialect = .bash then "No such file or directory"
          else "not found"
        else if cause matches .nameTooLong then "File name too long"
        else "Permission denied"
      complain (name ++ ':' :: ' ' :: text.toList)
      finish (if missing || cause matches .nameTooLong then 127 else 126)

/-- Run a tool or an interpreter. -/
def runProgram : (bound : Nat) → Launch → Shell Unit
  | 0, _ => leave 2
  | bound + 1, launch => do
    modify fun session => { session with name := launch.name, status := 0 }
    match Tool.find? launch.program with
    | some tool => tool launch.arguments
    | none =>
      if launch.program == "env" then
        let isAssignment (argument : Octets) : Bool := argument.contains '='
        let arguments ← environmentOptions launch.arguments
        let assignments := arguments.takeWhile isAssignment
        for assignment in assignments do
          let (variableName, value) := Builtin.definition assignment
          putVariable (.ofList variableName) { value, exported := true }
        match arguments.drop assignments.length with
        | [] =>
          for (variableName, content) in (← get).bindings do
            if content.exported then
              writeLine 1 (variableName.toList ++ '=' :: content.value.getD [])
        | ('-' :: '-' :: option) :: _ =>
          Tool.refuse 125 ("unrecognized option '--" ++ String.ofList option ++ "'")
        | command :: others =>
          match resolveProgram (← get).files command others with
          | .ok launch => runProgram bound launch
          | .error cause =>
            let missing := cause matches .noEntry
            Tool.complain ('\'' :: command ++ "': ".toList
              ++ (if missing then "No such file or directory" else "Permission denied").toList)
            finish (if missing then 127 else 126)
      else runInterpreter bound launch

/-- Run an interpreter of scripts. -/
def runInterpreter : (bound : Nat) → Launch → Shell Unit
  | 0, _ => leave 2
  | bound + 1, launch => do
    let invocation := invocationOf none launch.arguments
    let dialect := if launch.program == "bash" then Dialect.bash else .dash
    enterScript dialect launch.name []
    modify fun session => { session with line := 0 }
    for (value, letter) in invocation.letters do
      if ← isRunning then
        if letter == '-' then fail "Illegal option --".toList
        else Builtin.setOption value letter
    if ← isRunning then
      let operands := invocation.operands
      match invocation.inline, (if (← get).hasOption 's' then [] else operands) with
      | true, [] => fail "-c requires an argument".toList
      | true, script :: others =>
        modify fun session =>
          { session with name := others.headD session.name, arguments := others.tail, line := 1 }
        runScript bound script
      | false, [] =>
        modify fun session => { session with arguments := operands, line := 1 }
        runScript bound (← readAll 0)
      | false, path :: others =>
        match (← get).files.find? (Octets.text path) with
        | some (.file content _) =>
          modify fun session => { session with name := path, arguments := others, line := 1 }
          runScript bound (.ofBytes content)
        | some .directory => finish 0
        | none => fail ("cannot open ".toList ++ path ++ ": No such file".toList)

/-- Run a script to its end. -/
def runScript : (bound : Nat) → (script : Octets) → Shell Unit
  | 0, _ => leave 2
  | bound + 1, script => do
    runText bound script
    closeScript bound

/-- Run commands that are given as a text. -/
def runText : (bound : Nat) → (text : Octets) → Shell Unit
  | 0, _ => leave 2
  | bound + 1, text => runLines bound { rest := text }

/-- Run the commands that are left of a text, line by line. -/
def runLines : (bound : Nat) → Scanner → Shell Unit
  | 0, _ => leave 2
  | bound + 1, scanner => do
    match scriptLine.run { scanner with count := (← get).count } with
    | .error fault =>
      modify fun session => { session with line := fault.line }
      fail fault.message.toList
    | .ok (none, _) => return
    | .ok (some commands, scanner) =>
      modify fun session =>
        { session with
          texts := scanner.texts ++ session.texts, count := scanner.count, reached := scanner.line }
      unless (← get).hasOption 'n' do runCommands bound false commands
      if ← isRunning then runLines bound { scanner with texts := [] }

/-- Do what is to be done at the end of a script. -/
def closeScript : (bound : Nat) → Shell Unit
  | 0 => return
  | bound + 1 => do
    let session ← get
    match session.flow, session.traps.lookup 0 with
    | .killed _, _ => return
    | _, none => return
    | _, some action =>
      set { session with
        flow := .running, traps := session.traps.filter fun trap => trap.1 != 0 }
      runText bound action
      if ← isRunning then finish session.status

/-- Do what is to be done on the signals that have arrived. -/
def answerSignals : (bound : Nat) → Shell Unit
  | 0 => return
  | bound + 1 => do
    let session ← get
    match session.signals with
    | [] => return
    | signal :: others =>
      set { session with signals := others }
      let action := if signal = 9 then none else session.traps.lookup signal
      match action with
      | some [] => answerSignals bound
      | some action =>
        runText bound action
        if ← isRunning then
          finish session.status
          answerSignals bound
      | none =>
        if isHarmless signal then answerSignals bound
        else modify fun session => { session with flow := .killed signal }

end

end Shell

/-- Run a program. What it has written is given with the files that it leaves. -/
def run (files : Files) (program : String) (arguments : List String) :
    Except OsError Result × Files :=
  if (program :: arguments).any fun text => text.toList.contains '\x00' then
    (.error .nulInArgument, files)
  else
    match resolveProgram files (.ofText program) (arguments.map Octets.ofText) with
    | .error cause => (.error cause, files)
    | .ok launch =>
      let start : Session := { name := launch.name, files }
      let (_, session) := (Shell.runProgram depthLimit launch).run start
      let written (number : Nat) : List UInt8 :=
        Octets.bytes ((session.outputs.lookup number).getD []).reverse.flatten
      let status :=
        match session.flow with
        | .killed signal => ExitStatus.signalled signal
        | _ => .exited (session.status % 256)
      (.ok ⟨written 1, written 2, status⟩,
        { session.files with workingDirectory := files.workingDirectory })

end SchemaBindings.Program
