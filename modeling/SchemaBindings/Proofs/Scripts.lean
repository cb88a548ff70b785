import SchemaBindings.Proofs.Commands

/-!
# What scripts make of files

A script comes to commands, but which ones these are is found out only while it runs: words
are expanded to the output of other commands, files are opened for streams, functions are
called, and a script runs others. The interpreter is nineteen functions that call each other,
each with a bound on the depth that they share.

So there is one induction, on the depth, and it is over all of them at once. For each function
it is shown that within one depth more it comes to edits of files if within the depth all of
them do. What a function is given, the text of a script above all, does not matter for this,
nor does it matter where the depth is used up.

From this it follows of every program, tool or script, that the files it leaves are made of
those it has found by edits, and that everything is in a directory afterwards if it was so
before. This is the one law about files that those who start a program can rely on without
knowing anything of it.
-/
namespace SchemaBindings

open Files (Edit Edited)

namespace Program

section Expansion

-- What commands print is asked of the interpreter, which comes later; here it is any step that comes
-- to edits.
variable (substitute : List Command → Shell Octets)
  [∀ commands, Confined Edits (substitute commands)] (bound : Nat)

/-- A value may be split into fields, which are gathered for the command and no files. -/
instance addValue_confined (splitting : Splitting) (quoted : Bool) (value : Octets)
    (fields : Fields) : Confined Edits (addValue splitting quoted value fields) := by
  rw [addValue]
  infer_instance

/-- The induction is on the arguments, each of which is a field of its own. -/
instance addArguments_confined (splitting : Splitting) (quoted : Bool) (arguments : List Octets)
    (fields : Fields) : Confined Edits (addArguments splitting quoted arguments fields) := by
  fun_induction addArguments splitting quoted arguments fields with
  | case1 => infer_instance
  | case2 => infer_instance
  | case3 => infer_instance

/-- A parameter that is not set may be a fault, and its value is added otherwise. -/
instance addParameter_confined (splitting : Splitting) (quoted : Bool) (parameter : Parameter)
    (fields : Fields) : Confined Edits (addParameter splitting quoted parameter fields) := by
  unfold addParameter
  refine .get fun session => ?_
  dsimp only
  refine .either inferInstance ?_
  split <;> infer_instance

/-- A parameter that has to be set ends the script where it is not. -/
instance refuseParameter_confined (parameter : Parameter) (message : Octets) :
    Confined Edits (refuseParameter parameter message) :=
  Shell.fail_confined _

/-- A parameter that must be set is looked up before its value is added. -/
instance addRequired_confined (splitting : Splitting) (quoted : Bool) (parameter : Parameter)
    (fields : Fields) : Confined Edits (addRequired splitting quoted parameter fields) := by
  unfold addRequired
  infer_instance

/-- The expansion of a word writes no file by itself. It assigns variables, complains of those that
are not set, and hands commands on. -/
instance expandPieces_confined (splitting : Splitting) (pieces : List Piece) (fields : Fields) :
    Confined Edits (expandPieces substitute bound splitting pieces fields) := by
  induction bound generalizing splitting pieces fields with
  | zero =>
    unfold expandPieces
    infer_instance
  | succ bound inductionHypothesis =>
    unfold expandPieces
    cases pieces with
    | nil => infer_instance
    | cons piece pieces =>
      cases piece with
      | text value quoted =>
        dsimp only
        infer_instance
      | parameter parameter quoted =>
        dsimp only
        infer_instance
      | length parameter quoted =>
        dsimp only
        infer_instance
      | fallback parameter kind whenEmpty word quoted =>
        dsimp only
        refine .get fun session => ?_
        split
        case h_5 =>
          refine .bind inferInstance fun marked => ?_
          split <;> infer_instance
        all_goals infer_instance
      | trimmed parameter trim pattern quoted =>
        dsimp only
        infer_instance
      | substitution commands quoted =>
        dsimp only
        infer_instance
      | arithmetic expression quoted =>
        dsimp only
        refine .bind inferInstance fun marked => .get fun session => .either inferInstance ?_
        split <;> infer_instance
      | malformed =>
        dsimp only
        infer_instance

/-- A word is expanded piece by piece to any number of fields. -/
instance expandWord_confined (word : ScriptWord) :
    Confined Edits (expandWord substitute bound word) := by
  rw [expandWord]
  infer_instance

/-- The induction is on the words, whose fields follow one another. -/
instance expandWords_confined (words : List ScriptWord) :
    Confined Edits (expandWords substitute bound words) := by
  induction words with
  | nil =>
    rw [expandWords]
    infer_instance
  | cons word words inductionHypothesis =>
    rw [expandWords]
    infer_instance

/-- A word may be expanded for its characters, each with a mark that tells whether it was quoted. -/
instance expandMarked_confined (word : ScriptWord) :
    Confined Edits (expandMarked substitute bound word) := by
  rw [expandMarked]
  infer_instance

/-- A word may be expanded for its text alone. -/
instance expandText_confined (word : ScriptWord) :
    Confined Edits (expandText substitute bound word) := by
  rw [expandText]
  infer_instance

end Expansion

/-! ## The interpreter -/

namespace Shell

section Helpers

variable (substitute : List Command → Shell Octets)
  [∀ commands, Confined Edits (substitute commands)] (bound : Nat)

/-- A file that is opened for a stream is written at once, as an empty one or as it is. One that is
opened to be read is left alone. -/
instance openChannel_confined (kind : RedirectionKind) (path : Octets) :
    Confined Edits (openChannel kind path) := by
  refine ⟨fun session => ?_⟩
  rw [openChannel, get_ran]
  dsimp only
  split
  · exact .of_same rfl
  · split
    · split
      · exact Confined.confined session
      · exact Confined.confined session
    · split
      · split
        · exact .of_same rfl
        · split
          · exact Confined.confined session
          · exact Confined.confined session
      · split
        case h_1 => exact .of_same rfl
        case h_2 files written =>
          refine Edits.of_set (.single (Files.writeFile_edit written)) (.either inferInstance ?_)
          split <;> infer_instance

/-- The induction is on the redirections. Where one is refused, the files that have been opened for
those before it stay as they have been written. -/
instance redirect_confined (redirections : List Redirection) :
    Confined Edits (redirect substitute bound redirections) := by
  induction redirections with
  | nil =>
    rw [redirect]
    infer_instance
  | cons redirection others inductionHypothesis =>
    obtain ⟨stream, kind, target⟩ := redirection
    unfold redirect
    dsimp only
    split
    · infer_instance
    · refine .bind inferInstance fun text => .either ?_ ?_
      · exact .bind (confined_of_modify fun _ => rfl) fun _ => inferInstance
      · split
        · exact .bind (confined_of_modify fun _ => rfl) fun _ => inferInstance
        · refine .get fun session => ?_
          split <;> infer_instance
    · refine .bind inferInstance fun path => .bind inferInstance fun running => ?_
      refine .either (.bind inferInstance fun opened => ?_) inferInstance
      split <;> infer_instance

/-- The induction is on the assignments, of which each sees those before it. -/
instance assignAll_confined (exported : Bool) (assignments : List (String × ScriptWord)) :
    Confined Edits (assignAll substitute bound exported assignments) := by
  induction assignments with
  | nil =>
    rw [assignAll]
    infer_instance
  | cons assignment others inductionHypothesis =>
    rw [assignAll]
    refine .bind inferInstance fun value => .bind inferInstance fun running => ?_
    refine .either (.bind inferInstance fun _ => ?_) inferInstance
    refine .optional (confined_of_modify fun session => ?_) inferInstance
    split <;> rfl

/-- The induction is on the variables that are put back. -/
instance restore_confined (saved : List (String × Option Variable)) :
    Confined Edits (restore saved) := by
  induction saved with
  | nil =>
    rw [restore]
    infer_instance
  | cons first others inductionHypothesis =>
    rw [restore]
    refine .bind (confined_of_modify fun session => ?_) fun _ => inferInstance
    split <;> rfl

/-- After a command that has failed the script may have to end, which is a change of its flow. -/
instance check_confined (tested : Bool) : Confined Edits (check tested) := by
  refine ⟨fun session => ?_⟩
  rw [check, get_ran]
  split <;> exact .of_same rfl

/-- What is run apart keeps of the traps those by which a signal is ignored. -/
instance enterSubshell_confined : Confined Edits enterSubshell := confined_of_modify fun _ => rfl

/-- A script begins with its own name and arguments and with the exported variables only. -/
instance enterScript_confined (dialect : Dialect) (name : Octets) (arguments : List Octets) :
    Confined Edits (enterScript dialect name arguments) :=
  confined_of_modify fun _ => rfl

/-- A round of a loop ends with the flow that the loop goes on from. -/
instance endRound_confined : Confined Edits endRound := by
  refine ⟨fun session => ?_⟩
  rw [endRound, get_ran]
  split <;> exact .of_same rfl

/-- A signal that ends what was run apart leaves only a status that tells of it. -/
instance survive_confined : Confined Edits survive := by
  refine confined_of_modify fun session => ?_
  split <;> rfl

/-- Options may be followed by the name of a variable, which is skipped, and by further options; so
two functions that call each other are shown to be confined together. -/
instance environmentOptions_confined (arguments : List Octets) :
    Confined Edits (environmentOptions arguments) := by
  have both : Confined Edits (environmentOptions arguments) ∧
      Confined Edits (environmentOptions.skipName arguments) := by
    induction arguments with
    | nil => exact ⟨pure_confined [], pure_confined []⟩
    | cons argument others inductionHypothesis =>
      obtain ⟨read, skipped⟩ := inductionHypothesis
      have cleared : Confined Edits (modify fun session => { session with bindings := [] } :
        Shell Unit) := confined_of_modify fun _ => rfl
      constructor
      · unfold environmentOptions
        dsimp only
        split <;> infer_instance
      · rw [environmentOptions.skipName]
        infer_instance
  exact both.1

/-- What a name stands for is looked up among functions, built-in commands and files. -/
instance descriptionOf_confined (name : Octets) : Confined Edits (descriptionOf name) := by
  rw [descriptionOf]
  refine .get fun session => ?_
  dsimp only
  refine .either inferInstance (.either inferInstance (.either inferInstance ?_))
  refine .either inferInstance (.either ?_ inferInstance)
  split <;> infer_instance

/-- Names are described one by one, and one that stands for nothing is complained of. -/
instance describe_confined (arguments : List Octets) : Confined Edits (describe arguments) := by
  rw [describe]
  refine .bind (.forIn fun name _ => .bind inferInstance fun description => ?_) inferInstance
  split <;> infer_instance

end Helpers

end Shell

namespace Shell

/-- Whatever the interpreter does within a depth comes to edits of files. There is one field for each
of its functions, so that the induction can take them all at once. -/
class Interprets (bound : Nat) : Prop where
  substitution : ∀ commands, Confined Edits (substitution bound commands)
  commands : ∀ tested commands, Confined Edits (runCommands bound tested commands)
  command : ∀ tested command, Confined Edits (runCommand bound tested command)
  stages : ∀ tested commands, Confined Edits (runStages bound tested commands)
  loop : ∀ tested untilHolds condition body status,
    Confined Edits (runLoop bound tested untilHolds condition body status)
  forEach : ∀ tested name body values, Confined Edits (runForEach bound tested name body values)
  cases : ∀ tested text cases, Confined Edits (runCases bound tested text cases)
  anyFits : ∀ text patterns, Confined Edits (anyFits bound text patterns)
  simple : ∀ tested line assignments words redirections,
    Confined Edits (runSimple bound tested line assignments words redirections)
  words : ∀ tested functions name arguments,
    Confined Edits (runWords bound tested functions name arguments)
  builtin : ∀ tested name before arguments,
    Confined Edits (runBuiltin bound tested name before arguments)
  external : ∀ name arguments, Confined Edits (runExternal bound name arguments)
  program : ∀ launch, Confined Edits (runProgram bound launch)
  interpreter : ∀ launch, Confined Edits (runInterpreter bound launch)
  script : ∀ script, Confined Edits (runScript bound script)
  text : ∀ text, Confined Edits (runText bound text)
  lines : ∀ scanner, Confined Edits (runLines bound scanner)
  close : Confined Edits (closeScript bound)
  answer : Confined Edits (answerSignals bound)

section Depth

variable (bound : Nat) [within : Interprets bound] (tested : Bool)

attribute [instance] Interprets.substitution Interprets.commands Interprets.command Interprets.stages
  Interprets.loop Interprets.forEach Interprets.cases Interprets.anyFits Interprets.simple
  Interprets.words Interprets.builtin Interprets.external Interprets.program Interprets.interpreter
  Interprets.script Interprets.text Interprets.lines Interprets.close Interprets.answer

/-- A substitution runs its commands apart, with an output of its own that is taken when they have
ended. -/
theorem substitution_deeper (commands : List Command) :
    Confined Edits (substitution (bound + 1) commands) := by
  rw [substitution]
  refine .get fun session => .bind inferInstance fun number => .bind inferInstance fun _ => ?_
  refine .bind inferInstance fun octets => .bind (confined_of_modify fun _ => rfl) fun _ => ?_
  infer_instance

/-- Commands are run while the script goes on. -/
theorem runCommands_deeper (commands : List Command) :
    Confined Edits (runCommands (bound + 1) tested commands) := by
  cases commands with
  | nil =>
    rw [runCommands]
    infer_instance
  | cons command commands =>
    rw [runCommands]
    infer_instance

/-- A command is of one of twelve kinds. Most of them come to other commands, with changes of the
session before and after that touch no files. -/
theorem runCommand_deeper (command : Command) :
    Confined Edits (runCommand (bound + 1) tested command) := by
  cases command with
  | simple line assignments words redirections =>
    unfold runCommand
    infer_instance
  | pipeline negated commands =>
    unfold runCommand
    dsimp only
    have ended : Confined Edits (if negated = true then
        modify fun session => { session with status := if session.status = 0 then 1 else 0 }
      else check tested : Shell Unit) := .either (confined_of_modify fun _ => rfl) inferInstance
    split
    · exact .bind inferInstance fun _ => ended
    · exact .bind inferInstance fun _ => ended
  | both first second =>
    unfold runCommand
    dsimp only
    infer_instance
  | either first second =>
    unfold runCommand
    dsimp only
    infer_instance
  | background command =>
    unfold runCommand
    refine .bind inferInstance fun _ => .bind inferInstance fun running => .either ?_ inferInstance
    exact confined_of_modify fun _ => rfl
  | group commands =>
    unfold runCommand
    infer_instance
  | subshell commands =>
    unfold runCommand
    infer_instance
  | branch condition body otherwise =>
    unfold runCommand
    infer_instance
  | loop untilHolds condition body =>
    unfold runCommand
    exact confined_between (fun _ => rfl) inferInstance fun _ => rfl
  | forEach name words body =>
    unfold runCommand
    dsimp only
    split
    · refine .bind inferInstance fun values => .bind inferInstance fun running => ?_
      refine .either (.bind inferInstance fun _ => ?_) inferInstance
      exact confined_between (fun _ => rfl) inferInstance fun _ => rfl
    · refine .get fun session => .bind inferInstance fun values => ?_
      refine .bind inferInstance fun running => ?_
      refine .either (.bind inferInstance fun _ => ?_) inferInstance
      exact confined_between (fun _ => rfl) inferInstance fun _ => rfl
  | choose word cases =>
    unfold runCommand
    infer_instance
  | define name body =>
    unfold runCommand
    exact .bind (confined_of_modify fun _ => rfl) fun _ => inferInstance
  | redirected command redirections =>
    unfold runCommand
    infer_instance

/-- Each stage of a pipeline is run apart, one after the other, and what it writes is what the next
one reads. -/
theorem runStages_deeper (commands : List Command) :
    Confined Edits (runStages (bound + 1) tested commands) := by
  cases commands with
  | nil =>
    rw [runStages]
    infer_instance
  | cons command commands =>
    rw [runStages]
    refine .either inferInstance (.bind inferInstance fun number => .bind inferInstance fun _ => ?_)
    infer_instance

/-- A round of a loop is the condition and the body; the depth ends loops that would go on. -/
theorem runLoop_deeper (untilHolds : Bool) (condition body : List Command) (status : Nat) :
    Confined Edits (runLoop (bound + 1) tested untilHolds condition body status) := by
  rw [runLoop]
  refine .bind inferInstance fun _ => .bind inferInstance fun goes => .either ?_ inferInstance
  refine .get fun session => .either inferInstance ?_
  infer_instance

/-- The body is run for one value after the other, as long as the loop goes on. -/
theorem runForEach_deeper (name : String) (body : List Command) (values : List Octets) :
    Confined Edits (runForEach (bound + 1) tested name body values) := by
  cases values with
  | nil =>
    rw [runForEach]
    infer_instance
  | cons value values =>
    rw [runForEach]
    infer_instance

/-- The patterns of a case are expanded one by one until one of them fits. -/
theorem runCases_deeper (text : Octets) (cases : List (List ScriptWord × List Command)) :
    Confined Edits (runCases (bound + 1) tested text cases) := by
  cases cases with
  | nil =>
    rw [runCases]
    infer_instance
  | cons first others =>
    rw [runCases]
    infer_instance

/-- A pattern is a word, so that its expansion may run commands before it is held against the text.
-/
theorem anyFits_deeper (text : Octets) (patterns : List ScriptWord) :
    Confined Edits (anyFits (bound + 1) text patterns) := by
  cases patterns with
  | nil =>
    rw [anyFits]
    infer_instance
  | cons pattern patterns =>
    rw [anyFits]
    infer_instance

/-- A simple command expands its words, opens the files of its redirections, assigns its variables
and runs what the words name. Without words, the assignments stay. -/
theorem runSimple_deeper (line : Nat) (assignments : List (String × ScriptWord))
    (words : List ScriptWord) (redirections : List Redirection) :
    Confined Edits (runSimple (bound + 1) tested line assignments words redirections) := by
  rw [runSimple]
  refine .bind (confined_of_modify fun _ => rfl) fun _ => .bind inferInstance fun words => ?_
  refine .bind inferInstance fun running => .either ?_ inferInstance
  split
  · infer_instance
  · dsimp only
    refine .get fun session => .optional inferInstance (.either inferInstance ?_)
    refine withChannels_confined_of (.bind inferInstance fun opened => .either ?_ inferInstance)
    refine .get fun session => .bind inferInstance fun _ => ?_
    infer_instance

/-- What words name is a function of the script, a special built-in command or any other command. -/
theorem runWords_deeper (functions : Bool) (name : Octets) (arguments : List Octets) :
    Confined Edits (runWords (bound + 1) tested functions name arguments) := by
  rw [runWords]
  refine .get fun session => ?_
  dsimp only
  split
  case h_1 body _ =>
    refine .either inferInstance (.bind (confined_of_modify fun _ => rfl) fun _ => ?_)
    refine .bind inferInstance fun _ => .get fun called => .bind inferInstance fun _ => ?_
    exact confined_of_modify fun _ => rfl
  case h_2 =>
    split
    case h_1 action found =>
      exact confined_between (fun _ => rfl) (Builtin.find?_confined found arguments) fun _ => rfl
    case h_2 => infer_instance

/-- Some built-in commands run others, as words or as the text of a script. All the rest are confined
by themselves. -/
theorem runBuiltin_deeper (name : String) (before : Nat) (arguments : List Octets) :
    Confined Edits (runBuiltin (bound + 1) tested name before arguments) := by
  unfold runBuiltin
  refine .get fun session => ?_
  dsimp only
  split
  · exact confined_between (fun _ => rfl) inferInstance fun _ => rfl
  · split
    · infer_instance
    · refine .get fun session => ?_
      split
      · refine confined_between (fun _ => rfl) ?_ fun _ => rfl
        exact confined_between (fun _ => rfl) inferInstance fun _ => rfl
      · exact confined_between (fun _ => rfl) inferInstance fun _ => rfl
      · exact confined_between (fun _ => rfl) inferInstance fun _ => rfl
  · exact confined_between (fun _ => rfl) inferInstance fun _ => rfl
  · split
    · refine .bind inferInstance fun _ => .bind (.forIn fun name _ => ?_) inferInstance
      refine .bind inferInstance fun description => ?_
      split <;> infer_instance
    · infer_instance
    · infer_instance
    · infer_instance
    · infer_instance
  · split
    · infer_instance
    · exact confined_between (fun _ => rfl) inferInstance fun _ => rfl
  · split
    case h_1 action found =>
      exact confined_between (fun _ => rfl) (Builtin.find?_confined found arguments) fun _ => rfl
    case h_2 => infer_instance

/-- A program that a script starts is run apart from it, and one that is not there only makes it
complain. -/
theorem runExternal_deeper (name : Octets) (arguments : List Octets) :
    Confined Edits (runExternal (bound + 1) name arguments) := by
  rw [runExternal]
  refine .get fun session => ?_
  split
  · infer_instance
  · split <;> infer_instance
  · dsimp only
    infer_instance

/-- A program is a tool, or else it runs other programs: a shell, or one that sets their variables. -/
theorem runProgram_deeper (launch : Launch) : Confined Edits (runProgram (bound + 1) launch) := by
  rw [runProgram]
  refine .bind (confined_of_modify fun _ => rfl) fun _ => ?_
  split
  case h_1 tool found => exact Tool.find?_confined found launch.arguments
  case h_2 =>
    dsimp only
    refine .either (.bind inferInstance fun arguments => ?_) inferInstance
    refine .bind inferInstance fun _ => ?_
    split
    · refine .get fun session => .bind (.forIn fun binding _ => ?_) inferInstance
      split <;> infer_instance
    · infer_instance
    · refine .get fun session => ?_
      split <;> infer_instance

/-- A shell gets its script from its arguments, from a file or from its input, and only reads it. -/
theorem runInterpreter_deeper (launch : Launch) :
    Confined Edits (runInterpreter (bound + 1) launch) := by
  rw [runInterpreter]
  dsimp only
  refine .bind inferInstance fun _ => .bind (confined_of_modify fun _ => rfl) fun _ => ?_
  refine .bind inferInstance fun _ => .bind inferInstance fun running => ?_
  refine .either (.get fun session => ?_) inferInstance
  split
  · infer_instance
  · exact .bind (confined_of_modify fun _ => rfl) fun _ => inferInstance
  · exact .bind (confined_of_modify fun _ => rfl) fun _ => inferInstance
  · refine .get fun session => ?_
    split
    · exact .bind (confined_of_modify fun _ => rfl) fun _ => inferInstance
    · infer_instance
    · infer_instance

/-- Lines are run as soon as they are a whole command, so a fault in later ones comes too late to
take anything back. -/
theorem runLines_deeper (scanner : Scanner) : Confined Edits (runLines (bound + 1) scanner) := by
  rw [runLines]
  refine .get fun session => ?_
  split
  · exact .bind (confined_of_modify fun _ => rfl) fun _ => inferInstance
  · infer_instance
  · refine .bind (confined_of_modify fun _ => rfl) fun _ => .get fun session => ?_
    dsimp only
    infer_instance

/-- At its end a script does what it has been told to do then, if that has not been taken back. -/
theorem closeScript_deeper : Confined Edits (closeScript (bound + 1)) := by
  rw [closeScript]
  refine ⟨fun session => ?_⟩
  rw [get_ran]
  split
  · exact .of_same rfl
  · exact .of_same rfl
  · exact Edits.of_set .refl inferInstance

/-- Signals are answered one by one; the answer to one may send others. -/
theorem answerSignals_deeper : Confined Edits (answerSignals (bound + 1)) := by
  rw [answerSignals]
  refine ⟨fun session => ?_⟩
  rw [get_ran]
  split
  case h_1 => exact .of_same rfl
  case h_2 signal others _ =>
    refine Edits.of_set .refl ?_
    dsimp only
    split
    · infer_instance
    · infer_instance
    · refine .either inferInstance ?_
      exact confined_of_modify fun _ => rfl

/-- A script is its lines and then what is to be done at its end. -/
theorem runScript_deeper (script : Octets) : Confined Edits (runScript (bound + 1) script) := by
  rw [runScript]
  infer_instance

/-- A text that is run within a script is its lines and nothing more. -/
theorem runText_deeper (text : Octets) : Confined Edits (runText (bound + 1) text) := by
  rw [runText]
  infer_instance

end Depth

/-- Whatever the depth is, the interpreter comes to edits of files. Without any depth left, a script
is ended, which is no edit. -/
instance interprets (bound : Nat) : Interprets bound := by
  induction bound with
  | zero =>
    constructor
    case substitution =>
      intro commands
      rw [substitution]
      infer_instance
    case anyFits =>
      intro text patterns
      rw [anyFits]
      infer_instance
    case close =>
      rw [closeScript]
      infer_instance
    case answer =>
      rw [answerSignals]
      infer_instance
    all_goals
      intros
      exact leave_confined 2
  | succ bound inductionHypothesis =>
    exact {
      substitution := substitution_deeper bound
      commands := runCommands_deeper bound
      command := runCommand_deeper bound
      stages := runStages_deeper bound
      loop := runLoop_deeper bound
      forEach := runForEach_deeper bound
      cases := runCases_deeper bound
      anyFits := anyFits_deeper bound
      simple := runSimple_deeper bound
      words := runWords_deeper bound
      builtin := runBuiltin_deeper bound
      external := runExternal_deeper bound
      program := runProgram_deeper bound
      interpreter := runInterpreter_deeper bound
      script := runScript_deeper bound
      text := runText_deeper bound
      lines := runLines_deeper bound
      close := closeScript_deeper bound
      answer := answerSignals_deeper bound }

end Shell

/-- The files of a session that has ended come from those that it began with by edits. -/
theorem ended_edited (files : Files) (launch : Launch) : Edited files (ended files launch).files :=
  ((Shell.interprets depthLimit).program launch).confined { name := launch.name, files }

/-- Whatever a program is and however it is started, it comes to edits of files. That the working
directory is taken back at its end is one of them. -/
theorem run_edited (files : Files) (program : String) (texts : List String) :
    Edited files (run files program texts).2 := by
  have ends := run_ends files program texts
  generalize run files program texts = ending at *
  cases ends with
  | unspeakable nul => exact .refl
  | missing speakable unresolved => exact .refl
  | ended speakable resolved => exact (ended_edited files _).tail (.moved files.workingDirectory)

/-- If everything has stood in a directory, it does so after any run of any program. -/
theorem run_tidy {files : Files} (tidy : files.Tidy) (program : String) (texts : List String) :
    (run files program texts).2.Tidy :=
  (run_edited files program texts).tidy tidy

end Program

end SchemaBindings
