import SchemaBindings.Proofs.Edits
import SchemaBindings.Proofs.Printing

/-!
# What commands make of files

A command is a tool or one that is built into the shell. Whatever it is told to do, what it
makes of the files comes to edits, so that no command puts a file where there is no directory,
or below another file. This is shown for each of them along its text. The tools that only
print are confined to more than this, and nothing is shown for them again.

Files can be reached in two ways. A tool may name one, or a stream may lead to one. In the
second case the file is written only if it is still there when it is written to, and then it
is replaced by a longer one.
-/
namespace SchemaBindings

open Files (Edit Edited)

namespace Program

/-- The files of a session are what edits can have made of those of another one. Nothing is said of
its variables, its streams and all else. -/
def Edits (before after : Session) : Prop := Edited before.files after.files

/-- Edits that follow edits are edits. -/
instance edits_composes : Composes Edits := invImage_composes Edited Session.files

/-- Files that are left alone are edited by no edits at all. -/
theorem Edits.of_same {before after : Session} (same : after.files = before.files) :
    Edits before after := by
  rw [Edits, same]

/-- A stream that leads to a file adds to this file, which is an edit of it. -/
instance edits_frames : Frames Edits where
  same files _ := .of_same files
  write stream octets session := by
    rw [Shell.write, Shell.get_ran]
    split
    case h_1 channel _ =>
      cases channel with
      | file location =>
        have written : ((Shell.writeTo (.file location) octets).run session).2 =
            match session.files.entry? location with
            | some (.file content executable) =>
              { session with
                files := session.files.put location (.file (content ++ octets.bytes) executable) }
            | _ => session := rfl
        rw [written]
        split
        case h_1 content executable standing => exact .single (.replaced _ _ ⟨_, _, standing⟩)
        case h_2 => exact .of_same rfl
      | output number => exact .of_same rfl
      | input number => exact .of_same rfl
      | nowhere => exact .of_same rfl
    case h_2 => exact .of_same rfl

section Steps

variable {α β : Type}

/-- A change of a session that does not touch its files. -/
theorem confined_of_modify {change : Session → Session}
    (same : ∀ session, (change session).files = session.files) :
    Confined Edits (modify change : Shell Unit) :=
  ⟨fun session => .of_same (same session)⟩

/-- A command may put other files into its session at once. It is confined if these come to edits and
what follows is confined. -/
theorem Edits.of_set {session after : Session} {later : PUnit → Shell β}
    (edited : Edited session.files after.files) (went : Confined Edits (later .unit)) :
    Edits session ((set after >>= later).run session).2 :=
  Composes.next edited (went.confined after)

/-- What is done between two changes of a session that do not touch its files. -/
theorem confined_between {before after : Session → Session} {action : Shell α}
    (entered : ∀ session, (before session).files = session.files) (acted : Confined Edits action)
    (left : ∀ session, (after session).files = session.files) :
    Confined Edits (modify before >>= fun _ => action >>= fun _ => modify after : Shell Unit) :=
  .bind (confined_of_modify entered) fun _ => .bind acted fun _ => confined_of_modify left

namespace Shell

/-- Whether a script goes on is only looked at. -/
instance isRunning_confined : Confined Edits isRunning := by
  rw [isRunning]
  infer_instance

/-- A complaint is written like everything else, and its stream may well lead to a file. -/
instance complain_confined (message : Octets) : Confined Edits (complain message) := by
  rw [complain]
  infer_instance

/-- A fault that ends a script is complained of first. -/
instance fail_confined (message : Octets) : Confined Edits (fail message) := by
  rw [fail]
  infer_instance

/-- A line is taken from an input, and a stream that leads elsewhere has none. -/
instance readLine_confined (stream : Nat) : Confined Edits (readLine stream) := by
  refine ⟨fun session => ?_⟩
  rw [readLine, get_ran]
  split <;> exact .of_same rfl

/-- An input is made within the session. -/
instance newInput_confined (octets : Octets) : Confined Edits (newInput octets) :=
  ⟨fun _ => .of_same rfl⟩

/-- And so is an output. -/
instance newOutput_confined : Confined Edits newOutput := ⟨fun _ => .of_same rfl⟩

/-- What has been written to an output of the session is no file. -/
instance takeOutput_confined (number : Nat) : Confined Edits (takeOutput number) :=
  ⟨fun _ => .of_same rfl⟩

/-- A stream may lead to a file from now on, but nothing is written by this. -/
instance connect_confined (stream : Nat) (channel : Channel) :
    Confined Edits (connect stream channel) :=
  ⟨fun _ => .of_same rfl⟩

/-- What is done with streams of its own is done to the same files. -/
theorem withChannels_confined_of {action : Shell Unit} (acted : Confined Edits action) :
    Confined Edits (withChannels action) := by
  rw [withChannels]
  refine .get fun session => .bind acted fun _ => ?_
  exact confined_of_modify fun _ => rfl

/-- What is done apart from a session is done to its files, but the session stays where it is. The
last edit takes it back there. -/
theorem apart_confined_of {action : Shell Unit} (acted : Confined Edits action) :
    Confined Edits (apart action) :=
  ⟨fun before => (acted.confined before).tail (.moved before.files.workingDirectory)⟩

/-- The rule for steps with streams of their own, where the step is confined by itself. -/
instance withChannels_confined (action : Shell Unit) [acted : Confined Edits action] :
    Confined Edits (withChannels action) :=
  withChannels_confined_of acted

/-- The rule for steps apart from a session, in the same way. -/
instance apart_confined (action : Shell Unit) [acted : Confined Edits action] :
    Confined Edits (apart action) :=
  apart_confined_of acted

/-- A variable is kept in the session. -/
instance putVariable_confined (name : String) (content : Variable) :
    Confined Edits (putVariable name content) :=
  ⟨fun _ => .of_same rfl⟩

/-- A variable that can only be read is complained of, and another one is put in its place. -/
instance assign_confined (name : String) (value : Octets) : Confined Edits (assign name value) := by
  rw [assign]
  dsimp only
  infer_instance

/-- A variable is forgotten unless it can only be read. -/
instance unset_confined (name : String) : Confined Edits (unset name) := by
  have removed : Confined Edits (modify fun session =>
      { session with bindings := session.bindings.filter fun present => present.1 != name } :
        Shell Unit) := confined_of_modify fun _ => rfl
  rw [unset]
  infer_instance

end Shell

namespace Tool

/-- What is written to a path is written where a file stands or can stand, or it is refused. -/
instance store_confined (path : Octets) (append : Bool) (content : Octets) :
    Confined Edits (store path append content) := by
  refine ⟨fun session => ?_⟩
  rw [store, Shell.get_ran]
  dsimp only
  split
  case h_1 files written => exact .single (Files.writeFile_edit written)
  case h_2 cause _ =>
    have complained : Confined Edits (do
      complain (path ++ ':' :: ' ' :: (reason cause).toList)
      Shell.finish 1 : Shell Unit) := inferInstance
    exact complained.confined session

/-- The input is written to the output and to every file that is named. -/
instance tee_confined (arguments : List Octets) : Confined Edits (tee arguments) := by
  refine withArguments_confined_of fun arguments => ?_
  infer_instance

/-- A file that is there is left as it is, and any other one is made without a content. -/
instance touch_confined (arguments : List Octets) : Confined Edits (touch arguments) := by
  refine withArguments_confined_of fun arguments => ?_
  dsimp only
  infer_instance

/-- A directory is made by itself, or with all that are missing above it. -/
instance mkdir_confined (arguments : List Octets) : Confined Edits (mkdir arguments) := by
  refine withArguments_confined_of fun arguments => ?_
  dsimp only
  refine .optional inferInstance (.bind (.forIn fun path _ => ⟨fun session => ?_⟩) inferInstance)
  rw [Shell.get_ran]
  have made {outcome : Except OsError Unit} {files : Files}
      (ended : (if arguments.has 'p' = true then
          (Files.makeDirectories (Path.ancestors (Octets.text path))).run.run session.files
        else
          match session.files.makeDirectory (Octets.text path) with
          | .ok files => (.ok (), files)
          | .error cause => (.error cause, session.files)) = (outcome, files)) :
      Edited session.files files := by
    split at ended
    case isTrue => exact Files.makeDirectories_edited ended
    case isFalse =>
      split at ended
      case h_1 made =>
        obtain ⟨-, rfl⟩ := Prod.mk.inj ended
        exact .single (Files.makeDirectory_edit made)
      case h_2 =>
        obtain ⟨-, rfl⟩ := Prod.mk.inj ended
        exact .refl
  split
  case h_1 outcome files ended =>
    refine Edits.of_set (made ended) ?_
    split <;> infer_instance

/-- Whatever a path leads to is removed with all that is below it, so that nothing is left without a
directory. -/
instance rm_confined (arguments : List Octets) : Confined Edits (rm arguments) := by
  refine withArguments_confined_of fun arguments => ?_
  dsimp only
  refine .optional inferInstance (.bind (.forIn fun path _ => ⟨fun session => ?_⟩) inferInstance)
  rw [Shell.get_ran]
  split
  case h_1 => exact Confined.confined session
  case h_2 location _ =>
    split
    case isTrue => exact Confined.confined session
    case isFalse => exact Edits.of_set (.single (.cleared location)) inferInstance

/-- A file that is moved is removed where it was, if it is still there to be found. It is, as the
copy has been made of it and no directory has been touched. -/
theorem moved_edited {files copied : Files} {source : String} (edited : Edited files copied)
    (directory : copied.workingDirectory = files.workingDirectory)
    (standing : copied.HoldsFile (files.placeOf source)) (move : Bool) :
    Edited files
      (match copied.locate source with
      | .ok location => if move then copied.remove location else copied
      | .error _ => copied) := by
  split
  case h_1 location located =>
    split
    case isTrue =>
      obtain rfl := Files.locate_ok located
      rw [Files.placeOf_congr directory]
      exact edited.tail (.removed standing)
    case isFalse => exact edited
  case h_2 => exact edited

/-- Copies and moves are edits. The copy is written as any file is, and then once more with the mark
of a program that its source has or has not. A source that is moved is removed at last. -/
instance transfer_confined (move : Bool) (arguments : List Octets) :
    Confined Edits (transfer move arguments) := by
  refine withArguments_confined_of fun arguments => ?_
  dsimp only
  split
  · infer_instance
  · infer_instance
  case h_3 _ target sources _ _ =>
    refine .bind (.forIn fun source _ => ⟨fun session => ?_⟩) inferInstance
    rw [Shell.get_ran]
    split
    case h_1 content executable found =>
      split
      case h_1 files written =>
        have edit := Files.writeFile_edit written
        have directory := Files.workingDirectory_of_writeFile written
        have standing : files.HoldsFile (session.files.placeOf (Octets.text source)) :=
          Files.holdsFile_of_writeFile written (.inr (Files.holdsFile_of_find? found))
        refine Edits.of_set ?_ inferInstance
        cases located : files.locate (Octets.text (destination session.files source target)) with
        | error cause => exact moved_edited (.single edit) directory standing move
        | ok location =>
          have place := (Files.locate_ok located).trans (Files.placeOf_congr directory _)
          have there := Files.holdsFile_of_writeFile written (.inl place)
          refine moved_edited ((Relation.ReflTransGen.single edit).tail (.replaced _ _ there))
            directory ?_ move
          exact Files.holdsFile_put there.ne_root _ _ (.inr standing)
      case h_2 => exact Confined.confined session
    case h_2 => exact Confined.confined session
    case h_3 => exact Confined.confined session

/-- An editor that finds no file complains and goes on with the next one. -/
instance refuseFile_confined (inPlace : Bool) (path : Octets) (cause : String) :
    Confined Edits (refuseFile inPlace path cause) := by
  rw [refuseFile]
  dsimp only
  infer_instance

/-- An editor of streams that is told to changes each file in its place. -/
instance editFiles_confined (arguments : ToolArguments) (commands : List EditCommand)
    (paths : List Octets) : Confined Edits (editFiles arguments commands paths) := by
  rw [editFiles]
  dsimp only
  refine .bind (.forIn fun path edited => ?_) fun _ => ?_
  · refine .either (.bind inferInstance fun found => ?_) inferInstance
    split <;> infer_instance
  · infer_instance

/-- A text of commands that cannot be read is refused before any file is looked at. -/
instance sed_confined (arguments : List Octets) : Confined Edits (sed arguments) := by
  unfold sed
  split
  · infer_instance
  · dsimp only
    refine .either inferInstance ?_
    split
    · infer_instance
    · split <;> infer_instance

/-- Whatever a tool does comes to edits of files, be it one that only prints or not. -/
theorem find?_confined {name : String} {tool : List Octets → Shell Unit}
    (found : find? name = some tool) (arguments : List Octets) :
    Confined Edits (tool arguments) := by
  by_cases listed : name ∈ writing
  · simp only [writing, List.mem_cons, List.not_mem_nil, or_false] at listed
    rcases listed with rfl | rfl | rfl | rfl | rfl | rfl | rfl
    all_goals
      obtain rfl := Option.some.inj found
      infer_instance
  · exact find?_printing found listed arguments

end Tool

namespace Builtin

/-- A built-in command that refuses its arguments complains under its own name. -/
instance refuse_confined (message : String) : Confined Edits (refuse message) := by
  rw [refuse]
  infer_instance

/-- Where this ends the script, it is a fault of the script. -/
instance refuseForGood_confined (message : String) : Confined Edits (refuseForGood message) :=
  Shell.fail_confined _

/-- What is printed ends with a line, unless the first argument says otherwise. -/
instance echo_confined (arguments : List Octets) : Confined Edits (echo arguments) := by
  rw [echo]
  dsimp only
  infer_instance

/-- The built-in command prints as the tool does. -/
instance printf_confined (arguments : List Octets) : Confined Edits (printf arguments) := by
  rw [printf]
  dsimp only
  split <;> infer_instance

/-- A condition may ask for files, and to ask is to look. -/
instance condition_confined (words : List Octets) : Confined Edits (condition words) := by
  rw [condition]
  refine .get fun session => ?_
  split <;> infer_instance

/-- The brackets around a condition are held against each other first. -/
instance bracketed_confined (words : List Octets) : Confined Edits (bracketed words) := by
  rw [bracketed]
  infer_instance

/-- A script goes only to a directory, though the edit by which it does so asks for none. -/
instance changeDirectory_confined (arguments : List Octets) :
    Confined Edits (changeDirectory arguments) := by
  refine ⟨fun session => ?_⟩
  rw [changeDirectory, Shell.get_ran]
  dsimp only
  split
  case h_1 location _ =>
    split
    case isTrue => exact Edits.of_set (.single (.moved location)) inferInstance
    case isFalse => exact Confined.confined session
  case h_2 => exact Confined.confined session

/-- The working directory is printed and not changed. -/
instance workingDirectory_confined (arguments : List Octets) :
    Confined Edits (workingDirectory arguments) := by
  rw [workingDirectory]
  infer_instance

/-- Variables are marked one by one, and may be given values on the way. -/
instance mark_confined (change : Variable → Variable) (arguments : List Octets) :
    Confined Edits (mark change arguments) := by
  rw [mark]
  refine .bind (.forIn fun argument _ => .bind inferInstance fun running => ?_) inferInstance
  dsimp only
  split
  · split
    · infer_instance
    · split <;> infer_instance
  · infer_instance

/-- What a function has declared is put aside in the session, to be restored when the call is over.
-/
instance declareLocal_confined (arguments : List Octets) :
    Confined Edits (declareLocal arguments) := by
  rw [declareLocal]
  refine .bind (.forIn fun argument _ => .get fun session => ?_) inferInstance
  dsimp only
  split
  · infer_instance
  · refine .get fun session => ?_
    refine .either ?_ (.bind (confined_of_modify fun _ => rfl) fun _ => ?_)
    · split <;> infer_instance
    · split <;> infer_instance

/-- Names are forgotten one by one, those of functions or those of variables. -/
instance unset_confined (arguments : List Octets) : Confined Edits (unset arguments) := by
  have removed (name : String) : Confined Edits (modify fun session =>
      { session with functions := session.functions.filter fun present => present.1 != name } :
        Shell Unit) := confined_of_modify fun _ => rfl
  rw [unset]
  dsimp only
  infer_instance

/-- An option is kept in the session, and one that is not known is a fault. -/
instance setOption_confined (value : Bool) (letter : Char) :
    Confined Edits (setOption value letter) := by
  rw [setOption]
  split
  · exact confined_of_modify fun _ => rfl
  · infer_instance

/-- The induction is on the words; one of them may be the name of an option that the word before
turns on or off. -/
instance setOptions_confined (named : Option Bool) (arguments : List Octets) :
    Confined Edits (setOptions named arguments) := by
  induction arguments generalizing named with
  | nil =>
    unfold setOptions
    infer_instance
  | cons argument others inductionHypothesis =>
    unfold setOptions
    cases named with
    | some value =>
      dsimp only
      split <;> infer_instance
    | none =>
      dsimp only
      split
      · infer_instance
      · infer_instance
      · infer_instance
      · infer_instance

/-- What is left when the options have been set are the new arguments. -/
instance setArguments_confined (arguments : List Octets) :
    Confined Edits (setArguments arguments) := by
  rw [setArguments]
  refine .bind inferInstance fun left => ?_
  split
  · exact confined_of_modify fun _ => rfl
  · infer_instance

/-- Arguments are dropped in front, if there are enough of them. -/
instance shift_confined (arguments : List Octets) : Confined Edits (shift arguments) := by
  refine ⟨fun session => ?_⟩
  rw [shift, Shell.get_ran]
  split
  · exact Confined.confined session
  · split
    · exact Confined.confined session
    · exact .of_same rfl

/-- The end of a script is a status and a flow, and takes nothing back. -/
instance exit_confined (before : Nat) (arguments : List Octets) :
    Confined Edits (exit before arguments) := by
  unfold exit
  split
  · infer_instance
  · split <;> infer_instance

/-- A call of a function is left with a status; outside of one there is nothing to be left. -/
instance leaveCall_confined (before : Nat) (arguments : List Octets) :
    Confined Edits (leaveCall before arguments) := by
  rw [leaveCall]
  refine .get fun session => ?_
  dsimp only
  split
  · exact confined_of_modify fun _ => rfl
  · split
    · exact confined_of_modify fun _ => rfl
    · infer_instance

/-- Loops are left, or their next round is begun, as many as there are at most. -/
instance leaveLoops_confined (flow : Nat → Flow) (arguments : List Octets) :
    Confined Edits (leaveLoops flow arguments) := by
  rw [leaveLoops]
  split
  · refine .get fun session => ?_
    dsimp only
    split
    · exact confined_of_modify fun _ => rfl
    · infer_instance
  · infer_instance

/-- The induction is on the number of lines that may be read, as a line can go on in the next one. -/
instance readMarked_confined (raw : Bool) (bound : Nat) :
    Confined Edits (readMarked raw bound) := by
  induction bound with
  | zero =>
    rw [readMarked]
    infer_instance
  | succ bound inductionHypothesis =>
    rw [readMarked]
    dsimp only
    infer_instance

/-- The induction is on the names, each of which takes a part of the line and the last one all the
rest. -/
instance assignParts_confined (separators : Octets) (names : List Octets) (text : List Marked) :
    Confined Edits (assignParts separators names text) := by
  fun_induction assignParts separators names text with
  | case1 => infer_instance
  | case2 => infer_instance
  | case3 => infer_instance

/-- A line is read and parted among variables, and the status tells whether there was one. -/
instance read_confined (arguments : List Octets) : Confined Edits (read arguments) := by
  unfold read
  dsimp only
  refine .either inferInstance ?_
  split <;> infer_instance

/-- A signal waits in the session until it is answered. -/
instance sendSignal_confined (signal : Nat) : Confined Edits (sendSignal signal) :=
  confined_of_modify fun _ => rfl

/-- A signal is noted for the script itself; there are no others that it could reach. -/
instance kill_confined (arguments : List Octets) : Confined Edits (kill arguments) := by
  have send (signal : Nat) (targets : List Octets) : Confined Edits (do
      if targets.isEmpty then
        refuse ("Usage: kill [-s sigspec | -signum | -sigspec] [pid | job]... or\n"
          ++ "kill -l [exitstatus]")
      else
        for target in targets do
          if target == processNumber then sendSignal signal
          else if (Octets.digits? target).isSome then
            Shell.complain "No such process\n".toList
            Shell.finish 1
          else refuse ("Illegal number: " ++ .ofList target) : Shell Unit) := by
    infer_instance
  unfold kill
  dsimp only at send ⊢
  split
  · split <;> infer_instance
  · infer_instance
  · split
    · infer_instance
    · split <;> infer_instance
  · infer_instance
  · split <;> infer_instance
  · infer_instance
  · infer_instance

/-- What is to be done on a signal is noted, and nothing of it is done now. -/
instance trap_confined (arguments : List Octets) : Confined Edits (trap arguments) := by
  rw [trap]
  dsimp only
  refine .bind (.forIn fun name _ => ?_) fun _ => inferInstance
  split
  · exact .bind (confined_of_modify fun _ => rfl) fun _ => inferInstance
  · infer_instance

/-- Commands in the background have ended when they were started, so that only their status is
looked up. -/
instance wait_confined (arguments : List Octets) : Confined Edits (wait arguments) := by
  rw [wait]
  refine .bind (.forIn fun argument _ => ?_) inferInstance
  split <;> infer_instance

/-- Whatever a built-in command does comes to edits of files. -/
theorem find?_confined {name : String} {before : Nat} {action : List Octets → Shell Unit}
    (found : find? name before = some action) (arguments : List Octets) :
    Confined Edits (action arguments) := by
  unfold find? at found
  split at found
  case h_26 =>
    split at found
    · obtain rfl := Option.some.inj found
      infer_instance
    · contradiction
  all_goals
    obtain rfl := Option.some.inj found
    infer_instance

end Builtin
end Steps

end Program

end SchemaBindings
