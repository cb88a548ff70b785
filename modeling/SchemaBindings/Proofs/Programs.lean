import SchemaBindings.Program.Shell
import SchemaBindings.Proofs.Bytes

/-!
# How programs are started and end

A program is known to those who start it by its end: an output, complaints and a status, or
the reason why it could not be started. Three things are said of this for all programs. They
are the only ends; a program that has not been started has left the files alone; and the
working directory is the same afterwards, since a program has one of its own.

What a program does in between is its own affair, except for one. The plainest way to give
the schema by a command is to print a file, and for this it is shown that the output is the
content of the file, byte for byte, and that nothing else happens. Where there is no such
file, the output is empty and the status tells of it.
-/
namespace SchemaBindings

namespace Program

variable {files : Files} {arguments : List Octets} {launch : Launch}

/-! ## What is started -/

/-- What a path leads to is started as a program that is known. A script is handed to the program
that its first line names, with its own path in front of the arguments, and this may be a script
again; the arguments that were given stay the last ones. -/
theorem resolvePath_ok {bound : Nat} {path : Octets}
    (resolved : resolvePath files bound path arguments = .ok launch) :
    isProgram launch.program = true ∧ arguments <:+ launch.arguments := by
  induction bound generalizing path arguments with
  | zero => contradiction
  | succ bound inductionHypothesis =>
    rw [resolvePath] at resolved
    split at resolved
    case h_1 name _ =>
      split at resolved
      case isTrue => contradiction
      case isFalse known =>
        split at resolved
        case isTrue => contradiction
        case isFalse =>
          obtain rfl := Except.ok.inj resolved
          exact ⟨by simpa using known, List.suffix_refl _⟩
    case h_2 =>
      split at resolved
      case isTrue => contradiction
      case isFalse =>
        cases located : files.locate (Octets.text path) with
        | error cause => simp [located, bind, Except.bind] at resolved
        | ok location =>
          simp only [located, bind, Except.bind] at resolved
          split at resolved
          case h_1 => contradiction
          case h_2 => contradiction
          case h_3 => contradiction
          case h_4 content _ =>
            split at resolved
            case h_1 => contradiction
            case h_2 interpreter argument _ =>
              obtain ⟨known, handed⟩ := inductionHypothesis resolved
              exact ⟨known, .trans ⟨argument.toList ++ [path], by simp⟩ handed⟩

/-- Whatever is started is a program that is known, with the arguments that were given behind those
that scripts on the way have put in front. -/
theorem resolveProgram_ok {name : Octets}
    (resolved : resolveProgram files name arguments = .ok launch) :
    isProgram launch.program = true ∧ arguments <:+ launch.arguments := by
  rw [resolveProgram] at resolved
  split at resolved
  case isTrue => exact resolvePath_ok resolved
  case isFalse =>
    split at resolved
    case isTrue => contradiction
    case isFalse =>
      split at resolved
      case isTrue => contradiction
      case isFalse =>
        split at resolved
        case isFalse => contradiction
        case isTrue known =>
          obtain rfl := Except.ok.inj resolved
          exact ⟨known, List.suffix_refl _⟩

/-! ## How a run ends -/

section Ends

variable {program : String} {texts : List String}

/-- Whether a program can be told its name and its arguments. They end at their first zero byte, so
none can have one. -/
def Speakable (program : String) (texts : List String) : Prop :=
  ∀ text ∈ program :: texts, '\x00' ∉ text.toList

/-- The session in which a program is run, when it has ended. It begins with nothing to read, no
variables and the files as they are. -/
def ended (files : Files) (launch : Launch) : Session :=
  ((Shell.runProgram depthLimit launch).run { name := launch.name, files }).2

/-- What a session has written to an output, in order. -/
def Session.written (session : Session) (number : Nat) : List UInt8 :=
  Octets.bytes ((session.outputs.lookup number).getD []).reverse.flatten

/-- How a session that has ended is seen from outside. No more than a byte is left of its status. -/
def Session.exitStatus (session : Session) : ExitStatus :=
  match session.flow with
  | .killed signal => .signalled signal
  | _ => .exited (session.status % 256)

/-- What a session that has ended leaves of itself, besides the files: what it has written to the
first two outputs, and how it has ended. -/
def Session.result (session : Session) : Result :=
  ⟨session.written 1, session.written 2, session.exitStatus⟩

/-- The ways in which a run of a program can end. -/
inductive RunEnding (files : Files) (program : String) (texts : List String) :
    Except OsError Result × Files → Prop
  /-- The program cannot be told its name and its arguments. This is found out first. -/
  | unspeakable (nul : ¬ Speakable program texts) :
    RunEnding files program texts (.error .nulInArgument, files)
  /-- No program is there. -/
  | missing {cause : OsError} (speakable : Speakable program texts)
    (unresolved :
      resolveProgram files (.ofText program) (texts.map Octets.ofText) = .error cause) :
    RunEnding files program texts (.error cause, files)
  /-- The program has been run. It leaves the files as they are in its session when it has ended. -/
  | ended {launch : Launch} (speakable : Speakable program texts)
    (resolved : resolveProgram files (.ofText program) (texts.map Octets.ofText) = .ok launch) :
    RunEnding files program texts (.ok (ended files launch).result,
      { (ended files launch).files with workingDirectory := files.workingDirectory })

/-- A run of a program ends in one of these ways, whatever it is. -/
theorem run_ends (files : Files) (program : String) (texts : List String) :
    RunEnding files program texts (run files program texts) := by
  have speakable_iff : ((program :: texts).any fun text => text.toList.contains '\x00') = false ↔
      Speakable program texts := by
    rw [List.any_eq_false, Speakable]
    simp only [List.contains_iff_mem]
  rw [run]
  split
  case isTrue nul =>
    refine .unspeakable fun speakable => ?_
    rw [speakable_iff.mpr speakable] at nul
    contradiction
  case isFalse absent =>
    have speakable := speakable_iff.mp (Bool.eq_false_iff.mpr absent)
    split
    case h_1 cause unresolved => exact .missing speakable unresolved
    case h_2 launch resolved => exact .ended speakable resolved

/-- A program is not started exactly if it cannot be told something or is not there, and the cause
says which of the two it is. How it ends is no such error. -/
theorem run_error_iff {cause : OsError} :
    (run files program texts).1 = .error cause ↔
      ¬ Speakable program texts ∧ cause = .nulInArgument ∨
      Speakable program texts ∧
        resolveProgram files (.ofText program) (texts.map Octets.ofText) = .error cause := by
  have ends := run_ends files program texts
  generalize run files program texts = ending at *
  cases ends with
  | unspeakable nul => simp [nul, eq_comm]
  | missing speakable unresolved => simp [speakable, unresolved]
  | ended speakable resolved => simp [speakable, resolved]

/-- A program that is not started leaves the files alone. -/
theorem run_files_of_error {cause : OsError} (failed : (run files program texts).1 = .error cause) :
    (run files program texts).2 = files := by
  have ends := run_ends files program texts
  generalize run files program texts = ending at *
  cases ends with
  | unspeakable nul => rfl
  | missing speakable unresolved => rfl
  | ended speakable resolved => contradiction

/-- Wherever a program has gone, the working directory of those who have started it stays. -/
theorem run_workingDirectory (files : Files) (program : String) (texts : List String) :
    (run files program texts).2.workingDirectory = files.workingDirectory := by
  have ends := run_ends files program texts
  generalize run files program texts = ending at *
  cases ends with
  | unspeakable nul => rfl
  | missing speakable unresolved => rfl
  | ended speakable resolved => rfl

/-- A status is a byte. A script that ends with a multiple of 256 has therefore ended well. -/
theorem run_exited {result : Result} {code : Nat} (ran : (run files program texts).1 = .ok result)
    (exited : result.status = .exited code) : code < 256 := by
  have ends := run_ends files program texts
  generalize run files program texts = ending at *
  cases ends with
  | unspeakable nul => contradiction
  | missing speakable unresolved => contradiction
  | ended speakable resolved =>
    obtain rfl := Except.ok.inj ran
    simp only [Session.result, Session.exitStatus] at exited
    split at exited
    · contradiction
    · obtain rfl := ExitStatus.exited.inj exited
      exact Nat.mod_lt _ (by decide)

end Ends

/-! ## A program that prints a file -/

/-- Whether a tool takes a path for a file that it is to work on. A hyphen begins an option or stands
for the input, and there are two paths that tools do not look up. -/
structure IsOperand (path : Octets) : Prop where
  noOption : path.head? ≠ some '-'
  noInput : path ≠ "/dev/stdin".toList
  noSink : path ≠ "/dev/null".toList

/-- A step that looks at the session goes on with it. -/
theorem Shell.get_ran {α : Type} (next : Session → Shell α) (session : Session) :
    (get >>= next).run session = (next session).run session := rfl

/-- A tool is given the content of a file exactly if there is one at the path, and to look changes
nothing. -/
theorem Tool.contentOf_ran {path : Octets} (operand : IsOperand path) (session : Session) :
    ∃ answer, (contentOf path).run session = (answer, session) ∧ ∀ content,
      answer = .ok content ↔ ∃ bytes executable, content = .ofBytes bytes ∧
        session.files.find? (Octets.text path) = some (.file bytes executable) := by
  have hyphen : path ≠ ['-'] := fun same => operand.noOption (by rw [same]; rfl)
  have stdin : ¬ (path == ['-'] || path == "/dev/stdin".toList) = true := by
    simp only [Bool.or_eq_true, beq_iff_eq, hyphen, operand.noInput, or_self, not_false_eq_true]
  have sink : ¬ (path == "/dev/null".toList) = true := by
    simpa using operand.noSink
  rw [contentOf, if_neg stdin, if_neg sink, Shell.get_ran, Files.find?]
  dsimp only
  cases session.files.locate (Octets.text path) with
  | error cause => exact ⟨.error (reason cause), rfl, by simp⟩
  | ok location =>
    dsimp only
    cases session.files.entry? location with
    | none => exact ⟨.error "No such file or directory", rfl, by simp⟩
    | some entry =>
      cases entry with
      | directory => exact ⟨.error "Is a directory", rfl, by simp⟩
      | file bytes executable => exact ⟨.ok (.ofBytes bytes), rfl, by simp [eq_comm]⟩

/-- With one path for its argument, no options are read, and the file is to be written as it is. -/
theorem Tool.cat_eq {path : Octets} (noOption : path.head? ≠ some '-') :
    cat [path] = forContents [path] fun _ content => Shell.write 1 content := by
  have read : ToolArguments.read ['n', 'u'] [] false [path] = .ok { operands := [path] } := by
    rw [ToolArguments.read.eq_def]
    dsimp only
    split
    · simp at noOption
    · simp at noOption
    · simp at noOption
    · rfl
  rw [cat, withArguments, read]
  rfl

/-- What the first step gives is handed to the next one. -/
theorem Shell.bind_ran {α β : Type} {first : Shell α} {next : α → Shell β}
    {session between : Session} {value : α} (ran : first.run session = (value, between)) :
    (first >>= next).run session = (next value).run between := by
  change (next (first.run session).1).run (first.run session).2 = _
  rw [ran]

/-- The content is written, or it is said why there is none, and nothing follows. -/
theorem Tool.cat_ran {path : Octets} (operand : IsOperand path) (session : Session)
    (answer : Except String Octets) (found : (contentOf path).run session = (answer, session)) :
    (cat [path]).run session =
      match answer with
      | .ok content => (Shell.write 1 content).run session
      | .error cause =>
        (do
          complain (shown path ++ ':' :: ' ' :: cause.toList)
          Shell.finish 1 : Shell Unit).run session := by
  rw [cat_eq operand.noOption, forContents]
  simp only [List.isEmpty_cons, Bool.false_eq_true, if_false, List.forIn_cons, List.forIn_nil,
    bind_assoc]
  rw [Shell.bind_ran found]
  cases answer with
  | ok content => simp only [bind_pure_comp, id_map']; rfl
  | error cause => rfl

/-- A program that is a tool does what the tool does, under its own name and with a status to begin
with that tells of no fault. -/
theorem Shell.runProgram_tool {tool : List Octets → Shell Unit} (bound : Nat)
    (found : Tool.find? launch.program = some tool) (session : Session) :
    (runProgram (bound + 1) launch).run session =
      (tool launch.arguments).run { session with name := launch.name, status := 0 } := by
  rw [runProgram]
  simp only [found]
  rfl

/-- The session of a tool ends as the tool leaves it. -/
theorem ended_tool {tool : List Octets → Shell Unit} (files : Files)
    (found : Tool.find? launch.program = some tool) :
    ended files launch = ((tool launch.arguments).run { name := launch.name, files }).2 := by
  have deep : depthLimit = 999999 + 1 := rfl
  rw [ended, deep, Shell.runProgram_tool 999999 found]

/-- The tool that prints files is found by its name, so that a run of it is a run of the tool. -/
theorem run_cat_eq (files : Files) {path : String} (speakable : '\x00' ∉ path.toList) :
    let session := ((Tool.cat [.ofText path]).run { name := ['c', 'a', 't'], files }).2
    run files "cat" [path] =
      (.ok session.result, { session.files with workingDirectory := files.workingDirectory }) := by
  intro session
  have told : Speakable "cat" [path] := by
    intro text member
    rcases List.mem_pair.mp member with rfl | rfl
    · decide
    · exact speakable
  let launch : Launch := ⟨"cat", ['c', 'a', 't'], [.ofText path]⟩
  have resolved : resolveProgram files (.ofText "cat") ([path].map Octets.ofText) = .ok launch := rfl
  have found : Tool.find? launch.program = some Tool.cat := rfl
  have same : session = ended files launch := (ended_tool files found).symm
  have ends := run_ends files "cat" [path]
  generalize run files "cat" [path] = ending at *
  cases ends with
  | unspeakable nul => exact absurd told nul
  | missing _ unresolved =>
    rw [resolved] at unresolved
    contradiction
  | ended _ started =>
    obtain rfl := Except.ok.inj (resolved.symm.trans started)
    rw [same]

/-- The output of this tool is the content of the file, whatever bytes it has, and it ends well and
leaves everything as it is. -/
theorem run_cat_of_file {path : String} {content : List UInt8} {executable : Bool}
    (operand : IsOperand (.ofText path)) (speakable : '\x00' ∉ path.toList)
    (found : files.find? path = some (.file content executable)) :
    run files "cat" [path] = (.ok ⟨content, [], .exited 0⟩, files) := by
  obtain ⟨answer, ran, answered⟩ :=
    Tool.contentOf_ran operand { name := ['c', 'a', 't'], files }
  rw [Octets.text_ofText] at answered
  obtain rfl := (answered _).mpr ⟨content, executable, rfl, found⟩
  have written : Session.result ((Shell.write 1 (.ofBytes content)).run
      { name := ['c', 'a', 't'], files }).2 = ⟨content, [], .exited 0⟩ := by
    have whole : [Octets.ofBytes content].flatten = Octets.ofBytes content := List.flatten_singleton
    change Result.mk (Octets.bytes [Octets.ofBytes content].flatten) [] (.exited 0) = _
    rw [whole, Octets.bytes_ofBytes]
  rw [run_cat_eq files speakable, Tool.cat_ran operand _ _ ran]
  dsimp only
  rw [written]
  rfl

/-- Without a file at the path, be it that there is nothing or a directory, nothing is printed, and
the status tells that this is no empty file. -/
theorem run_cat_of_none {path : String} (operand : IsOperand (.ofText path))
    (speakable : '\x00' ∉ path.toList)
    (none : ∀ content executable, files.find? path ≠ some (.file content executable)) :
    ∃ complaint, run files "cat" [path] = (.ok ⟨[], complaint, .exited 1⟩, files) := by
  obtain ⟨answer, ran, answered⟩ :=
    Tool.contentOf_ran operand { name := ['c', 'a', 't'], files }
  rw [Octets.text_ofText] at answered
  rw [run_cat_eq files speakable, Tool.cat_ran operand _ _ ran]
  cases answer with
  | ok content =>
    obtain ⟨bytes, executable, -, found⟩ := (answered content).mp rfl
    exact absurd found (none bytes executable)
  | error cause => exact ⟨_, rfl⟩

end Program

end SchemaBindings

