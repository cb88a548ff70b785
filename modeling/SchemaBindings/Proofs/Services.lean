import SchemaBindings.Generation.Run
import SchemaBindings.Proofs.Scripts
import SchemaBindings.Proofs.Stages
import SchemaBindings.Proofs.Staging

/-!
# What a run gets from its services

A run knows nothing of the programs it starts but the output and the status that they end
with. The laws here say what it makes of these. A schema that is read from a file is the
value of the text in this file, and one that a command prints is the value of the text that
it prints; lines come from the generator in the same way. Each law is an equivalence, so it
says as well when nothing is given: if the program cannot be started, if it ends with
another status than zero, if its output is no text, or if the text is no value.

What a program does to the files on the way is up to it, and nothing is said of it here but
what holds of every program: the working directory stays, and everything that stands in a
directory still does. The first is why the paths of a run mean the same from its start to
its end, whichever programs it runs in between.

That the generator can be asked at all rests on the write before it. The schema stands at
its path as it has been written, since nothing is done between the two, so of the two files
that a run looks for, it can miss only the one that the settings name.
-/
namespace SchemaBindings

namespace Files

variable {files before after : Files} {path text : String} {content : List UInt8}

/-- A file is read as a text exactly if its bytes are those that the text is written as. Bytes that
are no text are a fault, and there is no second form of a text that would be read as well. -/
theorem readText_eq_ok_iff :
    files.readText path = .ok text ↔
      ∃ executable, files.find? path = some (.file (Text.encode text.toList) executable) := by
  rw [readText, find?]
  cases files.locate path with
  | error cause => simp [bind, Except.bind]
  | ok location =>
    simp only [bind, Except.bind]
    split
    case h_1 none => simp [none]
    case h_2 directory => simp [directory]
    case h_3 content executable standing =>
      have decoded := Text.decode_eq_ok_iff content text
      rw [standing]
      split
      case h_1 read found =>
        rw [found] at decoded
        simpa [pure, Except.pure] using decoded
      case h_2 fault found =>
        rw [found] at decoded
        simpa using decoded

/-- A file that can be read is there. -/
theorem hasPath_of_readText (read : files.readText path = .ok text) :
    files.hasPath path = true := by
  obtain ⟨_, found⟩ := readText_eq_ok_iff.mp read
  rw [hasPath, found]
  rfl

/-- What is found has a path that a program can be told: a path with a zero byte leads nowhere. -/
theorem find?_speakable {entry : Entry} (found : files.find? path = some entry) :
    '\x00' ∉ path.toList := by
  intro nul
  have refused : checkPath path = .error .nulInPath := by
    rw [checkPath, if_pos (List.contains_iff_mem.mpr nul)]
  rw [find?, locate, refused] at found
  contradiction

/-- A file that has been written as a whole is found at its path, with the content that it has been
written with. -/
theorem find?_of_writeWhole (written : (writeWhole path content).run.run before = (.ok (), after)) :
    ∃ executable, after.find? path = some (.file content executable) := by
  obtain ⟨_, failed, _⟩ | ⟨between, staging, executable, _, leaving, moved⟩ :=
    writeWhole_cases written
  · contradiction
  obtain ⟨_, _, failed, _⟩ | ⟨moved, _⟩ := about_change_cases moved
  · contradiction
  have directories := sameDirectories_put leaving.ne_root leaving.free content executable
  have standing : entry? (between.put staging (.file content executable)) staging =
      some (.file content executable) := by rw [entry?_put leaving.ne_root, if_pos rfl]
  exact ⟨executable, find?_of_moveFile (directories.fileable leaving) standing moved⟩

/-- A text that has been written is the text that is read. -/
theorem readText_of_writeWhole
    (written : (writeWhole path (Text.encode text.toList)).run.run before = (.ok (), after)) :
    after.readText path = .ok text :=
  readText_eq_ok_iff.mpr (find?_of_writeWhole written)

/-- Paths are looked up from where they have been. What stands there may have changed. -/
def SameStart (before after : Files) : Prop := after.workingDirectory = before.workingDirectory

instance sameStart_composes : Composes SameStart where
  stay _ := rfl
  next first second := second.trans first

/-- A write of a whole file, however it ends, does not move the working directory. -/
theorem writeWhole_sameStart (path : String) (content : List UInt8) :
    Confined SameStart (writeWhole path content).run := by
  refine ⟨fun files => ?_⟩
  rcases ended : (writeWhole path content).run.run files with ⟨result, after⟩
  obtain ⟨_, _, extended⟩ | ⟨between, staging, executable, extended, _, moved⟩ :=
    writeWhole_cases ended
  · exact extended.workingDirectory
  refine Eq.trans ?_ extended.workingDirectory
  obtain ⟨_, _, _, rfl⟩ | ⟨moved, _⟩ := about_change_cases moved
  · rfl
  obtain ⟨_, _, _, _, _, _, _, _, ⟨_, rfl⟩ | ⟨_, rfl⟩⟩ := moveFile_ok moved
  · rfl
  · rfl

end Files

/-! ## What programs print -/

section Outputs

variable {files after : Files} {program text path typeName : String} {arguments : List String}
  {value : Json}

/-- A program gives a text exactly if it has ended with the status zero and has printed the bytes of
this text. What it has complained of does not matter then. -/
theorem printedText_eq_ok_iff {outcome : Except OsError Program.Result} :
    printedText program outcome = .ok text ↔
      ∃ complaints, outcome = .ok ⟨Text.encode text.toList, complaints, .exited 0⟩ := by
  constructor
  · intro given
    unfold printedText at given
    split at given
    case h_1 => contradiction
    case h_2 result =>
      obtain ⟨stdout, stderr, status⟩ := result
      split at given
      case isFalse => contradiction
      case isTrue succeeded =>
        split at given
        case h_2 => contradiction
        case h_1 read decoded =>
          obtain rfl := Except.ok.inj given
          obtain rfl := (Text.decode_eq_ok_iff _ _).mp decoded
          exact ⟨stderr, by rw [← succeeded]⟩
  · rintro ⟨complaints, rfl⟩
    simp only [printedText, if_true, (Text.decode_eq_ok_iff _ text).mpr rfl]

/-- A program whose output is not taken is named in the fault, together with what was wrong: that it
could not be started, its status, or what its output is instead of text. -/
theorem printedText_error {outcome : Except OsError Program.Result} {error : RunError}
    (refused : printedText program outcome = .error error) :
    (∃ cause, outcome = .error cause ∧ error = .service (.notStarted program cause)) ∨
    (∃ result complaint, outcome = .ok result ∧ result.status ≠ .exited 0 ∧
      error = .service (.failed program result.status complaint)) ∨
    ∃ result fault, outcome = .ok result ∧ result.status = .exited 0 ∧
      Text.decode result.stdout = .error fault ∧
      error = .service (.invalidOutput program (.notText fault)) := by
  unfold printedText at refused
  split at refused
  case h_1 cause =>
    obtain rfl := Except.error.inj refused
    exact .inl ⟨cause, rfl, rfl⟩
  case h_2 result =>
    split at refused
    case isFalse failed =>
      obtain rfl := Except.error.inj refused
      exact .inr (.inl ⟨result, _, rfl, failed, rfl⟩)
    case isTrue succeeded =>
      split at refused
      case h_1 => contradiction
      case h_2 fault decoded =>
        obtain rfl := Except.error.inj refused
        exact .inr (.inr ⟨result, fault, rfl, succeeded, decoded, rfl⟩)

/-- A result that is given at once leaves the files as they are. -/
theorem liftExcept_ran {ε α : Type} (given : Except ε α) (files : Files) :
    (liftExcept given : FileAction ε α).run.run files = (given, files) := by
  cases given with
  | ok value => rfl
  | error error => rfl

/-- The files are left as the program leaves them, whether or not its output is taken. -/
theorem printed_ran (program : String) (arguments : List String) (files : Files) :
    (printed program arguments).run.run files =
      (printedText program (Program.run files program arguments).1,
        (Program.run files program arguments).2) := by
  change (liftExcept (printedText program (Program.run files program arguments).1) :
    FileAction RunError String).run.run (Program.run files program arguments).2 = _
  rw [liftExcept_ran]

/-- A program gives a text and leaves files behind exactly if a run of it ends in these files, with
the status zero and the text as its output. -/
theorem printed_ok_iff :
    (printed program arguments).run.run files = (.ok text, after) ↔
      ∃ complaints, Program.run files program arguments =
        (.ok ⟨Text.encode text.toList, complaints, .exited 0⟩, after) := by
  rw [printed_ran, Prod.mk.injEq, printedText_eq_ok_iff]
  constructor
  · rintro ⟨⟨complaints, outcome⟩, rfl⟩
    exact ⟨complaints, Prod.ext outcome rfl⟩
  · rintro ⟨complaints, ran⟩
    rw [ran]
    exact ⟨⟨complaints, rfl⟩, rfl⟩

/-- Where a program gives no text, the fault is one of a service, and never one of a file or of a
schema. -/
theorem printed_fault {error : RunError}
    (failed : (printed program arguments).run.run files = (.error error, after)) :
    ∃ fault, error = .service fault := by
  rw [printed_ran, Prod.mk.injEq] at failed
  obtain ⟨_, _, same⟩ | ⟨_, _, _, _, same⟩ | ⟨_, _, _, _, _, same⟩ := printedText_error failed.1
  · exact ⟨_, same⟩
  · exact ⟨_, same⟩
  · exact ⟨_, same⟩

/-- Where the fault is that a program could not be started, the files are as they were. No other fault
says this: a program that ends badly may have changed them before. -/
theorem printed_notStarted {name : String} {cause : OsError}
    (failed : (printed program arguments).run.run files =
      (.error (.service (.notStarted name cause)), after)) : after = files := by
  rw [printed_ran] at failed
  obtain ⟨refused, rfl⟩ := Prod.mk.inj failed
  obtain ⟨_, unstarted, _⟩ | ⟨_, _, _, _, same⟩ | ⟨_, _, _, _, _, same⟩ :=
    printedText_error refused
  · exact Program.run_files_of_error unstarted
  · exact nomatch same
  · exact nomatch same

/-- A text is taken for the value that it is as a whole. -/
theorem parsedOutput_eq_ok_iff :
    parsedOutput program text = .ok value ↔ Json.parseWhole text = .ok value := by
  rw [parsedOutput]
  cases Json.parseWhole text with
  | ok read => simp
  | error error => simp

namespace SchemaSource

/-- The schema of a file is the value of its text, and to read it changes nothing. The name of the
type is not asked for: the file is taken to have the schema of the right type. -/
theorem extract_file_iff :
    ((file path).extract typeName).run.run files = (.ok value, after) ↔
      after = files ∧ ∃ text executable,
        files.find? path = some (.file (Text.encode text.toList) executable) ∧
          Json.parseWhole text = .ok value := by
  rw [extract, Files.get_ran]
  constructor
  · intro given
    split at given
    case isFalse =>
      have failed := congrArg Prod.fst given
      contradiction
    case isTrue =>
      split at given
      case h_1 text read =>
        rw [liftExcept_ran, Prod.mk.injEq, parsedOutput_eq_ok_iff] at given
        obtain ⟨executable, found⟩ := Files.readText_eq_ok_iff.mp read
        exact ⟨given.2.symm, text, executable, found, given.1⟩
      case h_2 =>
        have failed := congrArg Prod.fst given
        contradiction
  · rintro ⟨rfl, text, executable, found, parsed⟩
    have read := Files.readText_eq_ok_iff.mpr ⟨executable, found⟩
    rw [if_pos (Files.hasPath_of_readText read), read]
    dsimp only
    rw [liftExcept_ran, parsedOutput_eq_ok_iff.mpr parsed]

/-- The schema of a command is the value of the text that it prints. The name of the type is handed
to it in place of every argument that is the mark for it, and nowhere else. -/
theorem extract_command_iff :
    ((command (program :: arguments)).extract typeName).run.run files = (.ok value, after) ↔
      ∃ text complaints,
        Program.run files program (arguments.map fun argument =>
          if argument = typeMark then typeName else argument) =
            (.ok ⟨Text.encode text.toList, complaints, .exited 0⟩, after) ∧
          Json.parseWhole text = .ok value := by
  rw [extract]
  constructor
  · intro given
    obtain ⟨text, between, printing, read⟩ := ran_bind given
    rw [liftExcept_ran, Prod.mk.injEq, parsedOutput_eq_ok_iff] at read
    obtain ⟨complaints, ran⟩ := printed_ok_iff.mp printing
    exact ⟨text, complaints, read.2 ▸ ran, read.1⟩
  · rintro ⟨text, complaints, ran, parsed⟩
    have printing := printed_ok_iff.mpr ⟨complaints, ran⟩
    rw [ran_ok printing, liftExcept_ran, parsedOutput_eq_ok_iff.mpr parsed]

open Program in
/-- A command that prints a file gives the schema that the file itself gives, and both give none in
the same cases; only the faults differ. So settings may name a file in either way. -/
theorem extract_command_cat (operand : IsOperand (.ofText path)) (unmarked : path ≠ typeMark)
    (typeName : String) (value : Json) :
    ((command ["cat", path]).extract typeName).run.run files = (.ok value, after) ↔
      ((file path).extract typeName).run.run files = (.ok value, after) := by
  rw [extract_command_iff, extract_file_iff, List.map_singleton, if_neg unmarked]
  constructor
  · rintro ⟨text, complaints, ran, parsed⟩
    by_cases nul : '\x00' ∈ path.toList
    · have refused : (run files "cat" [path]).1 = .error .nulInArgument :=
        run_error_iff.mpr (.inl ⟨fun told => told path (by simp) nul, rfl⟩)
      rw [ran] at refused
      contradiction
    · by_cases found : ∃ content executable, files.find? path = some (.file content executable)
      · obtain ⟨content, executable, found⟩ := found
        rw [run_cat_of_file operand nul found] at ran
        obtain ⟨result, rfl⟩ := Prod.mk.inj ran
        obtain ⟨rfl, -, -⟩ := Result.mk.inj (Except.ok.inj result)
        exact ⟨rfl, text, executable, found, parsed⟩
      · obtain ⟨complaint, failed⟩ := run_cat_of_none operand nul
          fun content executable same => found ⟨content, executable, same⟩
        rw [failed] at ran
        have status := congrArg Result.status (Except.ok.inj (Prod.mk.inj ran).1)
        exact absurd status (by simp)
  · rintro ⟨rfl, text, executable, found, parsed⟩
    exact ⟨text, [], run_cat_of_file operand (Files.find?_speakable found) found, parsed⟩

/-- What a source refuses is the fault of a program or of a file, or else it is a file itself and
not there. -/
theorem extract_fault {source : SchemaSource} {error : RunError}
    (refused : (source.extract typeName).run.run files = (.error error, after)) :
    (∃ fault, error = .service fault) ∨ (∃ fault, error = .file fault) ∨
      ∃ path, source = .file path ∧ error = .notFound .schemaSource path := by
  have parsed {program text : String} {between : Files}
      (read : (liftExcept (parsedOutput program text) : FileAction RunError Json).run.run between =
        (.error error, after)) : ∃ fault, error = .service fault := by
    rw [liftExcept_ran, parsedOutput] at read
    have result := congrArg Prod.fst read
    split at result
    case h_1 => contradiction
    case h_2 => exact ⟨_, (Except.error.inj result).symm⟩
  cases source with
  | file path =>
    rw [extract, Files.get_ran] at refused
    split at refused
    case isTrue =>
      split at refused
      case h_1 text read => exact .inl (parsed refused)
      case h_2 =>
        have result := congrArg Prod.fst refused
        exact .inr (.inl ⟨_, (Except.error.inj result).symm⟩)
    case isFalse =>
      have result := congrArg Prod.fst refused
      exact .inr (.inr ⟨path, rfl, (Except.error.inj result).symm⟩)
  | command words =>
    cases words with
    | nil =>
      have result := congrArg Prod.fst refused
      exact .inl ⟨_, (Except.error.inj result).symm⟩
    | cons program arguments =>
      rw [extract] at refused
      obtain ⟨_, failed, same⟩ | ⟨text, between, _, read⟩ := ran_cases refused
      · obtain rfl := Except.error.inj same
        exact .inl (printed_fault failed)
      · exact .inl (parsed read)

end SchemaSource

namespace GeneratorSettings

variable {settings : GeneratorSettings} {request : GenerationRequest}

/-- The generator gives the lines of the text that it prints. It is run only if the schema of the
request is there, but what it makes of the file is its own affair. -/
theorem generate_iff {lines : List String} :
    (settings.generate request).run.run files = (.ok lines, after) ↔
      files.hasPath request.schemaPath = true ∧ ∃ text complaints,
        Program.run files settings.program (settings.arguments request) =
          (.ok ⟨Text.encode text.toList, complaints, .exited 0⟩, after) ∧
        lines = Text.lines text := by
  rw [generate, Files.get_ran]
  constructor
  · intro given
    split at given
    case isFalse =>
      have failed := congrArg Prod.fst given
      contradiction
    case isTrue there =>
      obtain ⟨text, between, printing, read⟩ := ran_bind given
      obtain ⟨same, rfl⟩ := Prod.mk.inj read
      obtain rfl := Except.ok.inj same
      obtain ⟨complaints, ran⟩ := printed_ok_iff.mp printing
      exact ⟨there, text, complaints, ran, rfl⟩
  · rintro ⟨there, text, complaints, ran, rfl⟩
    rw [if_pos there, ran_ok (printed_ok_iff.mpr ⟨complaints, ran⟩)]
    rfl

/-- The generator is refused only for what it does itself, or if its schema is not there. -/
theorem generate_fault {error : RunError}
    (refused : (settings.generate request).run.run files = (.error error, after)) :
    (∃ fault, error = .service fault) ∨ files.hasPath request.schemaPath = false := by
  rw [generate, Files.get_ran] at refused
  split at refused
  case isTrue =>
    obtain ⟨_, failed, same⟩ | ⟨text, between, _, read⟩ := ran_cases refused
    · obtain rfl := Except.error.inj same
      exact .inl (printed_fault failed)
    · exact absurd (Prod.mk.inj read).1 nofun
  case isFalse missing => exact .inr (Bool.eq_false_iff.mpr missing)

end GeneratorSettings

end Outputs

/-! ## What runs make of files -/

/-- A relation between files before and after that holds of every program and of every write of a
whole file, and of what follows from these. It then holds of every run. -/
class Steady (may : Files → Files → Prop) : Prop extends Composes may where
  program : ∀ files program texts, may files (Program.run files program texts).2
  write : ∀ path content, Confined may (Files.writeWhole path content).run

instance sameStart_steady : Steady Files.SameStart where
  program := Program.run_workingDirectory
  write := Files.writeWhole_sameStart

instance edited_steady : Steady Files.Edited where
  program := Program.run_edited
  write := Files.writeWhole_confined

section Steady

variable {may : Files → Files → Prop}

open Run in
/-- What is done to the files is done to those of the world; the note beforehand changes none. -/
theorem Run.performed_confined {α : Type} {effect : Effect} {action : FileAction RunError α}
    (acted : Confined may action.run) :
    Confined (InvImage may World.files) (do note effect; onFiles action : Run α).run := by
  refine ⟨fun world => ?_⟩
  rcases ended : (do note effect; onFiles action : Run α).run.run world with ⟨result, after⟩
  have kept := acted.confined world.files
  have ran : action.run.run world.files = _ := (performed ended).2
  rwa [ran] at kept

variable [Steady may]

/-- To run a program for what it prints does to the files what the program does. -/
theorem printed_confined (program : String) (arguments : List String) :
    Confined may (printed program arguments).run := by
  refine ⟨fun files => ?_⟩
  have ran : (printed program arguments).run.run files = _ := printed_ran program arguments files
  rw [ran]
  exact Steady.program files program arguments

/-- A source does nothing to the files itself; if it is a command, its program may. -/
theorem SchemaSource.extract_confined (source : SchemaSource) (typeName : String) :
    Confined may (source.extract typeName).run := by
  cases source with
  | file path =>
    refine .look fun files => ?_
    split
    · split
      · exact .given _
      · exact .given (.error _)
    · exact .given (.error _)
  | command words =>
    cases words with
    | nil => exact .given (.error _)
    | cons program arguments => exact .follow (printed_confined _ _) fun _ => .given _

/-- Neither does the call of the generator, before or after its run. -/
theorem GeneratorSettings.generate_confined (settings : GeneratorSettings)
    (request : GenerationRequest) : Confined may (settings.generate request).run := by
  refine .look fun files => ?_
  split
  · exact .follow (printed_confined _ _) fun _ => .given (.ok _)
  · exact .given (.error _)

namespace Run

/-- A result that is there already does nothing to the world. -/
theorem ofExcept_confined {α : Type} (given : Except RunError α) :
    Confined (InvImage may World.files) (ofExcept given).run := by
  cases given with
  | ok value => exact pure_confined (Except.ok value)
  | error error => exact pure_confined (Except.error error)

/-- A write of an artifact is a write of a whole file, under another name for its faults. -/
theorem write_confined (artifact : ArtifactKind) (path text : String) :
    Confined (InvImage may World.files) (write Files.writeWhole artifact path text).run :=
  performed_confined (Files.adapt_confined _ (Steady.write path _))

variable (settings : Settings) (source : SchemaSource)

/-- The run of a language does nothing to the files but what programs and writes do. Its steps are
those of its definition, in their order, and any of them may be the last. -/
theorem language_confined (id : String) :
    Confined (InvImage may World.files) (language settings (settings.services source) id).run := by
  rw [language, languageBy]
  simp only [prepareValue_eq]
  refine .follow (ofExcept_confined _) fun language => ?_
  refine .follow (performed_confined (source.extract_confined _)) fun raw => ?_
  refine .follow (write_confined _ _ _) fun _ => ?_
  refine .follow (ofExcept_confined _) fun prepared => ?_
  refine .follow (write_confined _ _ _) fun _ => ?_
  refine .follow (performed_confined (settings.generator.generate_confined _)) fun lines => ?_
  refine .follow (write_confined _ _ _) fun _ => ?_
  refine .follow (ofExcept_confined _) fun documented => ?_
  refine .follow (write_confined _ _ _) fun _ => ?_
  exact ofExcept_confined (.ok _)

/-- Languages are run one after the other, so the files that one leaves are those that the next one
finds. The induction is on the languages. -/
theorem outcomes_confined (ids : List String) :
    Confined (InvImage may World.files) (outcomes settings (settings.services source) ids) := by
  induction ids with
  | nil => exact pure_confined []
  | cons id ids inductionHypothesis =>
    rw [outcomes]
    refine .bind (language_confined settings source id) fun result => ?_
    exact .bind inductionHypothesis fun later => pure_confined _

/-- All languages or one, nothing but their runs is done to the files. -/
theorem target_confined (given : Target) :
    Confined (InvImage may World.files) (target settings (settings.services source) given).run := by
  cases given with
  | all =>
    exact .follow (.lift (outcomes_confined settings source _)) fun _ => .given (.ok _)
  | language id =>
    rw [target]
    split
    · exact .follow (.lift (outcomes_confined settings source [id])) fun _ => .given (.ok _)
    · exact pure_confined (Except.error _)

/-- Whatever programs a run starts, and however it ends, paths are looked up afterwards from where
they were looked up before. So a language is not led astray by those that were run ahead of it. -/
theorem target_workingDirectory (given : Target) (world : World) :
    ((target settings (settings.services source) given).run.run world).2.files.workingDirectory =
      world.files.workingDirectory :=
  (@target_confined Files.SameStart _ settings source given).confined world

/-- No run leaves anything outside of directories, unless it was there before. -/
theorem target_tidy (given : Target) {world : World} (tidy : world.files.Tidy) :
    ((target settings (settings.services source) given).run.run world).2.files.Tidy :=
  Files.Edited.tidy ((target_confined settings source given).confined world) tidy

end Run

end Steady

/-! ## What a run can miss -/

namespace Run

/-- When the generator is asked, the schema that it is asked about stands at its path. -/
theorem EscapedWritten.standing {settings : Settings} {services : Services} {id : String}
    {language : Language} {start world : World} {raw : Json} {prepared : PreparedSchema}
    (past : EscapedWritten Files.writeWhole settings services id language start raw prepared world) :
    world.files.readText (request settings id language prepared).schemaPath =
      .ok (documentText (request settings id language prepared).schema) := by
  obtain ⟨_, _, written⟩ := past
  exact Files.readText_of_writeWhole (Files.ok_of_adapt (performed written).2)

/-- The only file that a run can miss is the one that its source names. The check before the
generator is run never fails after the write of its schema, so its fault never reaches a report. -/
theorem languageBy_notFound {settings : Settings} {source : SchemaSource} {id : String}
    {start after : World} {resource : Resource} {path : String}
    (ended : (languageBy Files.writeWhole settings (settings.services source) id).run.run start =
      (.error (.notFound resource path), after)) :
    resource = .schemaSource ∧ source = .file path := by
  cases configured : settings.language id with
  | error error =>
    rw [languageBy_unconfigured configured] at ended
    exact absurd (Except.error.inj (Prod.mk.inj ended).1) nofun
  | ok language =>
    cases languageBy_ending configured ended with
    | extraction failed =>
      obtain ⟨_, same⟩ | ⟨_, same⟩ | ⟨_, named, same⟩ :=
        SchemaSource.extract_fault (performed failed).2
      · exact nomatch same
      · exact nomatch same
      · obtain ⟨rfl, rfl⟩ := RunError.notFound.inj same
        exact ⟨rfl, named⟩
    | rawWrite past failed =>
      obtain ⟨_, same⟩ := write_error failed
      exact nomatch same
    | escapedWrite past failed =>
      obtain ⟨_, same⟩ := write_error failed
      exact nomatch same
    | generation past failed =>
      obtain ⟨_, same⟩ | missing := GeneratorSettings.generate_fault (performed failed).2
      · exact nomatch same
      · exact absurd (Files.hasPath_of_readText past.standing) (Bool.eq_false_iff.mp missing)
    | sourceWrite past failed =>
      obtain ⟨_, same⟩ := write_error failed
      exact nomatch same
    | finalWrite past written handed =>
      obtain rfl := handed _ rfl
      obtain ⟨_, same⟩ := write_error written
      exact nomatch same

end Run

end SchemaBindings
