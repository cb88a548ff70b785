import SchemaBindings.Proofs.Confinement
import SchemaBindings.Proofs.Programs
import SchemaBindings.Proofs.Tables

/-!
# Tools that only print

Most tools look at files and write to their streams, and that is all. This is said of each of
them once, for every relation between sessions that holds of these two steps: a class of
relations stands for it, and every tool is confined to each one. Two such relations are used.
Here it is that the files are left alone as long as no stream leads to one, as is the case
for a program that is started by itself. The other one allows for edits of files, and is
needed where a script has turned its streams to files.

Which tools do more is a list of seven names. It has nothing to do with what their arguments
are: a stream editor is on it although it changes files only if it is told to.
-/
namespace SchemaBindings

namespace Program

/-- A relation between sessions before and after a step in which nothing matters but the files and
where the streams lead, and which holds of what is written to streams. That it holds where neither
of the two is changed covers all that a tool does to its status and takes from its inputs. -/
class Frames (may : Session → Session → Prop) : Prop extends Composes may where
  same : ∀ {before after : Session}, after.files = before.files →
    after.channels = before.channels → may before after
  write : ∀ stream octets session, may session ((Shell.write stream octets).run session).2

section Printing

variable {may : Session → Session → Prop} [Frames may] {α β : Type}

namespace Shell

/-- What is written to a stream is the one thing that a frame has to allow for. -/
instance write_confined (stream : Nat) (octets : Octets) : Confined may (write stream octets) :=
  ⟨Frames.write stream octets⟩

/-- A line is written as its text with the end of a line. -/
instance writeLine_confined (stream : Nat) (octets : Octets) :
    Confined may (writeLine stream octets) :=
  write_confined stream _

/-- A status is no part of what a frame is about. -/
instance finish_confined (status : Nat) : Confined may (finish status) :=
  ⟨fun _ => Frames.same rfl rfl⟩

/-- Nor is the end of a script. -/
instance leave_confined (status : Nat) : Confined may (leave status) :=
  ⟨fun _ => Frames.same rfl rfl⟩

/-- To read from a stream uses up an input, which is no file, or looks at a file. -/
instance readAll_confined (stream : Nat) : Confined may (readAll stream) := by
  refine ⟨fun session => ?_⟩
  rw [readAll, get_ran]
  split
  · exact Frames.same rfl rfl
  · split <;> exact Composes.stay session
  · exact Composes.stay session

end Shell

namespace Tool

/-- A complaint of a tool begins with its name and is written to the second stream. -/
instance complain_confined (message : Octets) : Confined may (complain message) := by
  rw [complain]
  infer_instance

/-- A tool that refuses its arguments complains and has a status of its own for it. -/
instance refuse_confined (status : Nat) (message : String) :
    Confined may (refuse status message) := by
  rw [refuse]
  infer_instance

/-- The rule for tools, where the tool is confined for all arguments by itself. -/
instance withArguments_confined (status : Nat) (plain valued : List Char) (arguments : List Octets)
    (action : ToolArguments → Shell Unit) [∀ arguments, Confined may (action arguments)] :
    Confined may (withArguments status plain valued arguments action) := by
  rw [withArguments]
  split <;> infer_instance

/-- A tool is confined if it is for whatever its arguments are read as. Where they cannot be read, it
complains and does nothing more. -/
theorem withArguments_confined_of {status : Nat} {plain valued : List Char}
    {arguments : List Octets} {action : ToolArguments → Shell Unit}
    (each : ∀ arguments, Confined may (action arguments)) :
    Confined may (withArguments status plain valued arguments action) :=
  inferInstance

/-- To get the content of a file is to look, and only the input is used up by it. -/
instance contentOf_confined (path : Octets) : Confined may (contentOf path) := by
  rw [contentOf]
  split
  · infer_instance
  · split
    · infer_instance
    · refine .get fun session => ?_
      dsimp only
      split
      · infer_instance
      · split <;> infer_instance

/-- What is done for every file is confined if it is for each, and so is the complaint about a file
that is not there. -/
theorem forContents_confined {paths : List Octets} {action : Octets → Octets → Shell Unit}
    (each : ∀ path content, Confined may (action path content)) :
    Confined may (forContents paths action) := by
  rw [forContents]
  refine .bind (.forIn fun path _ => .bind inferInstance fun found => ?_) inferInstance
  split <;> infer_instance

/-- The contents of several files are gathered, and a file that is missing is complained of. -/
instance allContents_confined (paths : List Octets) : Confined may (allContents paths) := by
  rw [allContents]
  refine .bind (.forIn fun path _ => .bind inferInstance fun found => ?_) inferInstance
  split <;> infer_instance

/-- To print files, with the numbers of their lines or without, changes none of them. -/
instance cat_confined (arguments : List Octets) : Confined may (cat arguments) := by
  refine withArguments_confined_of fun arguments => ?_
  split
  · infer_instance
  · exact forContents_confined fun _ _ => inferInstance

/-- The induction is on the options in front, as each of them is read with those that follow. -/
instance echo_confined (newline escapes : Bool) (arguments : List Octets) :
    Confined may (echo newline escapes arguments) := by
  have finished (newline escapes : Bool) (arguments : List Octets) :
      Confined may (echo.finish newline escapes arguments) := Shell.write_confined 1 _
  fun_induction echo newline escapes arguments with
  | case1 _ _ _ _ _ _ _ _ inductionHypothesis => exact inductionHypothesis
  | case2 => exact finished _ _ _
  | case3 => exact finished _ _ _

/-- A format is expanded and written; what is wrong with an argument is complained of behind it. -/
instance printf_confined (arguments : List Octets) : Confined may (printf arguments) := by
  rw [printf]
  dsimp only
  split
  · infer_instance
  · refine .bind inferInstance fun _ => ?_
    split
    · split <;> infer_instance
    · infer_instance

/-- The beginnings and the ends of files differ only in the part that is taken. -/
instance parts_confined (arguments : List Octets)
    (select : Bool → Option Char → Nat → Octets → Octets) :
    Confined may (parts arguments select) := by
  refine withArguments_confined_of fun arguments => ?_
  split
  split
  · infer_instance
  · refine forContents_confined fun _ _ => ?_
    split <;> infer_instance

/-- The beginnings of files are printed. -/
instance head_confined (arguments : List Octets) : Confined may (head arguments) :=
  parts_confined arguments _

/-- The ends of files are printed. -/
instance tail_confined (arguments : List Octets) : Confined may (tail arguments) :=
  parts_confined arguments _

/-- What is counted is written in columns, when all files have been looked at. -/
instance wc_confined (arguments : List Octets) : Confined may (wc arguments) := by
  refine withArguments_confined_of fun arguments => ?_
  refine .bind (.forIn fun path _ => .bind inferInstance fun found => ?_) fun counted => ?_
  · split <;> infer_instance
  · dsimp only
    split <;> infer_instance

/-- Characters are replaced between the input and the output, and no file is named. -/
instance tr_confined (arguments : List Octets) : Confined may (tr arguments) := by
  refine withArguments_confined_of fun arguments => ?_
  dsimp only
  split
  · infer_instance
  · refine .bind inferInstance fun text => ?_
    split
    · infer_instance
    · split <;> infer_instance

/-- Lines are sorted in one piece, so all of them are read first. -/
instance sort_confined (arguments : List Octets) : Confined may (sort arguments) := by
  refine withArguments_confined_of fun arguments => ?_
  refine .bind inferInstance fun whole => ?_
  dsimp only
  infer_instance

/-- Lines that are repeated are dropped on the way to the output. -/
instance uniq_confined (arguments : List Octets) : Confined may (uniq arguments) := by
  refine withArguments_confined_of fun arguments => ?_
  dsimp only
  infer_instance

/-- Numbers are written one after the other, from one argument to another one. -/
instance seq_confined (arguments : List Octets) : Confined may (seq arguments) := by
  rw [seq]
  dsimp only
  split
  · infer_instance
  · infer_instance
  · split
    · split <;> infer_instance
    · infer_instance

/-- The last segment of a path is a matter of its text, and no file is looked at. -/
instance basename_confined (arguments : List Octets) : Confined may (basename arguments) := by
  refine withArguments_confined_of fun arguments => ?_
  split
  · infer_instance
  · dsimp only
    infer_instance

/-- So is what is in front of it. -/
instance dirname_confined (arguments : List Octets) : Confined may (dirname arguments) := by
  refine withArguments_confined_of fun arguments => ?_
  dsimp only
  infer_instance

/-- The lines of files are printed in reverse order. -/
instance tac_confined (arguments : List Octets) : Confined may (tac arguments) :=
  withArguments_confined_of fun _ => forContents_confined fun _ _ => inferInstance

/-- The characters of each line are printed in reverse order. -/
instance rev_confined (arguments : List Octets) : Confined may (rev arguments) :=
  withArguments_confined_of fun _ => forContents_confined fun _ _ => inferInstance

/-- Parts of lines are printed, which are told by their places or by a sign between them. -/
instance cut_confined (arguments : List Octets) : Confined may (cut arguments) := by
  refine withArguments_confined_of fun arguments => ?_
  dsimp only
  split
  · infer_instance
  · exact forContents_confined fun _ _ => inferInstance
  · exact forContents_confined fun _ _ => inferInstance

/-- The names in directories are printed; nothing that they name is looked into. -/
instance ls_confined (arguments : List Octets) : Confined may (ls arguments) := by
  refine withArguments_confined_of fun arguments => ?_
  refine .bind (.forIn fun path _ => .get fun session => ?_) inferInstance
  dsimp only
  split <;> infer_instance

/-- There is no time here, so to wait is to do nothing once the arguments are read. -/
instance sleep_confined (arguments : List Octets) : Confined may (sleep arguments) := by
  refine withArguments_confined_of fun arguments => ?_
  dsimp only
  split <;> infer_instance

/-- The value of an expression is printed, and the status tells whether it is an empty one. -/
instance expr_confined (arguments : List Octets) : Confined may (expr arguments) := by
  unfold expr
  dsimp only
  split
  · infer_instance
  · infer_instance
  · split <;> infer_instance
  · infer_instance
  · infer_instance

/-- A line is printed many times over, and not forever. -/
instance yes_confined (arguments : List Octets) : Confined may (yes arguments) :=
  withArguments_confined_of fun _ => inferInstance

/-- A search that cannot be read is refused, and no file is looked at. -/
instance refuseSearch_confined (message : Option String) : Confined may (refuseSearch message) := by
  unfold refuseSearch
  split <;> infer_instance

/-- The lines of a file in which a pattern is found are printed, or their number, or the name of the
file. -/
instance searchFile_confined (arguments : ToolArguments) (search : LineSearch) (named : Bool)
    (path content : Octets) : Confined may (searchFile arguments search named path content) := by
  rw [searchFile]
  dsimp only
  split
  · infer_instance
  · split
    · infer_instance
    · split
      · infer_instance
      · infer_instance

/-- A search goes from one file to the next, and what is handed on is whether something has been
found. -/
instance grep_confined (arguments : List Octets) : Confined may (grep arguments) := by
  unfold grep
  dsimp only
  split
  · infer_instance
  · refine .either inferInstance ?_
    split
    · infer_instance
    · refine .bind (.forIn fun path found => ?_) inferInstance
      refine .either inferInstance (.bind inferInstance fun read => ?_)
      split <;> infer_instance

/-- The tools that can change files. Of the tools that are known by their names alone, none does. -/
def writing : List String := ["tee", "mkdir", "rm", "touch", "cp", "mv", "sed"]

/-- Every other tool comes to nothing but steps that look at the session and write to streams,
whatever its arguments are. -/
theorem find?_printing {name : String} {tool : List Octets → Shell Unit}
    (found : find? name = some tool) (printing : name ∉ writing) (arguments : List Octets) :
    Confined may (tool arguments) := by
  have listed : ∀ entry ∈ all, entry.1 ∉ writing → Confined may (entry.2 arguments) := by
    -- The names that are on the list of those that write are told from the others one by one.
    simp only [all, List.forall_mem_cons, List.not_mem_nil, false_imp_iff, implies_true, and_true]
    and_intros
    all_goals
      intro printing
      first
        | exact absurd (by decide) printing
        | infer_instance
  rw [find?] at found
  split at found
  case h_1 known member =>
    obtain rfl := Option.some.inj found
    exact listed _ (Table.mem_of_lookup member) printing
  case h_2 =>
    obtain ⟨status, -, rfl⟩ := Option.map_eq_some_iff.mp found
    exact withArguments_confined_of fun _ => inferInstance

end Tool

end Printing

/-! ## Files are left alone -/

/-- A session none of whose streams leads to a file. So a program begins that is not part of a
script. -/
def Session.Unfiled (session : Session) : Prop :=
  ∀ stream location, session.channels.lookup stream ≠ some (.file location)

/-- If no stream leads to a file, the files are left alone. The streams have to lead where they have
led besides, or else the next step might not leave the files alone. -/
def Quiet (before after : Session) : Prop :=
  before.Unfiled → after.files = before.files ∧ after.channels = before.channels

/-- Between two steps the streams lead where they have led, so the second one is asked about a
session of the same kind. -/
instance quiet_composes : Composes Quiet where
  stay _ _ := ⟨rfl, rfl⟩
  next {first second third} begun went unfiled := by
    obtain ⟨files, channels⟩ := begun unfiled
    have still : second.Unfiled := by rwa [Session.Unfiled, channels]
    obtain ⟨filesThen, channelsThen⟩ := went still
    exact ⟨filesThen.trans files, channelsThen.trans channels⟩

/-- What is written to a stream that leads to no file changes none. -/
instance quiet_frames : Frames Quiet where
  same files channels _ := ⟨files, channels⟩
  write stream octets session unfiled := by
    rw [Shell.write, Shell.get_ran]
    split
    case h_1 channel leads =>
      cases channel with
      | file location => exact absurd leads (unfiled stream location)
      | output number => exact ⟨rfl, rfl⟩
      | input number => exact ⟨rfl, rfl⟩
      | nowhere => exact ⟨rfl, rfl⟩
    case h_2 => exact ⟨rfl, rfl⟩

/-- A program that is a tool and not one of those that write leaves the files as they are, however
it ends. Scripts are not covered: what they do depends on their text. -/
theorem run_files_of_printing {files : Files} {program : String} {texts : List String}
    {launch : Launch}
    (resolved : resolveProgram files (.ofText program) (texts.map Octets.ofText) = .ok launch)
    {tool : List Octets → Shell Unit} (found : Tool.find? launch.program = some tool)
    (printing : launch.program ∉ Tool.writing) : (run files program texts).2 = files := by
  have ends := run_ends files program texts
  generalize run files program texts = ending at *
  cases ends with
  | unspeakable nul => rfl
  | missing speakable unresolved => rfl
  | ended speakable started =>
    obtain rfl := Except.ok.inj (resolved.symm.trans started)
    have unfiled : Session.Unfiled { name := launch.name, files } := by
      intro stream location leads
      obtain ⟨before, after, all, -⟩ := List.lookup_eq_some_iff.mp leads
      have member : (stream, Channel.file location) ∈
          before ++ (stream, .file location) :: after := by simp
      rw [← all] at member
      simp at member
    have quiet : Confined Quiet (tool launch.arguments) :=
      Tool.find?_printing found printing launch.arguments
    dsimp only
    rw [ended_tool files found, (quiet.confined _ unfiled).1]

end Program

end SchemaBindings
