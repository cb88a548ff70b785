import SchemaBindings.Proofs.Acceptance
import SchemaBindings.Proofs.Confinement

/-!
# Edits of files

Files are a list of what stands at which location, and a list can hold anything: a file in no
directory, or below another file. No operation ever makes such files of others. There are five
kinds of edits, each with what has to be the case before it, and every operation that a
program or a run does comes to some of them. As each keeps everything in a directory, so does
whatever is made of them, however long it goes on and wherever it breaks off.

An edit says nothing of contents. A file may be replaced by any other, as by a program of
which nothing is known.
-/
namespace SchemaBindings.Files

/-- The files without what stands at a location or below it. -/
def clear (files : Files) (location : Location) : Files :=
  { files with
    entries := files.entries.filter fun entry => entry.1.take location.length != location }

/-- Whether a file stands at a location, whatever it holds. -/
def HoldsFile (files : Files) (location : Location) : Prop :=
  ∃ content executable, files.entry? location = some (.file content executable)

/-- What one operation can make of files. A file is written where one stands or in a directory with
a free name, so none takes the place of a directory, and none is put below a file. -/
inductive Edit (files : Files) : Files → Prop
  /-- A file is written where a file stands already. -/
  | replaced {location : Location} (content : List UInt8) (executable : Bool)
    (standing : files.HoldsFile location) :
    Edit files (files.put location (.file content executable))
  /-- A file or directory is made in a directory where nothing stands. -/
  | made {directory : Location} {name : String} (entry : Entry)
    (stands : files.hasDirectory directory = true)
    (none : files.entry? (directory ++ [name]) = none) :
    Edit files (files.put (directory ++ [name]) entry)
  /-- A file is removed. -/
  | removed {location : Location} (standing : files.HoldsFile location) :
    Edit files (files.remove location)
  /-- Whatever stands at a location is removed with all below it. -/
  | cleared (location : Location) : Edit files (files.clear location)
  /-- Paths are looked up from elsewhere. No directory has to stand there. -/
  | moved (directory : Location) : Edit files { files with workingDirectory := directory }

/-- What operations that follow one another can make of files. There may be none. -/
abbrev Edited : Files → Files → Prop := Relation.ReflTransGen Edit

/-- Whatever stands in files stands in a directory. The root is one, and it stands in none. -/
def Tidy (files : Files) : Prop :=
  ∀ directory name, files.entry? (directory ++ [name]) ≠ none → files.hasDirectory directory = true

section Edit

variable {files after : Files} {path : String} {location : Location} {content : List UInt8}

/-- The root is no file. -/
theorem HoldsFile.ne_root (standing : files.HoldsFile location) : location ≠ [] := by
  rintro rfl
  obtain ⟨_, _, root⟩ := standing
  exact nomatch root

/-- A file is no directory. -/
theorem HoldsFile.free (standing : files.HoldsFile location) :
    files.hasDirectory location = false := by
  obtain ⟨_, _, there⟩ := standing
  rw [hasDirectory, there]
  rfl

/-- Where a file is put somewhere, a file stands there and wherever one has stood before. -/
theorem holdsFile_put (named : location ≠ []) (content : List UInt8) (executable : Bool)
    {other : Location} (standing : other = location ∨ files.HoldsFile other) :
    (files.put location (.file content executable)).HoldsFile other := by
  rw [HoldsFile, entry?_put named]
  by_cases here : other = location
  · exact ⟨content, executable, by rw [if_pos here]⟩
  · rw [if_neg here]
    exact standing.resolve_left here

/-- What is cleared away is what is at a location and below it, and all else is found as before. -/
theorem entry?_clear {other : Location} (named : other ≠ []) :
    entry? (files.clear location) other =
      if other.take location.length = location then none else files.entry? other := by
  have root : other.isEmpty = false := by simpa using named
  rw [ entry?, root, if_neg Bool.false_ne_true, clear, entry?, root, if_neg Bool.false_ne_true]
  rw [lookup_filter (fun other => other.take location.length != location)]
  by_cases below : other.take location.length = location
  · simp [below]
  · simp [below]

/-- An edit leaves everything in a directory. A file that is replaced or removed has nothing below
it, and what is removed with all below leaves no part of itself. -/
theorem Edit.tidy (edit : Edit files after) (tidy : files.Tidy) : after.Tidy := by
  intro above name there
  cases edit with
  | replaced content executable standing =>
    rw [(sameDirectories_put standing.ne_root standing.free _ _).directory]
    refine tidy above name fun none => there ?_
    rw [entry?_put standing.ne_root, none, if_neg]
    rintro rfl
    obtain ⟨_, _, present⟩ := standing
    rw [none] at present
    contradiction
  | @made directory base entry stands none =>
    have stays (stood : files.hasDirectory above = true) :
        (files.put (directory ++ [base]) entry).hasDirectory above = true := by
      rw [hasDirectory, entry?_put (by simp), if_neg]
      · exact stood
      · rintro rfl
        rw [hasDirectory, none] at stood
        contradiction
    refine stays ?_
    by_cases here : above ++ [name] = directory ++ [base]
    · obtain ⟨rfl, -⟩ := List.append_inj' here rfl
      exact stands
    · rw [entry?_put (by simp), if_neg here] at there
      exact tidy above name there
  | removed standing =>
    rw [(sameDirectories_remove standing.ne_root standing.free).directory]
    refine tidy above name fun none => there ?_
    rw [entry?_remove standing.ne_root, none, ite_self]
  | cleared location =>
    rw [entry?_clear (by simp)] at there
    split at there
    case isTrue => contradiction
    case isFalse aside =>
      have stood := tidy above name there
      by_cases root : above = []
      · rw [root]
        rfl
      · rw [hasDirectory, entry?_clear root, if_neg]
        · exact stood
        · -- What stands below the location of a directory stands below that of all above it.
          intro below
          refine aside ?_
          have long := congrArg List.length below
          rw [List.length_take] at long
          rw [List.take_append_of_le_length (by omega), below]
  | moved directory => exact tidy above name there

/-- Any number of edits leaves everything in a directory. -/
theorem Edited.tidy (edited : Edited files after) (tidy : files.Tidy) : after.Tidy := by
  induction edited with
  | refl => exact tidy
  | tail _ edit inductionHypothesis => exact edit.tidy inductionHypothesis

/-- Where a file can be put, there is a directory to put it in. -/
theorem Fileable.stands (fileable : files.Fileable path location) :
    ∃ directory name, location = directory ++ [name] ∧ files.hasDirectory directory = true := by
  obtain ⟨directory, name, found, -, rfl⟩ := fileable
  exact ⟨directory, name, rfl, (spotOf_named_iff.mp found).2.2.2.2.2.1⟩

/-- To put a file where files can be put is an edit, of one kind or another as a file stands there
already or nothing does. -/
theorem Fileable.edit (fileable : files.Fileable path location) (content : List UInt8)
    (executable : Bool) : Edit files (files.put location (.file content executable)) := by
  obtain ⟨directory, name, rfl, stands⟩ := fileable.stands
  cases standing : files.entry? (directory ++ [name]) with
  | none => exact .made _ stands standing
  | some entry =>
    cases entry with
    | file old before => exact .replaced _ _ ⟨old, before, standing⟩
    | directory =>
      have free := fileable.free
      rw [hasDirectory, standing] at free
      contradiction

/-- A file that has been written has replaced another one or is new in its directory. -/
theorem writeFile_edit (written : files.writeFile path content = .ok after) : Edit files after := by
  obtain ⟨location, fileable⟩ := fileable_of_writeFile written
  obtain ⟨executable, put⟩ := writeFile_of_fileable fileable content
  obtain rfl := Except.ok.inj (put.symm.trans written)
  exact fileable.edit content executable

/-- A path that can be looked up leads to its place. -/
theorem locate_ok (located : files.locate path = .ok location) : location = files.placeOf path := by
  rw [locate] at located
  cases checked : checkPath path with
  | error cause => simp [checked, bind, Except.bind] at located
  | ok _ =>
    rw [checked] at located
    exact walk_ok located

/-- Where a path leads depends on nothing but the directory from which it is looked up. -/
theorem placeOf_congr (same : after.workingDirectory = files.workingDirectory) (path : String) :
    after.placeOf path = files.placeOf path := by
  rw [placeOf, startOf, same, placeOf, startOf]

/-- A file that is found stands at the place of its path. -/
theorem holdsFile_of_find? {executable : Bool}
    (found : files.find? path = some (.file content executable)) :
    files.HoldsFile (files.placeOf path) := by
  rw [find?] at found
  split at found
  case h_1 located =>
    rw [locate_ok located] at found
    exact ⟨content, executable, found⟩
  case h_2 => contradiction

/-- What has been written is found as a file at the place of its path. -/
theorem holdsFile_of_writeFile (written : files.writeFile path content = .ok after)
    {other : Location} (standing : other = files.placeOf path ∨ files.HoldsFile other) :
    after.HoldsFile other := by
  obtain ⟨location, fileable⟩ := fileable_of_writeFile written
  obtain ⟨executable, put⟩ := writeFile_of_fileable fileable content
  obtain rfl := Except.ok.inj (put.symm.trans written)
  rw [← fileable.eq_placeOf] at standing
  exact holdsFile_put fileable.ne_root content executable standing

/-- To write a file is not to go anywhere. -/
theorem workingDirectory_of_writeFile (written : files.writeFile path content = .ok after) :
    after.workingDirectory = files.workingDirectory := by
  obtain ⟨location, fileable⟩ := fileable_of_writeFile written
  obtain ⟨executable, put⟩ := writeFile_of_fileable fileable content
  obtain rfl := Except.ok.inj (put.symm.trans written)
  rfl

/-- A directory is made only where nothing stands and a directory is there to hold it. -/
theorem makeDirectory_edit (made : files.makeDirectory path = .ok after) : Edit files after := by
  rw [makeDirectory] at made
  rcases found : files.spotOf path with error | ⟨directory, name, slash⟩
  · simp [found, bind, Except.bind] at made
  · simp only [found, bind, Except.bind] at made
    cases name with
    | none => contradiction
    | some name =>
      dsimp only at made
      split at made
      case h_1 => contradiction
      case h_2 none =>
        obtain rfl := Except.ok.inj made
        exact .made .directory (spotOf_named_iff.mp found).2.2.2.2.2.1 none

/-- Directories are made from the outermost one that is missing. Where one cannot be made, those that
have been made stay. -/
theorem makeDirectories_edited {paths : List String} {result : Except OsError Unit}
    (ended : (makeDirectories paths).run.run files = (result, after)) : Edited files after := by
  induction paths generalizing files result after with
  | nil =>
    obtain ⟨-, rfl⟩ := Prod.mk.inj ended
    exact .refl
  | cons path above inductionHypothesis =>
    rw [makeDirectories, get_ran] at ended
    split at ended
    case h_1 made =>
      obtain ⟨-, rfl⟩ := Prod.mk.inj ended
      exact .single (makeDirectory_edit made)
    case h_2 =>
      obtain ⟨_, failed, -⟩ | ⟨_, between, provided, again⟩ := ran_cases ended
      · exact inductionHypothesis failed
      · have edited := inductionHypothesis provided
        rw [get_ran] at again
        split at again
        case h_1 made =>
          obtain ⟨-, rfl⟩ := Prod.mk.inj again
          exact edited.tail (makeDirectory_edit made)
        case h_2 =>
          obtain ⟨rfl, -⟩ := unless_isDirectory again
          exact edited
    case h_3 =>
      obtain ⟨rfl, -⟩ := unless_isDirectory ended
      exact .refl

/-- A move is two edits: the file is removed where it stands, and put where it is to stand. -/
theorem moveFile_edited {source target : String} (moved : files.moveFile source target = .ok after) :
    Edited files after := by
  obtain ⟨start, place, held, kept, -, -, arriving, left, course⟩ := moveFile_ok moved
  have standing : files.HoldsFile start := ⟨held, kept, left⟩
  obtain ⟨-, rfl⟩ | ⟨-, rfl⟩ := course
  · exact .refl
  · have directories := sameDirectories_remove standing.ne_root standing.free
    have removed : Edited files (files.remove start) := .single (.removed standing)
    exact removed.tail ((directories.fileable arriving).edit held kept)

/-- What an action does is not changed by what its faults are taken for. -/
theorem adapt_confined {ε ε' α : Type} {may : Files → Files → Prop} {action : FileAction ε α}
    (kind : ε → ε') (acted : Confined may action.run) : Confined may (action.adapt kind).run :=
  ⟨acted.confined⟩

/-- A change that fails is none. -/
theorem change_confined {step : Files → Except OsError Files}
    (edited : ∀ {files after}, step files = .ok after → Edited files after) :
    Confined Edited (change step).run := by
  refine ⟨fun files => ?_⟩
  rw [change, get_ran]
  split
  case h_1 made => exact edited made
  case h_2 => exact .refl

/-- The directories above a path are made by edits, as far as they are made. -/
theorem makeParents_confined (path : String) : Confined Edited (makeParents path).run := by
  rw [makeParents]
  split
  case h_1 parent _ =>
    cases parent.isEmpty with
    | true => exact pure_confined (Except.ok ())
    | false => exact adapt_confined _ ⟨fun _ => makeDirectories_edited rfl⟩
  case h_2 => exact pure_confined (Except.ok ())

/-- A write of a whole file, however it ends, comes to edits: directories are made, a file is written
beside the path, and it is moved there. Any of the three may be the last. -/
theorem writeWhole_confined (path : String) (content : List UInt8) :
    Confined Edited (writeWhole path content).run := by
  rw [writeWhole_eq]
  refine .follow (makeParents_confined path) fun _ => .follow ?_ fun _ => ?_
  · exact adapt_confined _ (change_confined fun written => .single (writeFile_edit written))
  · exact adapt_confined _ (change_confined moveFile_edited)

end Edit
end SchemaBindings.Files
