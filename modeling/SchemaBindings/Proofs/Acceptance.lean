import SchemaBindings.Proofs.Places

/-!
# Files that take every write

Whether a write of a whole file succeeds depends only on the directories: those in which
its path lies have to be there or can be made, and no directory may stand where a file is
to be. Files accept some paths if no write at one of them fails, whatever else has been
written at these paths before. They do if the directories above each path are there
already, because writes at such paths neither make directories nor take one away.
-/
namespace SchemaBindings.Files

/-- What files become by writes at some paths that succeed. -/
inductive Rewritten (paths : List String) (start : Files) : Files → Prop
  | start : Rewritten paths start start
  | write {before after : Files} {path : String} {content : List UInt8}
    (earlier : Rewritten paths start before) (member : path ∈ paths)
    (written : (writeWhole path content).run.run before = (.ok (), after)) :
    Rewritten paths start after

/-- No write at one of some paths fails, whatever has been written at these paths before. -/
def Accepting (files : Files) (paths : List String) : Prop :=
  ∀ later, Rewritten paths files later → ∀ path ∈ paths, ∀ content,
    ∃ after, (writeWhole path content).run.run later = (.ok (), after)

/-- What has been done to some files has been done to more of them, if the others are left alone. -/
theorem Rewritten.mono {few many : List String} {start after : Files}
    (rewritten : Rewritten few start after) (within : ∀ path ∈ few, path ∈ many) :
    Rewritten many start after := by
  induction rewritten with
  | start => exact .start
  | write _ member written inductionHypothesis =>
    exact .write inductionHypothesis (within _ member) written

/-- Writes to the same files, one after the other, come to writes to these files. -/
theorem Rewritten.trans {paths : List String} {start between after : Files}
    (first : Rewritten paths start between) (second : Rewritten paths between after) :
    Rewritten paths start after := by
  induction second with
  | start => exact first
  | write _ member written inductionHypothesis => exact .write inductionHypothesis member written

/-- Files that accept paths go on to do so. -/
theorem Accepting.later {paths : List String} {files after : Files}
    (accepting : files.Accepting paths) (rewritten : Rewritten paths files after) :
    after.Accepting paths :=
  fun _ more => accepting _ (rewritten.trans more)

/-- Files that accept paths accept each part of them. -/
theorem Accepting.mono {few many : List String} {files : Files} (accepting : files.Accepting many)
    (within : ∀ path ∈ few, path ∈ many) : files.Accepting few :=
  fun later rewritten path member =>
    accepting later (rewritten.mono within) path (within path member)

/-- Files with the same directories in the same places. -/
structure SameDirectories (before after : Files) : Prop where
  workingDirectory : after.workingDirectory = before.workingDirectory
  directory : ∀ location, after.hasDirectory location = before.hasDirectory location

section Lookup

variable {before after : Files} {path : String} {location place : Location}

/-- Directories that have stayed twice have stayed. -/
theorem SameDirectories.trans {between : Files} (first : SameDirectories before between)
    (second : SameDirectories between after) : SameDirectories before after :=
  ⟨second.workingDirectory.trans first.workingDirectory,
    fun location => (second.directory location).trans (first.directory location)⟩

/-- What leads to a directory starts at one. -/
theorem hasDirectory_of_walk {names : List String} (walked : before.walk place names = .ok location)
    (stands : before.hasDirectory location = true) : before.hasDirectory place = true := by
  cases names with
  | nil =>
    obtain rfl := Except.ok.inj walked
    exact stands
  | cons name names => exact (walk_cons_ok walked).2.1

/-- A name that leads from a directory to a directory does so wherever these are the same. -/
theorem SameDirectories.enter (same : SameDirectories before after) {name : String}
    (entered : before.enter place name = .ok (turn place name))
    (stands : before.hasDirectory (turn place name) = true) :
    after.enter place name = .ok (turn place name) := by
  have present : after.entry? (turn place name) ≠ none := by
    rw [← same.directory, hasDirectory, beq_iff_eq] at stands
    simp [stands]
  rw [Files.enter, same.directory]
  rw [Files.enter] at entered
  split at entered
  · contradiction
  · rename_i directory
    rw [if_neg directory]
    split at entered
    · rename_i usual
      rw [if_pos usual]
    · rename_i unusual
      rw [if_neg unusual]
      split at entered
      · contradiction
      · rename_i short
        rw [if_neg short, if_neg present]

/-- What leads to a directory leads there wherever the directories are the same. -/
theorem SameDirectories.walk (same : SameDirectories before after) {names : List String}
    (walked : before.walk place names = .ok location)
    (stands : before.hasDirectory location = true) : after.walk place names = .ok location := by
  induction names generalizing place with
  | nil => exact walked
  | cons name names inductionHypothesis =>
    obtain ⟨entered, _, later⟩ := walk_cons_ok walked
    rw [walk_cons, same.enter entered (hasDirectory_of_walk later stands)]
    exact inductionHypothesis later

/-- Paths are looked up from the same place, since the working directory is among what stays. -/
theorem SameDirectories.startOf (same : SameDirectories before after) (path : String) :
    after.startOf path = before.startOf path := by
  rw [Files.startOf, Files.startOf, same.workingDirectory]

/-- A path for a file stays one. -/
theorem SameDirectories.fileable (same : SameDirectories before after)
    (fileable : before.Fileable path location) : after.Fileable path location := by
  obtain ⟨directory, name, found, free, rfl⟩ := fileable
  obtain ⟨checked, plain, point, upwards, short, stands, above, backwards, walked⟩ :=
    spotOf_named_iff.mp found
  refine ⟨directory, name, spotOf_named_iff.mpr ⟨checked, plain, point, upwards, short, ?_, above,
    backwards, ?_⟩, (same.directory _).trans free, rfl⟩
  · exact (same.directory _).trans stands
  · rw [same.startOf]
    exact same.walk walked stands

/-- A path names a directory if it can be followed to one. -/
theorem isDirectory_iff : before.isDirectory path = true ↔
    checkPath path = .ok () ∧ ∃ location,
      before.walk (before.startOf path) (Path.segments path) = .ok location ∧
        before.hasDirectory location = true := by
  simp only [isDirectory, find?, locate, hasDirectory]
  cases checkPath path with
  | error error => simp [bind, Except.bind]
  | ok _ =>
    cases walked : before.walk (before.startOf path) (Path.segments path) with
    | error error => simp [bind, Except.bind]
    | ok reached => simp [bind, Except.bind]

/-- The name of a directory stays one. -/
theorem SameDirectories.isDirectory (same : SameDirectories before after)
    (given : before.isDirectory path = true) : after.isDirectory path = true := by
  obtain ⟨checked, location, walked, stands⟩ := isDirectory_iff.mp given
  refine isDirectory_iff.mpr ⟨checked, location, ?_, (same.directory _).trans stands⟩
  rw [same.startOf]
  exact same.walk walked stands

end Lookup

section Directories

variable {files : Files} {path : String}

/-- A name of the usual kind that can be followed leads to something. -/
theorem entry?_of_enter {place : Location} {name : String}
    (entered : files.enter place name = .ok (turn place name)) (named : name.isEmpty = false)
    (usual : ¬(name == "." || name == "..") = true) :
    ∃ entry, files.entry? (place ++ [name]) = some entry := by
  simp only [Bool.or_eq_true, beq_iff_eq, not_or] at usual
  have lead : turn place name = place ++ [name] := by
    simp [turn, Path.isFiller, named, usual.1, usual.2]
  rw [lead, enter, lead] at entered
  split at entered
  · contradiction
  · split at entered
    · rename_i unusual
      simp [Path.isFiller, named, usual.1, usual.2] at unusual
    · split at entered
      · contradiction
      · split at entered
        · contradiction
        · rename_i present
          exact Option.ne_none_iff_exists'.mp (by simpa using present)

/-- A directory that is there cannot be made, and this is not for want of another one. -/
theorem makeDirectory_of_isDirectory (present : files.isDirectory path = true) :
    ∃ fault, fault ≠ .noEntry ∧ files.makeDirectory path = .error fault := by
  obtain ⟨checked, location, walked, stands⟩ := isDirectory_iff.mp present
  simp only [makeDirectory, spotOf, checked, bind, Except.bind]
  cases backwards : (Path.segments path).reverse.dropWhile String.isEmpty with
  | nil => exact ⟨.fileExists, by decide, rfl⟩
  | cons last above =>
    obtain ⟨empty, parts, -, named⟩ := segments_eq backwards
    rw [parts, walk_append] at walked
    cases reached : files.walk (files.startOf path) above.reverse with
    | error error => simp [reached, bind, Except.bind] at walked
    | ok directory =>
      rw [reached] at walked
      obtain ⟨entered, within, -⟩ := walk_cons_ok walked
      simp only [reached, within, Bool.not_true, Bool.false_eq_true, if_false]
      by_cases unusual : (last == "." || last == "..") = true
      · rw [if_pos unusual]
        exact ⟨.fileExists, by decide, rfl⟩
      · rw [if_neg unusual]
        by_cases long : nameLimit < last.utf8ByteSize
        · rw [if_pos long]
          exact ⟨.nameTooLong, by decide, rfl⟩
        · rw [if_neg long]
          obtain ⟨entry, standing⟩ := entry?_of_enter entered named unusual
          dsimp only [pure, Except.pure]
          rw [standing]
          exact ⟨.fileExists, by decide, rfl⟩

/-- Directories that are there need not be made. -/
theorem makeDirectories_of_isDirectory (present : files.isDirectory path = true)
    (above : List String) : (makeDirectories (path :: above)).run.run files = (.ok (), files) := by
  obtain ⟨fault, other, refused⟩ := makeDirectory_of_isDirectory present
  rw [makeDirectories, get_ran, refused]
  split
  · contradiction
  · rename_i same
    exact absurd (Except.error.inj same) other
  · rename_i same
    rw [get_ran, present]
    rfl

end Directories

section Ready

variable {files after : Files} {path source target : String} {location start place : Location}

/-- Where nothing is done, the directories stay. -/
theorem SameDirectories.refl (files : Files) : SameDirectories files files :=
  ⟨rfl, fun _ => rfl⟩

/-- A file in the place of nothing or of a file changes no directory. -/
theorem sameDirectories_put (named : location ≠ []) (free : files.hasDirectory location = false)
    (content : List UInt8) (executable : Bool) :
    SameDirectories files (files.put location (.file content executable)) := by
  refine ⟨rfl, fun other => ?_⟩
  rw [hasDirectory, entry?_put named]
  by_cases here : other = location
  · rw [if_pos here, here, free]
    rfl
  · rw [if_neg here, hasDirectory]

/-- To take away what is no directory leaves the directories as they are. -/
theorem sameDirectories_remove (named : location ≠ [])
    (free : files.hasDirectory location = false) :
    SameDirectories files (files.remove location) := by
  refine ⟨rfl, fun other => ?_⟩
  rw [hasDirectory, entry?_remove named]
  by_cases here : other = location
  · rw [if_pos here, here, free]
    rfl
  · rw [if_neg here, hasDirectory]

/-- Where a file can be put, there is no directory in its way. -/
theorem Fileable.free (fileable : files.Fileable path location) :
    files.hasDirectory location = false := by
  obtain ⟨_, _, _, free, rfl⟩ := fileable
  exact free

/-- A file is moved to a path for a file, and no directory changes. -/
theorem moveFile_of_fileable {content : List UInt8} {executable : Bool}
    (leaving : files.Fileable source start) (arriving : files.Fileable target place)
    (standing : files.entry? start = some (.file content executable)) :
    ∃ after, files.moveFile source target = .ok after ∧ SameDirectories files after := by
  have removed := sameDirectories_remove leaving.ne_root leaving.free
  have put := sameDirectories_put arriving.ne_root ((removed.directory place).trans arriving.free)
    content executable
  have free := arriving.free
  obtain ⟨before, sourceName, left, _, rfl⟩ := leaving
  obtain ⟨above, targetName, right, _, rfl⟩ := arriving
  simp only [moveFile, left, right, bind, Except.bind, standing, Bool.or_self, Bool.false_eq_true,
    if_false, free]
  split
  · exact ⟨_, rfl, .refl files⟩
  · exact ⟨_, rfl, removed.trans put⟩

/-- A path at which a file can be written as a whole without making directories. -/
structure Ready (files : Files) (path : String) : Prop where
  parents : ∀ parent, Path.parent? path = some parent → parent.isEmpty = false →
    files.isDirectory parent = true
  place : ∃ location, files.Fileable path location
  staging : ∃ location, files.Fileable (stagingPath path) location

/-- Whether a file can be written at some path, as it can be computed. -/
def takesFile (files : Files) (path : String) : Bool :=
  match files.spotOf path with
  | .ok ⟨directory, some name, false⟩ => !files.hasDirectory (directory ++ [name])
  | _ => false

/-- A path takes a file exactly if there is a location for it. The test is one on paths and the
condition one on locations. -/
theorem takesFile_iff : files.takesFile path = true ↔ ∃ location, files.Fileable path location := by
  rw [takesFile]
  constructor
  · intro taken
    split at taken
    · rename_i directory name found
      exact ⟨_, directory, name, found, by simpa using taken, rfl⟩
    · contradiction
  · rintro ⟨_, directory, name, found, free, rfl⟩
    rw [found]
    simp [free]

instance : Decidable (files.Ready path) :=
  decidable_of_iff ((∀ parent ∈ Path.parent? path, parent.isEmpty = false →
      files.isDirectory parent = true) ∧
    files.takesFile path = true ∧ files.takesFile (stagingPath path) = true)
    ⟨fun ⟨parents, place, staging⟩ => ⟨parents, takesFile_iff.mp place, takesFile_iff.mp staging⟩,
      fun ready => ⟨ready.parents, takesFile_iff.mpr ready.place, takesFile_iff.mpr ready.staging⟩⟩

/-- A path that is ready is so wherever the directories are the same. -/
theorem Ready.same (ready : files.Ready path) (same : SameDirectories files after) :
    after.Ready path where
  parents parent found named := same.isDirectory (ready.parents parent found named)
  place := ready.place.imp fun _ => same.fileable
  staging := ready.staging.imp fun _ => same.fileable

/-- The directories of a path that is ready need not be made. -/
theorem Ready.makeParents (ready : files.Ready path) :
    (makeParents path).run.run files = (.ok (), files) := by
  rw [Files.makeParents]
  split
  · rename_i parent found
    cases root : parent.isEmpty with
    | true => rfl
    | false =>
      have present := ready.parents parent found root
      have made : (makeDirectories (Path.ancestors parent)).run.run files = (.ok (), files) := by
        rw [Path.ancestors, Path.ancestorsWithin]
        split
        · rfl
        · rw [root]
          exact makeDirectories_of_isDirectory present _
      exact adapt_of_ok made
  · rfl

/-- A file is written as a whole at a path that is ready, and no directory changes. -/
theorem Ready.writeWhole (ready : files.Ready path) (content : List UInt8) :
    ∃ after, (writeWhole path content).run.run files = (.ok (), after) ∧
      SameDirectories files after := by
  obtain ⟨start, leaving⟩ := ready.staging
  obtain ⟨place, arriving⟩ := ready.place
  obtain ⟨executable, written⟩ := writeFile_of_fileable leaving content
  have staged := sameDirectories_put leaving.ne_root leaving.free content executable
  obtain ⟨after, moved, kept⟩ := moveFile_of_fileable (staged.fileable leaving)
    (staged.fileable arriving) (by rw [entry?_put leaving.ne_root, if_pos rfl])
  refine ⟨after, ?_, staged.trans kept⟩
  rw [writeWhole_eq, ran_ok ready.makeParents, ran_ok (about_change_of_ok written)]
  exact about_change_of_ok moved

/-- Files accept paths that are ready. -/
theorem accepting_of_ready {paths : List String} (ready : ∀ path ∈ paths, files.Ready path) :
    files.Accepting paths := by
  have same : ∀ later, Rewritten paths files later → SameDirectories files later := by
    intro later rewritten
    induction rewritten with
    | start => exact .refl files
    | write _ member written inductionHypothesis =>
      obtain ⟨after, ended, kept⟩ := ((ready _ member).same inductionHypothesis).writeWhole _
      obtain ⟨-, rfl⟩ := Prod.mk.inj (ended.symm.trans written)
      exact inductionHypothesis.trans kept
  intro later rewritten path member content
  obtain ⟨after, ended, -⟩ := ((ready path member).same (same later rewritten)).writeWhole content
  exact ⟨after, ended⟩

end Ready

end SchemaBindings.Files
