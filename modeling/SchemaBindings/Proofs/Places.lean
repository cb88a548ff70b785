import Mathlib.Data.List.TakeWhile
import SchemaBindings.Proofs.Parsing
import SchemaBindings.Workspace.Atomic

/-!
# Where writes land

The location of a path that can be looked up depends on nothing but its text and the
working directory, as there is nothing in a workspace that leads elsewhere. A write of a
whole file that succeeds changes the contents at two locations: the new content stands
at the place of its path, and nothing at the place beside it where it was written at
first. Directories may have been made on the way, and they replace nothing.
-/
namespace SchemaBindings.Files

/-- The location to which one name leads from another one. -/
def turn (place : Location) (name : String) : Location :=
  if Path.isFiller name then place else if name == ".." then place.dropLast else place ++ [name]

/-- The location that a path names, if it can be looked up. -/
def placeOf (files : Files) (path : String) : Location :=
  (Path.segments path).foldl turn (files.startOf path)

/-- The content of the file at a location. -/
def content? (files : Files) (location : Location) : Option (List UInt8) :=
  match files.entry? location with
  | some (.file content _) => some content
  | _ => none

section Entries

variable {files : Files} {location : Location}

/-- An entry is found where it has been put, and the others where they were. -/
theorem lookup_putEntry (entries : List (Location × Entry)) (location : Location) (entry : Entry)
    (other : Location) :
    (putEntry location entry entries).lookup other =
      if other = location then some entry else entries.lookup other := by
  induction entries with
  | nil =>
    by_cases asked : other = location <;>
      simp [putEntry, asked, List.lookup_cons, beq_false_of_ne]
  | cons first rest inductionHypothesis =>
    obtain ⟨present, old⟩ := first
    rw [putEntry]
    by_cases here : present = location
    · subst here
      by_cases asked : other = present <;> simp [asked, List.lookup_cons, beq_false_of_ne]
    · rw [if_neg here, List.lookup_cons, inductionHypothesis, List.lookup_cons]
      by_cases asked : other = present
      · simp [asked, here]
      · simp [beq_false_of_ne asked]

/-- Only the entries at locations that are kept are found. -/
theorem lookup_filter (keep : Location → Bool) (entries : List (Location × Entry))
    (other : Location) :
    (entries.filter fun entry => keep entry.1).lookup other =
      if keep other = true then entries.lookup other else none := by
  induction entries with
  | nil => simp
  | cons first rest inductionHypothesis =>
    obtain ⟨present, old⟩ := first
    by_cases kept : keep present = true
    · rw [List.filter_cons_of_pos (by exact kept), List.lookup_cons, inductionHypothesis,
        List.lookup_cons]
      by_cases asked : other = present
      · simp [asked, kept]
      · simp [beq_false_of_ne asked]
    · rw [List.filter_cons_of_neg (by exact kept), inductionHypothesis, List.lookup_cons]
      by_cases asked : other = present
      · simp [asked, kept]
      · simp [beq_false_of_ne asked]

/-- Nothing is found where entries have been removed, and the others are found where they were. -/
theorem lookup_removed (entries : List (Location × Entry)) (location other : Location) :
    (entries.filter fun entry => entry.1 != location).lookup other =
      if other = location then none else entries.lookup other := by
  rw [lookup_filter fun present => present != location]
  by_cases asked : other = location <;> simp [asked]

/-- What stands at the locations of a workspace after an entry is put, which is not the root. -/
theorem entry?_put (named : location ≠ []) (entry : Entry) (other : Location) :
    entry? (files.put location entry) other =
      if other = location then some entry else files.entry? other := by
  unfold entry?
  rw [put, lookup_putEntry]
  by_cases root : other = []
  · simp [root, Ne.symm named]
  · simp [root]

/-- Nothing is found where something has been taken away, and the others are found where they were.
-/
theorem entry?_remove (named : location ≠ []) (other : Location) :
    entry? (files.remove location) other =
      if other = location then none else files.entry? other := by
  unfold entry?
  rw [remove, lookup_removed]
  by_cases root : other = []
  · simp [root, Ne.symm named]
  · simp [root]

/-- A file that has been put somewhere has its content there. -/
theorem content?_put (named : location ≠ []) (content : List UInt8) (executable : Bool)
    (other : Location) :
    (files.put location (.file content executable)).content? other =
      if other = location then some content else files.content? other := by
  rw [content?, entry?_put named]
  by_cases here : other = location <;> simp [here, content?]

/-- A file that has been taken away has no content any more. -/
theorem content?_remove (named : location ≠ []) (other : Location) :
    (files.remove location).content? other =
      if other = location then none else files.content? other := by
  rw [content?, entry?_remove named]
  by_cases here : other = location <;> simp [here, content?]

end Entries

section Lookup

variable {files : Files} {path name : String} {spot : Spot}

/-- Follow one name. -/
def enter (files : Files) (place : Location) (name : String) : Except OsError Location :=
  if !files.hasDirectory place then .error .notDirectory
  else if Path.isFiller name || name == ".." then .ok (turn place name)
  else if nameLimit < name.utf8ByteSize then .error .nameTooLong
  else if files.entry? (turn place name) = none then .error .noEntry
  else .ok (turn place name)

/-- Names are followed one by one. -/
theorem walk_cons (files : Files) (place : Location) (name : String) (names : List String) :
    files.walk place (name :: names) = files.enter place name >>= (files.walk · names) := by
  rw [walk, enter, turn]
  by_cases stands : (!files.hasDirectory place) = true
  · rw [if_pos stands, if_pos stands]
    rfl
  · rw [if_neg stands, if_neg stands]
    by_cases filler : Path.isFiller name = true
    · simp [filler, bind, Except.bind]
    · by_cases upwards : (name == "..") = true
      · simp [filler, upwards, bind, Except.bind]
      · simp only [filler, upwards, Bool.or_self, if_false, Bool.false_eq_true]
        split
        · rfl
        · cases files.entry? (place ++ [name]) <;> rfl

/-- A name that can be followed leads to its location, out of a directory. -/
theorem enter_ok {place location : Location} (entered : files.enter place name = .ok location) :
    location = turn place name ∧ files.hasDirectory place = true := by
  rw [enter] at entered
  split at entered
  · contradiction
  · rename_i stands
    refine ⟨?_, by simpa using stands⟩
    split at entered
    · exact (Except.ok.inj entered).symm
    · split at entered
      · contradiction
      · split at entered
        · contradiction
        · exact (Except.ok.inj entered).symm

/-- Names that can be followed begin with one that leads to where the others can be followed. -/
theorem walk_cons_ok {place location : Location} {names : List String}
    (walked : files.walk place (name :: names) = .ok location) :
    files.enter place name = .ok (turn place name) ∧ files.hasDirectory place = true ∧
      files.walk (turn place name) names = .ok location := by
  rw [walk_cons] at walked
  cases entered : files.enter place name with
  | error error => simp [entered, bind, Except.bind] at walked
  | ok reached =>
    rw [entered] at walked
    obtain ⟨rfl, stands⟩ := enter_ok entered
    exact ⟨rfl, stands, walked⟩

/-- Names that can be followed lead to their location. -/
theorem walk_ok {place location : Location} {names : List String}
    (walked : files.walk place names = .ok location) : location = names.foldl turn place := by
  induction names generalizing place with
  | nil => exact (Except.ok.inj walked).symm
  | cons name names inductionHypothesis =>
    exact inductionHypothesis (walk_cons_ok walked).2.2

/-- More names are followed from where the first have led. -/
theorem walk_append (files : Files) (place : Location) (names more : List String) :
    files.walk place (names ++ more) = files.walk place names >>= (files.walk · more) := by
  induction names generalizing place with
  | nil => rfl
  | cons name names inductionHypothesis =>
    rw [List.cons_append, walk_cons, walk_cons]
    cases files.enter place name with
    | error error => rfl
    | ok reached => exact inductionHypothesis reached

/-- Names that do not count lead nowhere else. -/
theorem foldl_turn_fillers {names : List String} (place : Location)
    (fillers : ∀ name ∈ names, Path.isFiller name) : names.foldl turn place = place := by
  induction names with
  | nil => rfl
  | cons name names inductionHypothesis =>
    rw [List.foldl_cons, turn, if_pos (fillers name (by simp))]
    exact inductionHypothesis fun other member => fillers other (by simp [member])

/-- The names of a path are those above its last one that is not empty, this one, and empty ones. -/
theorem segments_eq {last : String} {above : List String}
    (backwards : (Path.segments path).reverse.dropWhile String.isEmpty = last :: above) :
    ∃ empty, Path.segments path = above.reverse ++ last :: empty ∧
      (∀ name ∈ empty, Path.isFiller name) ∧ last.isEmpty = false := by
  refine ⟨((Path.segments path).reverse.takeWhile String.isEmpty).reverse, ?_, ?_, ?_⟩
  · rw [← List.singleton_append, ← List.append_assoc, ← List.reverse_cons, ← backwards,
      ← List.reverse_append, List.takeWhile_append_dropWhile, List.reverse_reverse]
  · intro name member
    have none := List.mem_takeWhile_imp (List.mem_reverse.mp member)
    simp [Path.isFiller, none]
  · have first := List.head?_dropWhile_not String.isEmpty (Path.segments path).reverse
    simpa [backwards] using first

/-- The spot of a path has a name exactly if this is the last name of the path, which is of the
usual kind, and the names above it lead to a directory. -/
theorem spotOf_named_iff {directory : Location} {slash : Bool} :
    files.spotOf path = .ok ⟨directory, some name, slash⟩ ↔
      checkPath path = .ok () ∧ slash = ((Path.segments path).reverse.head? == some "") ∧
        name ≠ "." ∧ name ≠ ".." ∧ name.utf8ByteSize ≤ nameLimit ∧
        files.hasDirectory directory = true ∧
        ∃ above, (Path.segments path).reverse.dropWhile String.isEmpty = name :: above ∧
          files.walk (files.startOf path) above.reverse = .ok directory := by
  generalize slashed : ((Path.segments path).reverse.head? == some "") = ending
  simp only [spotOf, slashed]
  cases checked : checkPath path with
  | error error => simp [bind, Except.bind]
  | ok _ =>
    simp only [bind, Except.bind, true_and]
    cases backwards : (Path.segments path).reverse.dropWhile String.isEmpty with
    | nil => simp [pure, Except.pure]
    | cons last above =>
      cases walked : files.walk (files.startOf path) above.reverse with
      | error error => simp [walked]
      | ok within =>
        simp only [walked]
        constructor
        · intro found
          split at found
          · contradiction
          · rename_i stands
            split at found
            · cases found
            · rename_i usual
              split at found
              · contradiction
              · rename_i short
                cases found
                simp only [Bool.or_eq_true, beq_iff_eq, not_or] at usual
                exact ⟨rfl, usual.1, usual.2, by omega, by simpa using stands, above, rfl, walked⟩
        · rintro ⟨rfl, point, upwards, short, stands, others, same, reached⟩
          obtain ⟨rfl, rfl⟩ := List.cons.inj same
          obtain rfl := Except.ok.inj (walked.symm.trans reached)
          simp [stands, point, upwards, Nat.not_lt.mpr short, pure, Except.pure]

/-- What is put into files does not change where paths lead: this depends on their text alone. -/
@[simp] theorem placeOf_put (location : Location) (entry : Entry) (path : String) :
    (files.put location entry).placeOf path = files.placeOf path := rfl

/-- A spot with a name is the location of its path. -/
theorem spotOf_place {directory : Location} {slash : Bool}
    (found : files.spotOf path = .ok ⟨directory, some name, slash⟩) :
    directory ++ [name] = files.placeOf path := by
  obtain ⟨_, _, point, upwards, _, _, above, backwards, walked⟩ := spotOf_named_iff.mp found
  obtain ⟨empty, parts, fillers, named⟩ := segments_eq backwards
  rw [placeOf, parts, List.foldl_append, List.foldl_cons, foldl_turn_fillers _ fillers,
    ← walk_ok walked]
  simp [turn, Path.isFiller, named, point, upwards]

end Lookup

/-- Files to which at most directories have been added, where nothing stood. -/
structure Extends (before after : Files) : Prop where
  workingDirectory : after.workingDirectory = before.workingDirectory
  entry : ∀ location, after.entry? location = before.entry? location ∨
    before.entry? location = none ∧ after.entry? location = some .directory

namespace Extends

variable {files before between after : Files}

/-- Without a new directory, files extend themselves. -/
theorem refl (files : Files) : Extends files files := ⟨rfl, fun _ => .inl rfl⟩

/-- Directories may be made at several times. -/
theorem trans (first : Extends before between) (second : Extends between after) :
    Extends before after := by
  refine ⟨second.workingDirectory.trans first.workingDirectory, fun location => ?_⟩
  rcases first.entry location with same | ⟨none, directory⟩
  · rw [← same]
    exact second.entry location
  · rcases second.entry location with same | ⟨missing, _⟩
    · exact .inr ⟨none, same.trans directory⟩
    · rw [directory] at missing
      contradiction

/-- No content changes. -/
theorem content? (extended : Extends before after) (location : Location) :
    after.content? location = before.content? location := by
  rcases extended.entry location with same | ⟨none, directory⟩
  · rw [Files.content?, same, Files.content?]
  · rw [Files.content?, directory, Files.content?, none]

/-- A path names the place that it named. -/
theorem placeOf (extended : Extends before after) (path : String) :
    after.placeOf path = before.placeOf path := by
  rw [Files.placeOf, startOf, extended.workingDirectory, Files.placeOf, startOf]

end Extends

section Directories

variable {files after : Files} {path : String}

/-- A directory is made where nothing stands. -/
theorem makeDirectory_extends (made : files.makeDirectory path = .ok after) :
    Extends files after := by
  rw [makeDirectory] at made
  rcases found : files.spotOf path with error | ⟨directory, name, slash⟩
  · simp [found, bind, Except.bind] at made
  · simp only [found, bind, Except.bind] at made
    cases name with
    | none => contradiction
    | some name =>
      dsimp only at made
      split at made
      · contradiction
      · rename_i none
        obtain rfl := Except.ok.inj made
        refine ⟨rfl, fun location => ?_⟩
        rw [entry?_put (by simp)]
        by_cases here : location = directory ++ [name]
        · exact .inr ⟨by rw [here, none], by rw [if_pos here]⟩
        · exact .inl (by rw [if_neg here])

/-- An action that looks at the files goes on with them. -/
theorem get_ran {ε α : Type} (next : Files → FileAction ε α) (files : Files) :
    (get >>= next).run.run files = (next files).run.run files := rfl

/-- A fault is no matter if there is a directory, and nothing is done about it otherwise. -/
theorem unless_isDirectory {fault : OsError} {result : Except OsError Unit}
    (ended : (do unless (← get).isDirectory path do throw fault :
      FileAction OsError Unit).run.run files = (result, after)) :
    after = files ∧ (files.isDirectory path = true → result = .ok ()) := by
  rw [get_ran] at ended
  cases directory : files.isDirectory path with
  | true =>
    rw [directory] at ended
    obtain ⟨rfl, rfl⟩ := Prod.mk.inj ended
    exact ⟨rfl, fun _ => rfl⟩
  | false =>
    rw [directory] at ended
    obtain ⟨rfl, rfl⟩ := Prod.mk.inj ended
    exact ⟨rfl, fun given => nomatch given⟩

/-- Whether or not all directories can be made, nothing else is done. -/
theorem makeDirectories_extends {paths : List String} {result : Except OsError Unit}
    (ended : (makeDirectories paths).run.run files = (result, after)) : Extends files after := by
  induction paths generalizing files result after with
  | nil =>
    obtain ⟨-, rfl⟩ := Prod.mk.inj ended
    exact .refl files
  | cons path above inductionHypothesis =>
    rw [makeDirectories, get_ran] at ended
    split at ended
    · rename_i made
      obtain ⟨-, rfl⟩ := Prod.mk.inj ended
      exact makeDirectory_extends made
    · obtain ⟨_, failed, -⟩ | ⟨_, between, provided, again⟩ := ran_cases ended
      · exact inductionHypothesis failed
      · have extended := inductionHypothesis provided
        rw [get_ran] at again
        split at again
        · rename_i made
          obtain ⟨-, rfl⟩ := Prod.mk.inj again
          exact extended.trans (makeDirectory_extends made)
        · obtain ⟨rfl, -⟩ := unless_isDirectory again
          exact extended
    · obtain ⟨rfl, -⟩ := unless_isDirectory ended
      exact .refl _

end Directories

section Writing

variable {files after : Files} {path source target : String} {content : List UInt8}

/-- A path at which a file can be written: its spot has a name, and no directory stands there. -/
def Fileable (files : Files) (path : String) (location : Location) : Prop :=
  ∃ directory name, files.spotOf path = .ok ⟨directory, some name, false⟩ ∧
    files.hasDirectory (directory ++ [name]) = false ∧ location = directory ++ [name]

/-- A file can be put only where its path leads. -/
theorem Fileable.eq_placeOf {location : Location} (fileable : files.Fileable path location) :
    location = files.placeOf path := by
  obtain ⟨_, _, found, _, rfl⟩ := fileable
  exact spotOf_place found

/-- A file cannot be put in the place of the root, which has no name. -/
theorem Fileable.ne_root {location : Location} (fileable : files.Fileable path location) :
    location ≠ [] := by
  obtain ⟨_, _, _, _, rfl⟩ := fileable
  simp

/-- A write puts a file at the location of its path. -/
theorem writeFile_of_fileable {location : Location} (fileable : files.Fileable path location)
    (content : List UInt8) :
    ∃ executable, files.writeFile path content =
      .ok (files.put location (.file content executable)) := by
  obtain ⟨directory, name, found, free, rfl⟩ := fileable
  rw [hasDirectory] at free
  simp only [writeFile, found, bind, Except.bind]
  cases standing : files.entry? (directory ++ [name]) with
  | none => exact ⟨false, rfl⟩
  | some entry =>
    cases entry with
    | directory => simp [standing] at free
    | file _ executable => exact ⟨executable, rfl⟩

/-- Only a write at a path for a file succeeds. -/
theorem fileable_of_writeFile (written : files.writeFile path content = .ok after) :
    ∃ location, files.Fileable path location := by
  rw [writeFile] at written
  rcases found : files.spotOf path with error | ⟨directory, name, slash⟩
  · simp [found, bind, Except.bind] at written
  · simp only [found, bind, Except.bind] at written
    cases name with
    | none => contradiction
    | some name =>
      dsimp only at written
      split at written
      · contradiction
      · rename_i plain
        obtain rfl : slash = false := by simpa using plain
        refine ⟨_, directory, name, found, ?_, rfl⟩
        split at written
        · contradiction
        · rename_i standing
          simp [hasDirectory, standing]
        · rename_i standing
          simp [hasDirectory, standing]

/-- A move that succeeds takes a file from one place to another, where no directory stands. -/
theorem moveFile_ok (moved : files.moveFile source target = .ok after) :
    ∃ start place held executable, start ≠ [] ∧ start = files.placeOf source ∧
      files.Fileable target place ∧ files.entry? start = some (.file held executable) ∧
      (start = place ∧ after = files ∨
        start ≠ place ∧ after = (files.remove start).put place (.file held executable)) := by
  rw [moveFile] at moved
  rcases left : files.spotOf source with _ | ⟨before, sourceName, sourceSlash⟩
  · simp [left, bind, Except.bind] at moved
  rcases right : files.spotOf target with _ | ⟨above, targetName, targetSlash⟩
  · simp [left, right, bind, Except.bind] at moved
  simp only [left, right, bind, Except.bind] at moved
  split at moved
  · rename_i leaving arriving
    split at moved
    · rename_i held executable standing
      split at moved
      · contradiction
      · rename_i plain
        obtain ⟨rfl, rfl⟩ : sourceSlash = false ∧ targetSlash = false := by simpa using plain
        have start := spotOf_place left
        split at moved
        · rename_i same
          obtain rfl := Except.ok.inj moved
          refine ⟨_, _, held, executable, by simp, start, ⟨above, arriving, right, ?_, rfl⟩,
            standing, .inl ⟨same, rfl⟩⟩
          rw [← same, hasDirectory, standing]
          rfl
        · rename_i apart
          split at moved
          · contradiction
          · rename_i free
            obtain rfl := Except.ok.inj moved
            exact ⟨_, _, held, executable, by simp, start,
              ⟨above, arriving, right, by simpa using free, rfl⟩, standing, .inr ⟨apart, rfl⟩⟩
    · contradiction
    · contradiction
  · contradiction

end Writing

section Whole

variable {before after : Files} {path : String} {content : List UInt8}

/-- A step that is about a path does what it does by itself. -/
theorem about_ran {α : Type} {action : FileAction OsError α} {result : Except FileError α}
    (ended : (about path action).run.run before = (result, after)) :
    ∃ own, action.run.run before = (own, after) ∧
      result = own.mapError fun cause => ⟨path, cause⟩ := by
  obtain ⟨rfl, rfl⟩ := Prod.mk.inj ended
  exact ⟨_, rfl, rfl⟩

/-- An action that succeeds does so whatever its faults are taken for. -/
theorem adapt_of_ok {ε ε' α : Type} {kind : ε → ε'} {action : FileAction ε α} {value : α}
    (ran : action.run.run before = (.ok value, after)) :
    (action.adapt kind).run.run before = (.ok value, after) := by
  change ((action.run.run before).1.mapError kind, (action.run.run before).2) = _
  rw [ran]
  rfl

/-- An action that succeeds when its faults are taken for others succeeds by itself. -/
theorem ok_of_adapt {ε ε' α : Type} {kind : ε → ε'} {action : FileAction ε α} {value : α}
    (adapted : (action.adapt kind).run.run before = (.ok value, after)) :
    action.run.run before = (.ok value, after) := by
  change ((action.run.run before).1.mapError kind, (action.run.run before).2) = _ at adapted
  rcases ran : action.run.run before with ⟨result, left⟩
  rw [ran] at adapted
  cases result with
  | error error => exact absurd (Prod.mk.inj adapted).1 nofun
  | ok given =>
    obtain ⟨same, rfl⟩ := Prod.mk.inj adapted
    obtain rfl := Except.ok.inj same
    rfl

/-- A change is what its step makes of the files, and no change if the step fails. -/
theorem about_change_cases {step : Files → Except OsError Files} {result : Except FileError Unit}
    (ended : (about path (change step)).run.run before = (result, after)) :
    (∃ cause, step before = .error cause ∧ result = .error ⟨path, cause⟩ ∧ after = before) ∨
      step before = .ok after ∧ result = .ok () := by
  obtain ⟨own, ran, rfl⟩ := about_ran ended
  rw [change, get_ran] at ran
  split at ran
  · rename_i changed
    obtain ⟨rfl, rfl⟩ := Prod.mk.inj ran
    exact .inr ⟨changed, rfl⟩
  · rename_i cause failed
    obtain ⟨rfl, rfl⟩ := Prod.mk.inj ran
    exact .inl ⟨cause, failed, rfl, rfl⟩

/-- A change that its step allows is made. -/
theorem about_change_of_ok {step : Files → Except OsError Files} (made : step before = .ok after) :
    (about path (change step)).run.run before = (.ok (), after) := by
  refine adapt_of_ok ?_
  rw [change, get_ran, made]
  rfl

/-- The directories in which a path lies are made. -/
def makeParents (path : String) : FileAction FileError Unit :=
  match Path.parent? path with
  | some parent => unless parent.isEmpty do about parent (makeDirectories (Path.ancestors parent))
  | none => pure ()

/-- A file is written as a whole in three steps. -/
theorem writeWhole_eq (path : String) (content : List UInt8) :
    writeWhole path content = (do
      makeParents path
      about (stagingPath path) (change (·.writeFile (stagingPath path) content))
      about path (change (·.moveFile (stagingPath path) path))) := by
  rw [writeWhole, makeParents]
  cases Path.parent? path with
  | none => rfl
  | some parent =>
    dsimp only
    by_cases root : parent.isEmpty = true
    · rw [if_pos root, if_pos root]
      rfl
    · rw [if_neg root, if_neg root]

/-- To make directories is all that is done for the parents of a path. -/
theorem makeParents_extends {result : Except FileError Unit}
    (ended : (makeParents path).run.run before = (result, after)) : Extends before after := by
  rw [makeParents] at ended
  split at ended
  · rename_i parent _
    cases root : parent.isEmpty with
    | true =>
      rw [root] at ended
      obtain ⟨-, rfl⟩ := Prod.mk.inj ended
      exact .refl _
    | false =>
      rw [root] at ended
      obtain ⟨_, ended, -⟩ := about_ran ended
      exact makeDirectories_extends ended
  · obtain ⟨-, rfl⟩ := Prod.mk.inj ended
    exact .refl _

/-- What a write of a whole file that succeeds makes of the contents. -/
structure Written (path : String) (content : List UInt8) (before after : Files) : Prop where
  workingDirectory : after.workingDirectory = before.workingDirectory
  place : after.content? (before.placeOf path) = some content
  staging : before.placeOf (stagingPath path) ≠ before.placeOf path →
    after.content? (before.placeOf (stagingPath path)) = none
  elsewhere : ∀ location, location ≠ before.placeOf path →
    location ≠ before.placeOf (stagingPath path) →
    after.content? location = before.content? location

/-- A write of a whole file either ends before any file has been written, or it ends as the move
does of the file that has been written beside the path. -/
theorem writeWhole_cases {result : Except FileError Unit}
    (ended : (writeWhole path content).run.run before = (result, after)) :
    (∃ error, result = .error error ∧ Extends before after) ∨
      ∃ between staging executable, Extends before between ∧
        between.Fileable (stagingPath path) staging ∧
        (about path (change (·.moveFile (stagingPath path) path))).run.run
          (between.put staging (.file content executable)) = (result, after) := by
  rw [writeWhole_eq] at ended
  obtain ⟨error, failed, rfl⟩ | ⟨_, between, made, ended⟩ := ran_cases ended
  · exact .inl ⟨error, rfl, makeParents_extends failed⟩
  have extended := makeParents_extends made
  obtain ⟨error, failed, rfl⟩ | ⟨_, staged, written, moved⟩ := ran_cases ended
  · obtain ⟨_, _, _, rfl⟩ | ⟨_, succeeded⟩ := about_change_cases failed
    · exact .inl ⟨error, rfl, extended⟩
    · contradiction
  · obtain ⟨_, _, failed, _⟩ | ⟨written, _⟩ := about_change_cases written
    · contradiction
    obtain ⟨staging, fileable⟩ := fileable_of_writeFile written
    obtain ⟨executable, put⟩ := writeFile_of_fileable fileable content
    obtain rfl := Except.ok.inj (put.symm.trans written)
    exact .inr ⟨between, staging, executable, extended, fileable, moved⟩

/-- A write of a whole file that succeeds leaves the content at the path, nothing beside it, and
every other content as it was. If the two paths lead to the same place, nothing is said of the one
beside. -/
theorem writeWhole_ok (ended : (writeWhole path content).run.run before = (.ok (), after)) :
    Written path content before after := by
  obtain ⟨_, failed, _⟩ | ⟨first, staging, executable, extended, fileable, moved⟩ :=
    writeWhole_cases ended
  · contradiction
  obtain ⟨_, _, failed, _⟩ | ⟨moved, _⟩ := about_change_cases moved
  · contradiction
  obtain ⟨start, place, held, kept, named, begun, arriving, standing, course⟩ := moveFile_ok moved
  -- All three steps are of the same two locations: neither directories nor files move them.
  have sameStaging : staging = before.placeOf (stagingPath path) := by
    rw [fileable.eq_placeOf, extended.placeOf]
  have samePlace : place = before.placeOf path := by
    rw [arriving.eq_placeOf, placeOf_put, extended.placeOf]
  obtain rfl : staging = start := by rw [begun, placeOf_put, fileable.eq_placeOf]
  have heldContent : held = content := by
    rw [entry?_put named, if_pos rfl] at standing
    cases standing
    rfl
  subst heldContent
  rcases course with ⟨same, rfl⟩ | ⟨apart, rfl⟩
  · refine ⟨extended.workingDirectory, ?_, fun different => ?_, fun location other _ => ?_⟩
    · rw [← samePlace, content?_put named, if_pos same.symm]
    · rw [← sameStaging, ← samePlace] at different
      exact absurd same different
    · rw [content?_put named, if_neg (by rw [same, samePlace]; exact other), extended.content?]
  · have reached : place ≠ [] := arriving.ne_root
    refine ⟨extended.workingDirectory, ?_, fun _ => ?_, fun location other aside => ?_⟩
    · rw [← samePlace, content?_put reached, if_pos rfl]
    · rw [← sameStaging, content?_put reached, if_neg apart, content?_remove named, if_pos rfl]
    · rw [content?_put reached, if_neg (samePlace ▸ other), content?_remove named,
        if_neg (sameStaging ▸ aside), content?_put named, if_neg (sameStaging ▸ aside),
        extended.content?]

end Whole

end SchemaBindings.Files
