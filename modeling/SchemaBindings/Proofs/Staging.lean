import SchemaBindings.Proofs.Acceptance

/-!
# What a write leaves beside its path

A file is written beside its path and then moved there. This takes three steps, any of
which can fail, and what stands at the path is the old file until the last one succeeds.
The file beside it is another matter. It has a name of its own, made from that of the path,
and whatever file has this name already is overwritten and then moved away. And if a
directory stands in the way of the last step, or the path goes on with a slash, nobody
takes the new file away again.
-/
namespace SchemaBindings

namespace Path

/-- No segment of a path has a slash. -/
theorem slashless_of_mem_splitSlashes {characters pending : List Char} {segment : String}
    (free : '/' ∉ pending) (member : segment ∈ splitSlashes characters pending) :
    '/' ∉ segment.toList := by
  fun_induction splitSlashes characters pending with
  | case1 pending =>
    obtain rfl := List.mem_singleton.mp member
    simpa using free
  | case2 rest pending inductionHypothesis =>
    rcases List.mem_cons.mp member with rfl | later
    · simpa using free
    · exact inductionHypothesis List.not_mem_nil later
  | case3 character rest pending slash inductionHypothesis =>
    exact inductionHypothesis (by simpa [free] using Ne.symm slash) member

/-- A text without slashes is one segment. -/
theorem splitSlashes_of_slashless {characters : List Char} (free : '/' ∉ characters)
    (pending : List Char) :
    splitSlashes characters pending = [.ofList (pending.reverse ++ characters)] := by
  induction characters generalizing pending with
  | nil => rw [splitSlashes, List.append_nil]
  | cons character rest inductionHypothesis =>
    obtain ⟨slash, rest⟩ := not_or.mp (List.mem_cons.not.mp free)
    rw [splitSlashes, inductionHypothesis rest, List.reverse_cons, List.append_assoc,
      List.singleton_append]
    exact Ne.symm slash

/-- What follows a slash is split by itself. -/
theorem splitSlashes_append (before after pending : List Char) :
    splitSlashes (before ++ '/' :: after) pending =
      splitSlashes before pending ++ splitSlashes after [] := by
  fun_induction splitSlashes before pending with
  | case1 pending => rw [List.nil_append, splitSlashes, List.singleton_append]
  | case2 rest pending inductionHypothesis =>
    rw [List.cons_append, splitSlashes, inductionHypothesis, List.cons_append]
  | case3 character rest pending slash inductionHypothesis =>
    rw [List.cons_append, splitSlashes, inductionHypothesis]
    exact slash

/-- A name that is put behind a path is its last segment. -/
theorem segments_join (base : String) {name : String} (free : '/' ∉ name.toList) :
    ∃ above, segments (join base name) = above ++ [name] := by
  have whole : splitSlashes name.toList [] = [name] := by
    simp [splitSlashes_of_slashless free]
  have relative : isAbsolute name = false := by
    rw [isAbsolute, beq_eq_false_iff_ne]
    exact fun first => free (List.mem_of_mem_head? first)
  rw [join, relative, if_neg Bool.false_ne_true]
  split
  · exact ⟨[], whole⟩
  · rename_i ending
    obtain ⟨before, split⟩ := List.getLast?_eq_some_iff.mp ending
    refine ⟨splitSlashes before [], ?_⟩
    rw [segments, String.toList_append, split, List.append_assoc, List.singleton_append,
      splitSlashes_append, whole]
  · refine ⟨splitSlashes base.toList [], ?_⟩
    rw [segments, String.toList_append, String.toList_append, List.append_assoc]
    exact (splitSlashes_append _ _ _).trans (congrArg _ whole)

/-- Segments of which some count are those in front of the last one of these, this one, and others
that do not count. -/
theorem eq_of_dropWhile_reverse {parts above : List String} {name : String}
    (counted : parts.reverse.dropWhile isFiller = name :: above) :
    ∃ fillers, parts = above.reverse ++ name :: fillers ∧
      (∀ segment ∈ fillers, isFiller segment = true) ∧ isFiller name = false := by
  refine ⟨(parts.reverse.takeWhile isFiller).reverse, ?_, fun segment member => ?_, ?_⟩
  · rw [← List.singleton_append, ← List.append_assoc, ← List.reverse_cons, ← counted,
      ← List.reverse_append, List.takeWhile_append_dropWhile, List.reverse_reverse]
  · exact List.mem_takeWhile_imp (List.mem_reverse.mp member)
  · have first := List.head?_dropWhile_not isFiller parts.reverse
    simpa [counted] using first

/-- The body of a path has the segments of the path, but for one in front that does not count. -/
theorem segments_of_body {path name : String} {above fillers : List String}
    (counts : isFiller name = false) (body : (headAndBody path).2 = above ++ name :: fillers) :
    ∃ before, segments path = before ++ name :: fillers := by
  have empty : isFiller "" = true := rfl
  rw [headAndBody] at body
  split at body
  · rename_i rest characters
    refine ⟨"" :: above, ?_⟩
    rw [segments, characters, splitSlashes]
    exact congrArg ("" :: ·) body
  · cases above with
    | nil =>
      obtain ⟨rfl, -⟩ := List.cons.inj body
      rw [empty] at counts
      contradiction
    | cons first above => simp at body
  · rename_i rest characters
    cases above with
    | nil =>
      obtain ⟨rfl, -⟩ := List.cons.inj body
      rw [empty] at counts
      contradiction
    | cons first above =>
      refine ⟨"." :: above, ?_⟩
      rw [segments, characters, splitSlashes, splitSlashes]
      · exact congrArg ("." :: ·) (List.cons.inj body).2
      · decide
  · exact ⟨above, body⟩

/-- The name of a file is the last segment of its path that counts, and it is a name of the usual
kind. -/
theorem segments_of_fileName? {path name : String} (named : fileName? path = some name) :
    ∃ above fillers, segments path = above ++ name :: fillers ∧
      (∀ segment ∈ fillers, isFiller segment = true) ∧ isFiller name = false ∧ name ≠ ".." ∧
      '/' ∉ name.toList := by
  rw [fileName?] at named
  split at named
  · contradiction
  · rename_i last above counted
    split at named
    · contradiction
    · rename_i usual
      obtain rfl := Option.some.inj named
      obtain ⟨fillers, body, idle, counts⟩ := eq_of_dropWhile_reverse counted
      obtain ⟨before, split⟩ := segments_of_body counts body
      refine ⟨before, fillers, split, idle, counts, by simpa using usual, ?_⟩
      have member : last ∈ segments path := by simp [split]
      exact slashless_of_mem_splitSlashes List.not_mem_nil member

end Path

namespace Files

variable {files before between after : Files} {path name : String} {content : List UInt8}

/-- A path leads to the name of its file in some directory. -/
theorem placeOf_of_segments (files : Files) {above fillers : List String}
    (split : Path.segments path = above ++ name :: fillers)
    (idle : ∀ segment ∈ fillers, Path.isFiller segment = true)
    (counts : Path.isFiller name = false) (usual : name ≠ "..") :
    ∃ directory, files.placeOf path = directory ++ [name] := by
  refine ⟨above.foldl turn (files.startOf path), ?_⟩
  rw [placeOf, split, List.foldl_append, List.foldl_cons, foldl_turn_fillers _ idle, turn,
    if_neg (by simp [counts]), if_neg (by simp [usual])]

/-- A file is not written at first where it is to stand in the end. -/
theorem placeOf_stagingPath_ne (named : Path.fileName? path = some name) :
    files.placeOf (stagingPath path) ≠ files.placeOf path := by
  obtain ⟨above, fillers, split, idle, counts, usual, slashless⟩ :=
    Path.segments_of_fileName? named
  obtain ⟨directory, place⟩ := files.placeOf_of_segments split idle counts usual
  -- The name of the file beside the path is longer than that of the file.
  have longer : ("." ++ name ++ ".tmp").length = name.length + 5 := by
    rw [String.length_append, String.length_append, Nat.add_comm ".".length, Nat.add_assoc]
    rfl
  have distinct {other : String} (short : other.length < 5) : "." ++ name ++ ".tmp" ≠ other := by
    rintro rfl
    omega
  have slashless : '/' ∉ ("." ++ name ++ ".tmp").toList := by simp [slashless]
  obtain ⟨before, staged⟩ := Path.segments_join ((Path.parent? path).getD "") slashless
  have staging : stagingPath path =
      Path.join ((Path.parent? path).getD "") ("." ++ name ++ ".tmp") := by
    rw [stagingPath, Path.withFileName, named]
    rfl
  rw [← staging] at staged
  have counts : Path.isFiller ("." ++ name ++ ".tmp") = false := by
    rw [Path.isFiller, Bool.or_eq_false_iff, beq_eq_false_iff_ne, ← Bool.not_eq_true,
      String.isEmpty_iff]
    exact ⟨distinct (by decide), distinct (by decide)⟩
  obtain ⟨beside, placed⟩ := files.placeOf_of_segments staged (by simp) counts
    (distinct (by decide))
  rw [place, placed]
  intro same
  have names := congrArg List.getLast? same
  rw [List.getLast?_concat, List.getLast?_concat, Option.some_inj] at names
  have lengths := congrArg String.length names
  omega

/-- A path at which a file can be put leads to what stands there. -/
theorem find?_of_fileable {location : Location} {entry : Entry}
    (fileable : files.Fileable path location) (standing : files.entry? location = some entry) :
    files.find? path = some entry := by
  obtain ⟨directory, name, found, -, rfl⟩ := fileable
  obtain ⟨checked, plain, point, upwards, short, stands, above, backwards, walked⟩ :=
    spotOf_named_iff.mp found
  -- The path does not end in a slash, so that its last segment is the name.
  have parts : Path.segments path = above.reverse ++ [name] ∧ name.isEmpty = false := by
    cases reversed : (Path.segments path).reverse with
    | nil =>
      rw [reversed] at backwards
      contradiction
    | cons first rest =>
      rw [reversed] at backwards plain
      have some : first.isEmpty = false := by simpa using plain.symm
      rw [List.dropWhile_cons_of_neg (by simp [some])] at backwards
      obtain ⟨rfl, rfl⟩ := List.cons.inj backwards
      exact ⟨by rw [← List.reverse_cons, ← reversed, List.reverse_reverse], some⟩
  obtain ⟨split, some⟩ := parts
  have counts : Path.isFiller name = false := by simp [Path.isFiller, some, point]
  have lead : turn directory name = directory ++ [name] := by simp [turn, counts, upwards]
  have entered : files.enter directory name = .ok (directory ++ [name]) := by
    simp [enter, stands, counts, upwards, Nat.not_lt.mpr short, lead, standing]
  have located : files.locate path = .ok (directory ++ [name]) := by
    rw [locate, checked, split]
    change files.walk (files.startOf path) (above.reverse ++ [name]) = _
    rw [walk_append, walked]
    change files.walk directory [name] = _
    rw [walk_cons, entered]
    rfl
  rw [find?, located]
  exact standing

/-- A file that has been moved is found at the path to which it has been moved. This holds also
where both paths lead to the same location, so that nothing has been done. -/
theorem find?_of_moveFile {source target : String} {location : Location} {executable : Bool}
    (leaving : files.Fileable source location)
    (standing : files.entry? location = some (.file content executable))
    (moved : files.moveFile source target = .ok after) :
    after.find? target = some (.file content executable) := by
  obtain ⟨start, place, held, kept, _, begun, arriving, left, course⟩ := moveFile_ok moved
  obtain rfl : location = start := leaving.eq_placeOf.trans begun.symm
  obtain ⟨rfl, rfl⟩ := Entry.file.inj (Option.some.inj (standing.symm.trans left))
  obtain ⟨_, again, directories⟩ := moveFile_of_fileable leaving arriving standing
  obtain rfl := Except.ok.inj (moved.symm.trans again)
  refine find?_of_fileable (directories.fileable arriving) ?_
  obtain ⟨rfl, rfl⟩ | ⟨_, rfl⟩ := course
  · exact standing
  · rw [entry?_put arriving.ne_root, if_pos rfl]

/-- What stands at a location stays there. Where nothing stands, a directory may be made. -/
def Spared (before after : Files) (location : Location) : Prop :=
  after.entry? location = before.entry? location ∨
    before.entry? location = none ∧ after.entry? location = some .directory

/-- How a write of a whole file can end. -/
inductive WriteEnding (path : String) (content : List UInt8) (before : Files) :
    Except FileError Unit → Files → Prop
  /-- The new file is at the path, and none is beside it. -/
  | replaced {after : Files} {executable : Bool}
    (held : after.find? path = some (.file content executable))
    (place : after.entry? (before.placeOf path) = some (.file content executable))
    (staging : after.entry? (before.placeOf (stagingPath path)) = none)
    (elsewhere : ∀ location, location ≠ before.placeOf path →
      location ≠ before.placeOf (stagingPath path) → Spared before after location) :
    WriteEnding path content before (.ok ()) after
  /-- No file has been written at all. -/
  | refused {after : Files} (error : FileError)
    (everywhere : ∀ location, Spared before after location) :
    WriteEnding path content before (.error error) after
  /-- The new file is beside the path, at which none can be. -/
  | stranded {after : Files} {executable : Bool} (cause : OsError)
    (blocked : after.takesFile path = false)
    (staging : after.entry? (before.placeOf (stagingPath path)) = some (.file content executable))
    (elsewhere : ∀ location, location ≠ before.placeOf (stagingPath path) →
      Spared before after location) :
    WriteEnding path content before (.error ⟨path, cause⟩) after

/-- A file that is beside its path is moved there, or it stays because no file can be put there. -/
theorem WriteEnding.of_moved {between staged : Files} {staging : Location} {executable : Bool}
    {result : Except FileError Unit} (named : Path.fileName? path = some name)
    (extended : Extends before between) (leaving : between.Fileable (stagingPath path) staging)
    (put : staged = between.put staging (.file content executable))
    (moved : (about path (change (·.moveFile (stagingPath path) path))).run.run staged =
      (result, after)) :
    WriteEnding path content before result after := by
  have source : staging = before.placeOf (stagingPath path) := by
    rw [leaving.eq_placeOf, extended.placeOf]
  have entries (location : Location) : staged.entry? location =
      if location = staging then some (.file content executable)
      else between.entry? location := by
    rw [put, entry?_put leaving.ne_root]
  have standing : staged.entry? staging = some (.file content executable) := by
    rw [entries, if_pos rfl]
  have elsewhere (location : Location) (aside : location ≠ staging) :
      Spared before staged location := by
    rw [Spared, entries, if_neg aside]
    exact extended.entry location
  -- The file beside the path changes no directory, so it can be moved wherever files can be put.
  have beside : staged.Fileable (stagingPath path) staging := by
    rw [put]
    exact (sameDirectories_put leaving.ne_root leaving.free content executable).fileable leaving
  obtain ⟨cause, refused, rfl, rfl⟩ | ⟨arrived, rfl⟩ := about_change_cases moved
  · refine .stranded cause (Bool.eq_false_iff.mpr fun free => ?_) (by rw [← source, standing])
      fun location aside => elsewhere location (source ▸ aside)
    obtain ⟨_, arriving⟩ := takesFile_iff.mp free
    obtain ⟨_, succeeds, _⟩ := moveFile_of_fileable beside arriving standing
    rw [succeeds] at refused
    contradiction
  · obtain ⟨start, place, held, kept, _, begun, arriving, left, course⟩ := moveFile_ok arrived
    obtain rfl : staging = start := beside.eq_placeOf.trans begun.symm
    obtain ⟨rfl, rfl⟩ := Entry.file.inj (Option.some.inj (standing.symm.trans left))
    have target : place = before.placeOf path := by
      rw [arriving.eq_placeOf, put, placeOf_put, extended.placeOf]
    obtain ⟨same, _⟩ | ⟨apart, reached⟩ := course
    · exact absurd (source.symm.trans (same.trans target)) (placeOf_stagingPath_ne named)
    have final (location : Location) : after.entry? location =
        if location = place then some (.file content executable)
        else if location = staging then none else staged.entry? location := by
      rw [reached, entry?_put arriving.ne_root, entry?_remove leaving.ne_root]
    refine .replaced (find?_of_moveFile beside standing arrived) ?_ ?_ ?_
    · rw [← target, final, if_pos rfl]
    · rw [← source, final, if_neg apart, if_pos rfl]
    · intro location aside beneath
      rw [← target] at aside
      rw [← source] at beneath
      rw [Spared, final, if_neg aside, if_neg beneath]
      exact elsewhere location beneath

/-- A write of a whole file comes to one of three ends, whatever stands in the files before. If it
succeeds, the path leads to the new file. If it fails, what stands at the path stays there. All else
is spared, but for the file beside the path: one that was there is gone after a success, and it is
the new one, and stays, if no file can be put at the path. -/
theorem writeWhole_ends (path name : String) (content : List UInt8) (before : Files)
    (named : Path.fileName? path = some name) :
    before.placeOf (stagingPath path) ≠ before.placeOf path ∧
      ∃ result after, (writeWhole path content).run.run before = (result, after) ∧
        WriteEnding path content before result after := by
  refine ⟨placeOf_stagingPath_ne named, ?_⟩
  rcases ended : (writeWhole path content).run.run before with ⟨result, after⟩
  refine ⟨result, after, rfl, ?_⟩
  obtain ⟨error, rfl, extended⟩ | ⟨between, staging, executable, extended, leaving, moved⟩ :=
    writeWhole_cases ended
  · exact .refused error extended.entry
  · exact .of_moved named extended leaving rfl moved

/-- Files among which there is a directory, and a file with the name that a file beside another one
has. -/
def crowded : Files where
  entries := [(["work"], .directory), (["work", "bindings"], .directory),
    (["work", ".notes.tmp"], .file [1] false)]
  workingDirectory := ["work"]

/-- A write to a path that ends in a slash, where a directory stands: it fails as such paths do, the
directory is still there, and the new file is left beside it. -/
theorem writeWhole_ends_at_crowded :
    Path.fileName? "bindings/" = some "bindings" ∧
      ∃ result after, (writeWhole "bindings/" [2]).run.run crowded = (result, after) ∧
        WriteEnding "bindings/" [2] crowded result after ∧
        result = .error ⟨"bindings/", .notDirectory⟩ ∧
        after.hasDirectory ["work", "bindings"] = true ∧
        after.content? ["work", ".bindings.tmp"] = some [2] := by
  have named : Path.fileName? "bindings/" = some "bindings" := rfl
  obtain ⟨-, result, after, ended, ending⟩ :=
    writeWhole_ends "bindings/" "bindings" [2] crowded named
  refine ⟨named, result, after, ended, ending, ?_⟩
  obtain ⟨rfl, rfl⟩ := Prod.ext_iff.mp ended
  exact ⟨rfl, rfl, rfl⟩

/-- Where a directory stands at the path, a write fails, and a file is left that was not there
before. And if a file happens to have the name of the one beside the path, a write that succeeds
takes it away. -/
theorem writeWhole_touches_beside :
    (let ended := (writeWhole "bindings" [2]).run.run crowded
     ended.1 = .error ⟨"bindings", .isDirectory⟩ ∧
      crowded.entry? ["work", ".bindings.tmp"] = none ∧
      ended.2.content? ["work", ".bindings.tmp"] = some [2]) ∧
    (let ended := (writeWhole "notes" [2]).run.run crowded
     ended.1 = .ok () ∧ ended.2.content? ["work", "notes"] = some [2] ∧
      crowded.content? ["work", ".notes.tmp"] = some [1] ∧
      ended.2.content? ["work", ".notes.tmp"] = none) :=
  ⟨⟨rfl, rfl, rfl⟩, rfl, rfl, rfl, rfl⟩

end Files

end SchemaBindings
