import SchemaBindings.Proofs.Acceptance
import SchemaBindings.Proofs.Stages

/-!
# Languages beside each other

A run for a language reads no file. With services that answer what they are asked and
leave the files alone, and with files that accept every write, it ends in the same way and
writes the same contents at the same paths whatever else has been written before. So it
ends as it does alone, in whatever order the languages are run and whether or not others
fail.

What it leaves at a place is another matter, since that may be written over. It is what it
leaves there alone as long as no other language writes a file at this place or at first
beside its own. Nothing in the settings keeps two languages apart in this way: the paths
of sources are free.
-/
namespace SchemaBindings

namespace Files

/-- Writes of whole files, one after the other. -/
abbrev Script := List (String × List UInt8)

/-- All writes of a script succeed. -/
inductive Performed : Script → Files → Files → Prop
  | done (files : Files) : Performed [] files files
  | write {path : String} {content : List UInt8} {script : Script} {before between after : Files}
    (written : (writeWhole path content).run.run before = (.ok (), between))
    (later : Performed script between after) : Performed ((path, content) :: script) before after

/-- The locations at which the write of a file changes something. -/
def touched (files : Files) (path : String) : List Location :=
  [files.placeOf path, files.placeOf (stagingPath path)]

/-- What the write of a file leaves at a location. -/
def leave (files : Files) (location : Location) (present : Option (List UInt8))
    (entry : String × List UInt8) : Option (List UInt8) :=
  if location = files.placeOf entry.1 then some entry.2
  else if location = files.placeOf (stagingPath entry.1) then none
  else present

section Scripts

variable {files before between after : Files} {location : Location} {script : Script}

/-- Two scripts that have been performed one after the other have been performed as one. -/
theorem Performed.append {more : Script} (first : Performed script before between)
    (second : Performed more between after) : Performed (script ++ more) before after := by
  induction first with
  | done => exact second
  | write written _ inductionHypothesis => exact .write written (inductionHypothesis second)

/-- A script at some paths rewrites the files at these paths. -/
theorem Performed.rewritten {paths : List String} (performed : Performed script before after)
    (within : ∀ entry ∈ script, entry.1 ∈ paths) : Rewritten paths before after := by
  induction performed with
  | done => exact .start
  | write written _ inductionHypothesis =>
    have first : Rewritten paths _ _ := .write .start (within _ List.mem_cons_self) written
    exact first.trans (inductionHypothesis fun entry later => within entry (.tail _ later))

/-- What a write leaves at a location depends on the files only by the working directory. -/
theorem leave_congr (same : after.workingDirectory = before.workingDirectory) :
    after.leave = before.leave := by
  funext location present entry
  rw [leave, leave, placeOf, placeOf, placeOf, placeOf, startOf, startOf, startOf, startOf, same]

/-- A write that has succeeded leaves at each location what it is said to leave. -/
theorem Written.content? {path : String} {content : List UInt8}
    (written : Written path content before after) (location : Location) :
    after.content? location = before.leave location (before.content? location) (path, content) := by
  rw [leave]
  split
  · rename_i place
    rw [place, written.place]
  · rename_i other
    split
    · rename_i staging
      rw [staging, written.staging (staging ▸ other)]
    · rename_i aside
      exact written.elsewhere location other aside

/-- What a script leaves at a location depends on nothing but what was there. -/
theorem Performed.content? (performed : Performed script before after) (location : Location) :
    after.workingDirectory = before.workingDirectory ∧
      after.content? location =
        script.foldl (before.leave location) (before.content? location) := by
  induction performed with
  | done => exact ⟨rfl, rfl⟩
  | write written _ inductionHypothesis =>
    have step := writeWhole_ok written
    obtain ⟨same, left⟩ := inductionHypothesis
    exact ⟨same.trans step.workingDirectory,
      by rw [left, leave_congr step.workingDirectory, step.content?, List.foldl_cons]⟩

/-- A script leaves alone what none of its writes touches. -/
theorem foldl_leave_untouched (present : Option (List UInt8))
    (untouched : ∀ entry ∈ script, location ∉ files.touched entry.1) :
    script.foldl (files.leave location) present = present := by
  induction script with
  | nil => rfl
  | cons entry script inductionHypothesis =>
    have aside := untouched entry List.mem_cons_self
    simp only [touched, List.mem_cons, List.not_mem_nil, or_false, not_or] at aside
    rw [List.foldl_cons, leave, if_neg aside.1, if_neg aside.2]
    exact inductionHypothesis fun other later => untouched other (.tail _ later)

/-- A script leaves a location as it is, or it leaves the same there whatever there was. -/
theorem foldl_leave_cases (files : Files) (location : Location) (script : Script) :
    (∀ present, script.foldl (files.leave location) present = present) ∨
      ∃ left, ∀ present, script.foldl (files.leave location) present = left := by
  induction script with
  | nil => exact .inl fun _ => rfl
  | cons entry script inductionHypothesis =>
    rcases inductionHypothesis with kept | ⟨left, same⟩
    · simp only [List.foldl_cons, kept]
      by_cases place : location = files.placeOf entry.1
      · exact .inr ⟨some entry.2, fun _ => by rw [leave, if_pos place]⟩
      · by_cases staging : location = files.placeOf (stagingPath entry.1)
        · exact .inr ⟨none, fun _ => by rw [leave, if_neg place, if_pos staging]⟩
        · exact .inl fun _ => by rw [leave, if_neg place, if_neg staging]
    · exact .inr ⟨left, fun _ => same _⟩

/-- A script leaves nothing else when it is performed again. -/
theorem foldl_leave_again (files : Files) (location : Location) (script : Script)
    (present : Option (List UInt8)) :
    script.foldl (files.leave location) (script.foldl (files.leave location) present) =
      script.foldl (files.leave location) present := by
  rcases foldl_leave_cases files location script with kept | ⟨left, same⟩
  · rw [kept]
  · rw [same, same]

/-- If only one of several scripts touches a location, it leaves there what it leaves alone,
whatever the order of the scripts is. -/
theorem foldl_leave_order {id : String} (scripts : String → Script) (order : List String)
    (present : Option (List UInt8))
    (untouched : ∀ other ∈ order, other ≠ id →
      ∀ entry ∈ scripts other, location ∉ files.touched entry.1) :
    (order.flatMap scripts).foldl (files.leave location) present =
      if id ∈ order then (scripts id).foldl (files.leave location) present else present := by
  induction order generalizing present with
  | nil => rfl
  | cons first rest inductionHypothesis =>
    have later := inductionHypothesis ((scripts first).foldl (files.leave location) present)
      fun other member => untouched other (.tail _ member)
    rw [List.flatMap_cons, List.foldl_append, later]
    by_cases here : first = id
    · subst here
      simp [foldl_leave_again]
    · rw [foldl_leave_untouched _ (untouched first List.mem_cons_self here)]
      simp [Ne.symm here]

end Scripts

end Files

/-- Whether the answers of services are functions of what they are asked, and the files are left
alone. -/
structure Services.Steady (services : Services) : Prop where
  extract : ∀ typeName, ∃ answer, ∀ files,
    (services.extract typeName).run.run files = (answer, files)
  generate : ∀ request, ∃ answer, ∀ files,
    (services.generate request).run.run files = (answer, files)

/-- The paths at which the run for a language writes; one without valid settings writes nothing. -/
def Settings.artifactPaths (settings : Settings) (id : String) : List String :=
  match settings.language id with
  | .ok language =>
    [settings.schemaPath id "generated-schema.json", settings.schemaPath id "postProcess.json",
      language.outputPath, settings.schemaPath id "final.schema.json"]
  | .error _ => []

namespace Run

open Files (Script Performed)

/-- Wherever some paths are accepted, a run has one result, and writes the same there. -/
def Follows {α : Type} (paths : List String) (run : Run α) (result : Except RunError α)
    (script : Script) : Prop :=
  (∀ entry ∈ script, entry.1 ∈ paths) ∧
    ∀ world, world.files.Accepting paths → ∃ after, run.run.run world = (result, after) ∧
      Performed script world.files after.files

section Following

variable {α β : Type} {paths : List String}

/-- A run that leaves the files alone and has one result follows the empty script. -/
theorem follows_nil {run : Run α} {result : Except RunError α}
    (kept : ∀ world, ∃ after, run.run.run world = (result, after) ∧ after.files = world.files) :
    Follows paths run result [] := by
  refine ⟨by simp, fun world _ => ?_⟩
  obtain ⟨after, ended, same⟩ := kept world
  exact ⟨after, ended, same ▸ .done world.files⟩

/-- A result that is there already takes no write. -/
theorem follows_ofExcept (result : Except RunError α) :
    Follows paths (ofExcept result) result [] := by
  refine follows_nil fun world => ⟨world, ?_, rfl⟩
  cases result <;> rfl

/-- After a part that fails nothing is written. -/
theorem follows_bind_error {first : Run α} {next : α → Run β} {error : RunError} {script : Script}
    (failed : Follows paths first (.error error) script) :
    Follows paths (first >>= next) (.error error) script := by
  refine ⟨failed.1, fun world accepting => ?_⟩
  obtain ⟨after, ended, performed⟩ := failed.2 world accepting
  exact ⟨after, ran_error ended, performed⟩

/-- After a part that succeeds the rest goes on with what the files have become. -/
theorem follows_bind_ok {first : Run α} {next : α → Run β} {value : α}
    {result : Except RunError β} {script more : Script}
    (passed : Follows paths first (.ok value) script)
    (later : Follows paths (next value) result more) :
    Follows paths (first >>= next) result (script ++ more) := by
  refine ⟨fun entry member => ?_, fun world accepting => ?_⟩
  · rcases List.mem_append.mp member with early | late
    · exact passed.1 entry early
    · exact later.1 entry late
  · obtain ⟨between, went, performed⟩ := passed.2 world accepting
    have still := accepting.later (performed.rewritten passed.1)
    obtain ⟨after, ended, more⟩ := later.2 between still
    exact ⟨after, (ran_ok went).trans ended, performed.append more⟩

/-- What is done to the files is noted, and ends as it does by itself. -/
theorem noted_of_ran {effect : Effect} {action : FileAction RunError α} {world : World}
    {result : Except RunError α} {files : Files}
    (ran : action.run.run world.files = (result, files)) :
    (do note effect; onFiles action : Run α).run.run world =
      (result, ⟨files, world.effects ++ [effect]⟩) := by
  change (ofExcept (action.run.run world.files).1).run.run
    ⟨(action.run.run world.files).2, world.effects ++ [effect]⟩ = _
  rw [ran]
  cases result <;> rfl

/-- A write at a path that is accepted succeeds. -/
theorem follows_write {artifact : ArtifactKind} {path text : String} (member : path ∈ paths) :
    Follows paths (write Files.writeWhole artifact path text) (.ok ())
      [(path, Text.encode text.toList)] := by
  refine ⟨by simpa using member, fun world accepting => ?_⟩
  obtain ⟨files, written⟩ := accepting _ .start path member (Text.encode text.toList)
  exact ⟨_, noted_of_ran (Files.adapt_of_ok written), .write written (.done files)⟩

/-- A run that follows some script. -/
def IsScripted (paths : List String) (run : Run α) : Prop :=
  ∃ result script, Follows paths run result script

/-- So it is a run with a script, the empty one, in any files. -/
theorem scripted_ofExcept (result : Except RunError α) : IsScripted paths (ofExcept result) :=
  ⟨result, [], follows_ofExcept result⟩

/-- A value that is given takes no write either. -/
theorem scripted_pure (value : α) : IsScripted paths (pure value) :=
  scripted_ofExcept (.ok value)

/-- A write of an artifact is a script of one write, to a path that is among those of the run. -/
theorem scripted_write (artifact : ArtifactKind) {path : String} (text : String)
    (member : path ∈ paths) : IsScripted paths (write Files.writeWhole artifact path text) :=
  ⟨_, _, follows_write member⟩

/-- Parts that follow scripts follow one after the other. -/
theorem scripted_bind {first : Run α} {next : α → Run β} (begun : IsScripted paths first)
    (later : ∀ value, IsScripted paths (next value)) : IsScripted paths (first >>= next) := by
  obtain ⟨result, script, follows⟩ := begun
  cases result with
  | error error => exact ⟨_, _, follows_bind_error follows⟩
  | ok value =>
    obtain ⟨_, _, more⟩ := later value
    exact ⟨_, _, follows_bind_ok follows more⟩

/-- What follows a result has to follow a script only for the value that there is. -/
theorem scripted_bind_ofExcept {ε : Type} {given : Except ε α} {kind : ε → RunError}
    {next : α → Run β} (later : ∀ value, given = .ok value → IsScripted paths (next value)) :
    IsScripted paths (ofExcept (given.mapError kind) >>= next) := by
  cases given with
  | error error => exact ⟨_, _, follows_bind_error (follows_ofExcept _)⟩
  | ok value => exact later value rfl

/-- Services that answer what they are asked are no cause of a difference. -/
theorem scripted_extract {services : Services} (steady : services.Steady) (settings : Settings) :
    IsScripted paths (extract settings services) := by
  obtain ⟨answer, same⟩ := steady.extract settings.schema.topLevelType
  exact ⟨answer, [], follows_nil fun world => ⟨_, noted_of_ran (same world.files), rfl⟩⟩

/-- The generator does not write, if the services are steady, so the run goes on with its answer and
the same files. -/
theorem scripted_generate {services : Services} (steady : services.Steady)
    (request : GenerationRequest) : IsScripted paths (generate services request) := by
  obtain ⟨answer, same⟩ := steady.generate request
  exact ⟨answer, [], follows_nil fun world => ⟨_, noted_of_ran (same world.files), rfl⟩⟩

/-- What follows a script where some paths are accepted follows it where more are. -/
theorem Follows.mono {few many : List String} {run : Run α} {result : Except RunError α}
    {script : Script} (follows : Follows few run result script)
    (within : ∀ path ∈ few, path ∈ many) : Follows many run result script :=
  ⟨fun entry member => within _ (follows.1 entry member),
    fun world accepting => follows.2 world (accepting.mono within)⟩

end Following

/-- The run for a language writes at its artifact paths, and follows a script there. -/
theorem scripted_language {services : Services} (steady : services.Steady) (settings : Settings)
    (id : String) : IsScripted (settings.artifactPaths id) (Run.language settings services id) := by
  rw [Run.language, languageBy]
  simp only [prepareValue_eq]
  refine scripted_bind_ofExcept fun language configured => ?_
  have paths : settings.artifactPaths id =
      [settings.schemaPath id "generated-schema.json", settings.schemaPath id "postProcess.json",
        language.outputPath, settings.schemaPath id "final.schema.json"] := by
    rw [Settings.artifactPaths, configured]
  rw [paths]
  refine scripted_bind (scripted_extract steady settings) fun raw => ?_
  refine scripted_bind (scripted_write _ _ (by simp [Settings.schemaPath])) fun _ => ?_
  refine scripted_bind_ofExcept fun prepared _ => ?_
  refine scripted_bind (scripted_write _ _ (by simp [Settings.schemaPath])) fun _ => ?_
  refine scripted_bind (scripted_generate steady _) fun lines => ?_
  refine scripted_bind (scripted_write _ _ (by simp)) fun _ => ?_
  refine scripted_bind_ofExcept fun documented _ => ?_
  refine scripted_bind (scripted_write _ _ (by simp [Settings.schemaPath])) fun _ => ?_
  exact scripted_pure _

section Orders

variable {settings : Settings} {services : Services}
  {results : String → Except RunError Artifacts} {scripts : String → Script}

/-- The runs of several languages have their results whatever has been written before, and write
what they would write anyway. -/
theorem outcomes_ran {paths : List String} (order : List String)
    (follows : ∀ id ∈ order,
      Follows paths (language settings services id) (results id) (scripts id))
    (world : World) (accepting : world.files.Accepting paths) :
    ∃ after, (outcomes settings services order).run world =
        (order.map fun id => ⟨id, results id⟩, after) ∧
      Performed (order.flatMap scripts) world.files after.files := by
  induction order generalizing world with
  | nil => exact ⟨world, rfl, .done world.files⟩
  | cons id others inductionHypothesis =>
    obtain ⟨within, ran⟩ := follows id List.mem_cons_self
    obtain ⟨between, ended, performed⟩ := ran world accepting
    obtain ⟨after, later, more⟩ := inductionHypothesis
      (fun other member => follows other (.tail _ member)) between
      (accepting.later (performed.rewritten within))
    refine ⟨after, ?_, performed.append more⟩
    rw [outcomes, StateT.run_bind, ended]
    change (outcomes settings services others >>= _).run between = _
    rw [StateT.run_bind, later]
    rfl

variable {order : List String} {world : World}

/-- Several languages run alone and one after the other have the same results and perform the same
scripts at their artifact paths. -/
theorem outcomes_course (steady : services.Steady)
    (accepting : world.files.Accepting (order.flatMap settings.artifactPaths)) :
    ∃ (results : String → Except RunError Artifacts) (scripts : String → Script),
      (∀ id, ∀ entry ∈ scripts id, entry.1 ∈ settings.artifactPaths id) ∧
      (∀ id ∈ order, ∃ after, (language settings services id).run.run world = (results id, after) ∧
        Performed (scripts id) world.files after.files) ∧
      ∃ after, (outcomes settings services order).run world =
          (order.map fun id => ⟨id, results id⟩, after) ∧
        Performed (order.flatMap scripts) world.files after.files := by
  choose results scripts follows using scripted_language steady settings
  have within : ∀ id ∈ order, ∀ path ∈ settings.artifactPaths id,
      path ∈ order.flatMap settings.artifactPaths := fun id member path listed =>
    List.mem_flatMap.mpr ⟨id, member, listed⟩
  refine ⟨results, scripts, fun id => (follows id).1, fun id member => ?_, ?_⟩
  · exact (follows id).2 world (accepting.mono (within id member))
  · exact outcomes_ran order (fun id member => (follows id).mono (within id member)) world accepting

/-- Each of several languages ends as it does alone. -/
theorem outcomes_alone (steady : services.Steady)
    (accepting : world.files.Accepting (order.flatMap settings.artifactPaths)) :
    ((outcomes settings services order).run world).1 =
      order.map fun id => ⟨id, ((language settings services id).run.run world).1⟩ := by
  obtain ⟨results, scripts, _, alone, after, ended, _⟩ := outcomes_course steady accepting
  rw [ended]
  refine List.map_congr_left fun id member => ?_
  obtain ⟨own, endedAlone, _⟩ := alone id member
  rw [endedAlone]

/-- What is left at a location that only one of several languages may touch is what this language
leaves there alone. -/
theorem content_alone (steady : services.Steady)
    (accepting : world.files.Accepting (order.flatMap settings.artifactPaths)) {id : String}
    {location : Location} (member : id ∈ order)
    (aside : ∀ other ∈ order, other ≠ id → ∀ there ∈ settings.artifactPaths other,
      location ∉ world.files.touched there) :
    ((outcomes settings services order).run world).2.files.content? location =
      ((language settings services id).run.run world).2.files.content? location := by
  obtain ⟨results, scripts, within, alone, after, ended, performed⟩ :=
    outcomes_course steady accepting
  obtain ⟨own, endedAlone, performedAlone⟩ := alone id member
  have untouched : ∀ other ∈ order, other ≠ id → ∀ entry ∈ scripts other,
      location ∉ world.files.touched entry.1 := fun other listed different entry there =>
    aside other listed different entry.1 (within other entry there)
  rw [ended, endedAlone, (performed.content? _).2, (performedAlone.content? _).2,
    Files.foldl_leave_order scripts order _ untouched, if_pos member]

end Orders

/-- With services that answer as they are asked, and files on which no write fails, the run of all
languages has one outcome for each of them in the order of the settings. In whatever order the
languages are run, each ends as it does alone. The file at one of its paths has the content that it
has after the language is run alone, as long as no other language writes there, be it at first
beside its own file.

Nothing is said of how the languages end: some may fail, and at any point. -/
theorem outcomes_isolated (settings : Settings) (services : Services) (world : World)
    (steady : services.Steady)
    (accepting : world.files.Accepting (settings.languageIds.flatMap settings.artifactPaths)) :
    (target settings services .all).run.run world =
        (.ok ⟨settings.languageIds.map fun id =>
            ⟨id, ((language settings services id).run.run world).1⟩⟩,
          ((outcomes settings services settings.languageIds).run world).2) ∧
      ∀ order : List String, order.Perm settings.languageIds →
        ((outcomes settings services order).run world).1 =
            order.map (fun id => ⟨id, ((language settings services id).run.run world).1⟩) ∧
          ∀ id ∈ order, ∀ path ∈ settings.artifactPaths id,
            (∀ other ∈ order, other ≠ id → ∀ there ∈ settings.artifactPaths other,
              world.files.placeOf path ∉ world.files.touched there) →
            ((outcomes settings services order).run world).2.files.content?
                (world.files.placeOf path) =
              ((language settings services id).run.run world).2.files.content?
                (world.files.placeOf path) := by
  constructor
  · rw [← outcomes_alone steady accepting]
    rfl
  · intro order same
    have accepted : world.files.Accepting (order.flatMap settings.artifactPaths) :=
      accepting.mono fun path listed =>
        (same.flatMap_right settings.artifactPaths).mem_iff.mp listed
    exact ⟨outcomes_alone steady accepted, fun id member path _ aside =>
      content_alone steady accepted member aside⟩

end Run

/-- Settings of a language that say no more than where its source is written. -/
def LanguageSettings.writing (path : String) : LanguageSettings where
  rendererOptions := some []
  processing := some {
    outputDir := some path
    propertyRegex := some ⟨some "quicktype_", some "g", some ""⟩ }

/-- Settings of two languages, with the paths of their sources. -/
def Settings.writing (python go : String) : Settings where
  languages := [("python", .writing python), ("go", .writing go)]

/-- These settings are complete. They reserve no words and ask for no alias, so that nothing depends
on them but the path. -/
theorem LanguageSettings.writing_validate {path id : String} {restoring : Rule}
    (compiled : Rule.compile "quicktype_" "g" "" = .ok restoring) :
    (writing path).validate id =
      .ok ⟨id, [], path, ⟨[]⟩, {}, restoring, none, ⟨false, "", ""⟩⟩ := by
  have rule : RuleSettings.validate ⟨some "quicktype_", some "g", some ""⟩ id
      "processing.propertyRegex" = .ok restoring := by
    simp [RuleSettings.validate, Config.required, compiled, bind, Except.bind, pure, Except.pure]
  simp only [validate, writing, Config.required, bind, Except.bind, rule]
  rfl

/-- The paths at which one of the two languages writes. -/
theorem Settings.artifactPaths_writing {python go id path : String}
    (named : (writing python go).languages.lookup id = some (.writing path)) :
    (writing python go).artifactPaths id =
      [(writing python go).schemaPath id "generated-schema.json",
        (writing python go).schemaPath id "postProcess.json", path,
        (writing python go).schemaPath id "final.schema.json"] := by
  have accepted : (Rule.compile "quicktype_" "g" "").toOption.isSome = true := by decide +kernel
  obtain ⟨restoring, compiled⟩ := Option.isSome_iff_exists.mp accepted
  rw [toOption_eq_some_iff] at compiled
  rw [artifactPaths, language, named]
  dsimp only
  rw [LanguageSettings.writing_validate compiled]

/-- Files in which the directories for the schemas of two languages are there. -/
def Files.furnished : Files where
  entries := [(["work"], .directory), (["work", "schema"], .directory),
    (["work", "schema", "python"], .directory), (["work", "schema", "go"], .directory)]
  workingDirectory := ["work"]

/-- Services that only answer do not look at the files at all. -/
theorem Services.answering_steady (raw : Json) : (Services.answering raw).Steady :=
  ⟨fun _ => ⟨_, fun _ => rfl⟩, fun _ => ⟨_, fun _ => rfl⟩⟩

/-- Of two languages with separate sources, run in the other order than that of the settings, the
one that is run later leaves its source as it does alone. -/
theorem Run.outcomes_isolated_at_separate_sources :
    (Services.answering (.object [])).Steady ∧
      Files.furnished.Accepting
        ((Settings.writing "generated.py" "generated.go").languageIds.flatMap
          (Settings.writing "generated.py" "generated.go").artifactPaths) ∧
      ((Run.outcomes (.writing "generated.py" "generated.go") (.answering (.object []))
          ["go", "python"]).run ⟨.furnished, []⟩).2.files.content? ["work", "generated.py"] =
        ((Run.language (.writing "generated.py" "generated.go") (.answering (.object []))
          "python").run.run ⟨.furnished, []⟩).2.files.content? ["work", "generated.py"] ∧
      ((Run.language (.writing "generated.py" "generated.go") (.answering (.object []))
          "python").run.run ⟨.furnished, []⟩).2.files.content? ["work", "generated.py"] =
        some [10] := by
  have steady := Services.answering_steady (.object [])
  have python := @Settings.artifactPaths_writing "generated.py" "generated.go" "python" _ rfl
  have go := @Settings.artifactPaths_writing "generated.py" "generated.go" "go" _ rfl
  have ids : (Settings.writing "generated.py" "generated.go").languageIds = ["python", "go"] := rfl
  have accepting : Files.furnished.Accepting
      ((Settings.writing "generated.py" "generated.go").languageIds.flatMap
        (Settings.writing "generated.py" "generated.go").artifactPaths) := by
    refine Files.accepting_of_ready ?_
    rw [ids, List.flatMap_cons, List.flatMap_cons, python, go]
    decide +kernel
  obtain ⟨_, orders⟩ := outcomes_isolated _ _ ⟨.furnished, []⟩ steady accepting
  obtain ⟨_, contents⟩ := orders ["go", "python"] (by rw [ids]; decide)
  refine ⟨steady, accepting, ?_, by decide +kernel⟩
  refine contents "python" (by simp) "generated.py" (by rw [python]; simp) ?_
  intro other member different there written
  obtain rfl : other = "go" := by simpa [different] using member
  rw [go] at written
  revert there
  decide +kernel

/-- Two languages, where the source of one is the file to which the source of the other is written
at first. No write fails, and both runs succeed in both orders; but the source of the one is lost if
the other one is run later. -/
theorem Run.source_lost_to_staging :
    (Services.answering (.object [])).Steady ∧
      Files.furnished.Accepting
        ((Settings.writing "generated.py" ".generated.py.tmp").languageIds.flatMap
          (Settings.writing "generated.py" ".generated.py.tmp").artifactPaths) ∧
      ".generated.py.tmp" ∈
        (Settings.writing "generated.py" ".generated.py.tmp").artifactPaths "go" ∧
      (let run (order : List String) :=
        (Run.outcomes (.writing "generated.py" ".generated.py.tmp") (.answering (.object []))
          order).run ⟨.furnished, []⟩
      (run ["python", "go"]).1.all (·.result.isOk) ∧
      (run ["go", "python"]).1.all (·.result.isOk) ∧
      (run ["python", "go"]).2.files.content? ["work", ".generated.py.tmp"] = some [10] ∧
      (run ["go"]).2.files.content? ["work", ".generated.py.tmp"] = some [10] ∧
      (run ["go", "python"]).2.files.content? ["work", ".generated.py.tmp"] = none) := by
  have python := @Settings.artifactPaths_writing "generated.py" ".generated.py.tmp" "python" _ rfl
  have go := @Settings.artifactPaths_writing "generated.py" ".generated.py.tmp" "go" _ rfl
  have ids : (Settings.writing "generated.py" ".generated.py.tmp").languageIds = ["python", "go"] :=
    rfl
  refine ⟨Services.answering_steady (.object []), ?_, by rw [go]; simp, by decide +kernel⟩
  refine Files.accepting_of_ready ?_
  rw [ids, List.flatMap_cons, List.flatMap_cons, python, go]
  decide +kernel

end SchemaBindings
