import SchemaBindings.Proofs.Parsing
import SchemaBindings.Proofs.RoundTrip

/-!
# The stages of a run

A run does six things to the world, one after the other, and the first fault ends it.
`Run.Ending` has all the ways in which it can end, each with the stages that it has come
past until then. What is said of runs is read off these ways.

The last stage before the final write takes the markers from a schema when the source
has been written already, and a fault there would leave a source without its schema.
It has none: what the check of the markers accepts can be restored.

The theorems hold for any way to write files and for any services, whatever those make
of the files, and so for any point at which a write may fail.
-/
namespace SchemaBindings

/-- Whether one of the services answers with an error, whatever it is asked. -/
def Services.Refuses (services : Services) (error : RunError) : Prop :=
  (∃ typeName files after, (services.extract typeName).run.run files = (.error error, after)) ∨
    ∃ request files after, (services.generate request).run.run files = (.error error, after)

/-- The path of a schema that is written for a language. -/
def Settings.schemaPath (settings : Settings) (id name : String) : String :=
  Path.join (settings.schemaDirectory id) name

namespace Run

section Parts

variable {world after : World}

/-- What follows a result ends with its fault or goes on in the same world. -/
theorem ofExcept_cases {ε α β : Type} {given : Except ε α} {kind : ε → RunError}
    {next : α → Run β} {result : Except RunError β}
    (ended : (ofExcept (given.mapError kind) >>= next).run.run world = (result, after)) :
    (∃ error, given = .error error ∧ result = .error (kind error) ∧ after = world) ∨
      ∃ value, given = .ok value ∧ (next value).run.run world = (result, after) := by
  cases given with
  | ok value => exact .inr ⟨value, rfl, ended⟩
  | error error =>
    obtain ⟨rfl, rfl⟩ := Prod.mk.inj ended
    exact .inl ⟨error, rfl, rfl, rfl⟩

/-- To prepare a schema is to go on with its preparation. -/
theorem prepareValue_eq (settings : Settings) (language : Language) (raw : Json) :
    prepareValue settings language raw =
      ofExcept ((settings.prepareValue language raw).mapError .schema) := by
  rw [prepareValue]
  cases settings.prepareValue language raw <;> rfl

/-- What is done to the files is noted first, and then ends as it does by itself. -/
theorem performed {α : Type} {effect : Effect} {action : FileAction RunError α}
    {result : Except RunError α}
    (ended : (do note effect; onFiles action : Run α).run.run world = (result, after)) :
    after.effects = world.effects ++ [effect] ∧
      action.run.run world.files = (result, after.files) := by
  have noted : (onFiles action).run.run { world with effects := world.effects ++ [effect] } =
      (result, after) := ended
  exact (onFiles_ran noted).symm

/-- A write that fails, fails on a file. -/
theorem write_error {writer : FileWriter} {artifact : ArtifactKind} {path text : String}
    {error : RunError}
    (failed : (write writer artifact path text).run.run world = (.error error, after)) :
    ∃ fault, error = .file fault := by
  have adapted := congrArg Prod.fst (performed failed).2
  change ((writer path (Text.encode text.toList)).run.run world.files).1.mapError RunError.file = _
    at adapted
  cases written : ((writer path (Text.encode text.toList)).run.run world.files).1 with
  | ok value =>
    rw [written] at adapted
    contradiction
  | error fault =>
    rw [written] at adapted
    exact ⟨fault, (Except.error.inj adapted).symm⟩

end Parts

/-- What a run does to the world, in order, if nothing fails. -/
def plan (settings : Settings) (id : String) (language : Language) : List Effect :=
  [.extract settings.schema.topLevelType,
   .write .rawSchema (settings.schemaPath id "generated-schema.json"),
   .write .escapedSchema (settings.schemaPath id "postProcess.json"),
   .generate id,
   .write .source language.outputPath,
   .write .finalSchema (settings.schemaPath id "final.schema.json")]

section Course

variable (writer : FileWriter) (settings : Settings) (services : Services) (id : String)
  (language : Language) (start : World)

/-- A run has been given a document. -/
def Extracted (raw : Json) (world : World) : Prop :=
  (extract settings services).run.run start = (.ok raw, world)

/-- A run has written the document that it has been given. -/
def RawWritten (raw : Json) (world : World) : Prop :=
  ∃ before, Extracted settings services start raw before ∧
    (write writer .rawSchema (settings.schemaPath id "generated-schema.json")
      (documentText raw)).run.run before = (.ok (), world)

/-- A run has prepared a schema. -/
structure Prepared (raw : Json) (prepared : PreparedSchema) (world : World) : Prop where
  written : RawWritten writer settings services id start raw world
  accepted : settings.prepareValue language raw = .ok prepared

/-- A run has written the schema that it has prepared. -/
def EscapedWritten (raw : Json) (prepared : PreparedSchema) (world : World) : Prop :=
  ∃ before, Prepared writer settings services id language start raw prepared before ∧
    (write writer .escapedSchema (settings.schemaPath id "postProcess.json")
      (documentText prepared.escaped.toJson)).run.run before = (.ok (), world)

/-- What the generator is asked for in a run. -/
def request (prepared : PreparedSchema) : GenerationRequest :=
  ⟨id, settings.schema.topLevelType, prepared.escaped.toJson,
    settings.schemaPath id "postProcess.json", language.options⟩

/-- A run has been given lines by the generator. -/
def Generated (raw : Json) (prepared : PreparedSchema) (lines : List String) (world : World) : Prop :=
  ∃ before, EscapedWritten writer settings services id language start raw prepared before ∧
    (generate services (request settings id language prepared)).run.run before = (.ok lines, world)

/-- The text of the source that comes from some lines. -/
def source (prepared : PreparedSchema) (lines : List String) : String :=
  sourceText (language.sourceLines
    (language.union.lines prepared.escaped settings.schema.topLevelType) lines)

/-- A run has written the source. -/
def SourceWritten (raw : Json) (prepared : PreparedSchema) (world : World) : Prop :=
  ∃ before lines, Generated writer settings services id language start raw prepared lines before ∧
    (write writer .source language.outputPath (source settings language prepared lines)).run.run
      before = (.ok (), world)

/-- The ways in which a run for a language can end. -/
inductive Ending : Except RunError Artifacts → World → Prop
  | extraction {error : RunError} {after : World}
    (failed : (extract settings services).run.run start = (.error error, after)) :
    Ending (.error error) after
  | rawWrite {raw : Json} {before after : World} {error : RunError}
    (past : Extracted settings services start raw before)
    (failed : (write writer .rawSchema (settings.schemaPath id "generated-schema.json")
      (documentText raw)).run.run before = (.error error, after)) : Ending (.error error) after
  | preparation {raw : Json} {after : World} {error : SchemaError}
    (past : RawWritten writer settings services id start raw after)
    (refused : settings.prepareValue language raw = .error error) :
    Ending (.error (.schema error)) after
  | escapedWrite {raw : Json} {prepared : PreparedSchema} {before after : World} {error : RunError}
    (past : Prepared writer settings services id language start raw prepared before)
    (failed : (write writer .escapedSchema (settings.schemaPath id "postProcess.json")
      (documentText prepared.escaped.toJson)).run.run before = (.error error, after)) :
    Ending (.error error) after
  | generation {raw : Json} {prepared : PreparedSchema} {before after : World} {error : RunError}
    (past : EscapedWritten writer settings services id language start raw prepared before)
    (failed : (generate services (request settings id language prepared)).run.run before =
      (.error error, after)) : Ending (.error error) after
  | sourceWrite {raw : Json} {prepared : PreparedSchema} {lines : List String}
    {before after : World} {error : RunError}
    (past : Generated writer settings services id language start raw prepared lines before)
    (failed : (write writer .source language.outputPath
      (source settings language prepared lines)).run.run before = (.error error, after)) :
    Ending (.error error) after
  | restoring {raw : Json} {prepared : PreparedSchema} {after : World} {error : SchemaError}
    (past : SourceWritten writer settings services id language start raw prepared after)
    (refused : language.documented prepared.escaped = .error error) :
    Ending (.error (.schema error)) after
  | finalWrite {raw : Json} {prepared : PreparedSchema} {documented : Schema}
    {before after : World} {result : Except RunError Artifacts} {written : Except RunError Unit}
    (past : SourceWritten writer settings services id language start raw prepared before)
    (ended : (write writer .finalSchema (settings.schemaPath id "final.schema.json")
      (documentText documented.toJson)).run.run before = (written, after))
    (handed : ∀ error, result = .error error → written = .error error) : Ending result after

end Course

/-- Without settings for its language a run ends at once. -/
theorem languageBy_unconfigured {writer : FileWriter} {settings : Settings} {services : Services}
    {id : String} {start : World} {error : ConfigError}
    (refused : settings.language id = .error error) :
    (languageBy writer settings services id).run.run start = (.error (.config error), start) := by
  rw [languageBy, refused]
  rfl

/-- A run ends in one of these ways. -/
theorem languageBy_ending {writer : FileWriter} {settings : Settings} {services : Services}
    {id : String} {language : Language} {start after : World} {result : Except RunError Artifacts}
    (configured : settings.language id = .ok language)
    (ended : (languageBy writer settings services id).run.run start = (result, after)) :
    Ending writer settings services id language start result after := by
  rw [languageBy, configured] at ended
  simp only [prepareValue_eq] at ended
  obtain ⟨_, refused, _⟩ | ⟨_, found, ended⟩ := ofExcept_cases ended
  · contradiction
  cases found
  obtain ⟨_, failed, rfl⟩ | ⟨raw, first, extracted, ended⟩ := ran_cases ended
  · exact .extraction failed
  obtain ⟨_, failed, rfl⟩ | ⟨_, second, rawWritten, ended⟩ := ran_cases ended
  · exact .rawWrite extracted failed
  have rawPast : RawWritten writer settings services id start raw second :=
    ⟨first, extracted, rawWritten⟩
  obtain ⟨_, refused, rfl, rfl⟩ | ⟨prepared, accepted, ended⟩ := ofExcept_cases ended
  · exact .preparation rawPast refused
  obtain ⟨_, failed, rfl⟩ | ⟨_, third, escapedWritten, ended⟩ := ran_cases ended
  · exact .escapedWrite ⟨rawPast, accepted⟩ failed
  have escapedPast : EscapedWritten writer settings services id language start raw prepared third :=
    ⟨second, ⟨rawPast, accepted⟩, escapedWritten⟩
  obtain ⟨_, failed, rfl⟩ | ⟨lines, fourth, generated, ended⟩ := ran_cases ended
  · exact .generation escapedPast failed
  obtain ⟨_, failed, rfl⟩ | ⟨_, fifth, sourceWritten, ended⟩ := ran_cases ended
  · exact .sourceWrite ⟨third, escapedPast, generated⟩ failed
  have sourcePast : SourceWritten writer settings services id language start raw prepared fifth :=
    ⟨fourth, lines, ⟨third, escapedPast, generated⟩, sourceWritten⟩
  obtain ⟨_, refused, rfl, rfl⟩ | ⟨documented, _, ended⟩ := ofExcept_cases ended
  · exact .restoring sourcePast refused
  obtain ⟨_, failed, rfl⟩ | ⟨_, sixth, finalWritten, ended⟩ := ran_cases ended
  · exact .finalWrite sourcePast failed fun _ same => by cases same; rfl
  obtain ⟨rfl, rfl⟩ := Prod.mk.inj ended
  exact .finalWrite sourcePast finalWritten fun _ same => nomatch same

section Past

variable {writer : FileWriter} {settings : Settings} {services : Services} {id : String}
  {language : Language} {start : World} {raw : Json} {prepared : PreparedSchema} {world : World}

/-- A run has done the first things of its plan, and nothing else. -/
def Reached (settings : Settings) (id : String) (language : Language) (start : World) (count : Nat)
    (world : World) : Prop :=
  world.effects = start.effects ++ (plan settings id language).take count

/-- What a run does next is the next thing of its plan. -/
theorem Reached.next {count : Nat} {effect : Effect} {α : Type} {action : FileAction RunError α}
    {result : Except RunError α} {after : World}
    (reached : Reached settings id language start count world)
    (planned : (plan settings id language)[count]? = some effect)
    (ended : (do note effect; onFiles action : Run α).run.run world = (result, after)) :
    Reached settings id language start (count + 1) after := by
  rw [Reached, (performed ended).1, reached, List.append_assoc, List.take_add_one, planned]
  rfl

/-- A run that asks for its document does nothing before. -/
theorem reached_extract {result : Except RunError Json}
    (ended : (extract settings services).run.run start = (result, world)) :
    Reached settings id language start 1 world := by
  have none : Reached settings id language start 0 start := by simp [Reached]
  exact none.next rfl ended

/-- When the schema has been written as it came, two effects of the plan have been noted. -/
theorem RawWritten.reached (past : RawWritten writer settings services id start raw world) :
    Reached settings id language start 2 world := by
  obtain ⟨_, extracted, written⟩ := past
  exact (reached_extract extracted).next rfl written

/-- When the marked schema has been written, it is three. -/
theorem EscapedWritten.reached
    (past : EscapedWritten writer settings services id language start raw prepared world) :
    Reached settings id language start 3 world := by
  obtain ⟨_, ready, written⟩ := past
  exact ready.written.reached.next rfl written

/-- When the generator has given its lines, it is four. -/
theorem Generated.reached {lines : List String}
    (past : Generated writer settings services id language start raw prepared lines world) :
    Reached settings id language start 4 world := by
  obtain ⟨_, escaped, generated⟩ := past
  exact escaped.reached.next rfl generated

/-- When the source has been written, it is five, and only the last one is left. -/
theorem SourceWritten.reached
    (past : SourceWritten writer settings services id language start raw prepared world) :
    Reached settings id language start 5 world := by
  obtain ⟨_, _, generated, written⟩ := past
  exact generated.reached.next rfl written

/-- The document of a run comes from its service. -/
theorem RawWritten.distinct (honest : services.GivesDistinct)
    (past : RawWritten writer settings services id start raw world) : raw.Distinct := by
  obtain ⟨_, extracted, _⟩ := past
  exact extract_distinct honest extracted

/-- The schema that a run has prepared can be documented. Its restoring meets no fault, as it is
of the names that the check of the markers has accepted. -/
theorem Prepared.documented (honest : services.GivesDistinct)
    (spares : language.escaping.Spares language.reserved)
    (past : Prepared writer settings services id language start raw prepared world) :
    ∃ documented, language.documented prepared.escaped = .ok documented := by
  obtain ⟨schema, read, escaped, _, checked, _⟩ :=
    (settings.prepareValue_ok_iff language raw prepared).mp past.accepted
  have apart : prepared.escaped.Distinct :=
    ((Schema.ofJson_distinct read (past.written.distinct honest)).enveloped
      settings.schema.envelope).escaped spares escaped
  obtain ⟨count, restored⟩ := Schema.restore_of_checked apart checked
  refine ⟨prepared.escaped.renamed (language.escaping.restored language.restoring), ?_⟩
  rw [Language.documented, restored]

/-- Wherever a run has ended, it has done the first things of its plan. It has not come to its
generator before the marked schema was written, and from its source on it fails only on a
file. -/
theorem Ending.extent {result : Except RunError Artifacts} (honest : services.GivesDistinct)
    (spares : language.escaping.Spares language.reserved)
    (ending : Ending writer settings services id language start result world) :
    ∃ count, Reached settings id language start count world ∧
      (4 ≤ count → ∃ raw prepared between,
        EscapedWritten writer settings services id language start raw prepared between) ∧
      (5 ≤ count → ∀ error, result = .error error → ∃ fault, error = .file fault) := by
  cases ending with
  | extraction failed => exact ⟨1, reached_extract failed, by omega, by omega⟩
  | rawWrite past failed =>
    exact ⟨2, (reached_extract past).next rfl failed, by omega, by omega⟩
  | preparation past refused => exact ⟨2, past.reached, by omega, by omega⟩
  | escapedWrite past failed =>
    exact ⟨3, past.written.reached.next rfl failed, by omega, by omega⟩
  | generation past failed =>
    exact ⟨4, past.reached.next rfl failed, fun _ => ⟨_, _, _, past⟩, by omega⟩
  | sourceWrite past failed =>
    refine ⟨5, past.reached.next rfl failed, fun _ => ?_, fun _ error same => ?_⟩
    · obtain ⟨_, escaped, _⟩ := past
      exact ⟨_, _, _, escaped⟩
    · obtain rfl := Except.error.inj same
      exact write_error failed
  | restoring past refused =>
    obtain ⟨_, _, ⟨_, ⟨_, ready, _⟩, _⟩, _⟩ := past
    obtain ⟨_, documented⟩ := ready.documented honest spares
    rw [documented] at refused
    contradiction
  | finalWrite past ended handed =>
    refine ⟨6, past.reached.next rfl ended, fun _ => ?_, fun _ error same => ?_⟩
    · obtain ⟨_, _, ⟨_, escaped, _⟩, _⟩ := past
      exact ⟨_, _, _, escaped⟩
    · exact write_error (ended.trans (by rw [handed error same]))

/-- A run with the settings of its language fails on a file, on its schema, or with what a service
has answered. -/
theorem Ending.fault {error : RunError}
    (ending : Ending writer settings services id language start (.error error) world) :
    (∃ fault, error = .file fault) ∨ (∃ fault, error = .schema fault) ∨ services.Refuses error := by
  cases ending with
  | extraction failed => exact .inr (.inr (.inl ⟨_, _, _, (performed failed).2⟩))
  | rawWrite past failed => exact .inl (write_error failed)
  | preparation past refused => exact .inr (.inl ⟨_, rfl⟩)
  | escapedWrite past failed => exact .inl (write_error failed)
  | generation past failed => exact .inr (.inr (.inr ⟨_, _, _, (performed failed).2⟩))
  | sourceWrite past failed => exact .inl (write_error failed)
  | restoring past refused => exact .inr (.inl ⟨_, rfl⟩)
  | finalWrite past ended handed =>
    exact .inl (write_error (ended.trans (by rw [handed error rfl])))

/-- The first things of a plan contain a call of the generator only after three others. -/
theorem four_le_of_generate {count : Nat}
    (member : .generate id ∈ (plan settings id language).take count) : 4 ≤ count := by
  have before := (List.mem_take_iff_idxOf_lt (List.mem_of_mem_take member)).mp member
  rwa [show (plan settings id language).idxOf (.generate id) = 3 by simp [plan]] at before

/-- The first things of a plan contain a write of the source only after four others. -/
theorem five_le_of_source {count : Nat}
    (member : .write .source language.outputPath ∈ (plan settings id language).take count) :
    5 ≤ count := by
  have before := (List.mem_take_iff_idxOf_lt (List.mem_of_mem_take member)).mp member
  rwa [show (plan settings id language).idxOf (.write .source language.outputPath) = 4 by
    simp [plan]] at before

end Past

/-- A run that succeeds has done all of its plan. -/
theorem languageBy_complete {writer : FileWriter} {settings : Settings} {services : Services}
    {id : String} {language : Language} {start after : World} {artifacts : Artifacts}
    (configured : settings.language id = .ok language)
    (ended : (languageBy writer settings services id).run.run start = (.ok artifacts, after)) :
    after.effects = start.effects ++ plan settings id language := by
  cases languageBy_ending configured ended with
  | finalWrite past ended handed => exact past.reached.next rfl ended

end Run

/-- A configured language reserves no word that begins with its marker. -/
theorem Settings.language_spares {settings : Settings} {id : String} {language : Language}
    (configured : settings.language id = .ok language) :
    language.escaping.Spares language.reserved := by
  rw [Settings.language] at configured
  split at configured
  case h_1 => exact LanguageSettings.validate_spares configured
  case h_2 => contradiction

/-- A run for a language without valid settings fails with the fault of the settings, and does
nothing. Any other run does things in one order: it asks for the schema, writes it as it is, writes
it with its markers, asks the generator for lines, writes the source, and writes the schema without
its markers. It ends after some of these. If it has come to the generator, the schema has been
read and marked, no required entry is without a property, the markers can be taken away, and both
schemas have been written. If it has come to the write of the source, it fails only on a file. It
fails for its settings only if a service says so.

The writes and the services are any, and so a write may fail at any point. The documents of a
service have distinct keys, as all that are read have. -/
theorem Run.languageBy_order (writer : FileWriter) (settings : Settings) (services : Services)
    (id : String) (start after : World) (result : Except RunError Artifacts)
    (honest : services.GivesDistinct)
    (ended : (languageBy writer settings services id).run.run start = (result, after)) :
    (∀ error, settings.language id = .error error →
      result = .error (.config error) ∧ after = start) ∧
    ∀ language, settings.language id = .ok language →
      ∃ effects, effects <+: plan settings id language ∧ after.effects = start.effects ++ effects ∧
        (.generate id ∈ effects → ∃ raw schema escaped count extracted kept written,
          (extract settings services).run.run start = (.ok raw, extracted) ∧
          (write writer .rawSchema (settings.schemaPath id "generated-schema.json")
            (documentText raw)).run.run extracted = (.ok (), kept) ∧
          Schema.ofJson raw = .ok schema ∧
          (schema.enveloped settings.schema.envelope).escape language.reserved language.escaping =
            (escaped, .ok count) ∧
          escaped.violations = [] ∧
          escaped.checkRoundTrip language.reserved language.escaping language.restoring = .ok () ∧
          (write writer .escapedSchema (settings.schemaPath id "postProcess.json")
            (documentText escaped.toJson)).run.run kept = (.ok (), written)) ∧
        (.write .source language.outputPath ∈ effects →
          ∀ error, result = .error error → ∃ fault, error = .file fault) ∧
        (∀ error, result = .error (.config error) → services.Refuses (.config error)) := by
  constructor
  · intro error refused
    rw [languageBy_unconfigured refused] at ended
    obtain ⟨rfl, rfl⟩ := Prod.mk.inj ended
    exact ⟨rfl, rfl⟩
  · intro language configured
    have ending := languageBy_ending configured ended
    obtain ⟨count, reached, cleared, late⟩ :=
      ending.extent honest (Settings.language_spares configured)
    refine ⟨(plan settings id language).take count, List.take_prefix .., reached, ?generator,
      fun member => late (five_le_of_source member), ?settings⟩
    case generator =>
      intro member
      obtain ⟨raw, prepared, between, before, ready, escapedWritten⟩ :=
        cleared (four_le_of_generate member)
      obtain ⟨schema, read, escaped, declared, checked, _⟩ :=
        (settings.prepareValue_ok_iff language raw prepared).mp ready.accepted
      obtain ⟨extracted, given, rawWritten⟩ := ready.written
      exact ⟨raw, schema, _, _, extracted, before, between, given, rawWritten, read, escaped,
        declared, checked, escapedWritten⟩
    case settings =>
      rintro error rfl
      obtain ⟨_, other⟩ | ⟨_, other⟩ | refused := ending.fault
      · contradiction
      · contradiction
      · exact refused

/-- A way to write files that refuses one of them and notes none. -/
def FileWriter.refusing (refused : String) : FileWriter := fun path _ =>
  if path = refused then throw ⟨path, .permissionDenied⟩ else return ()

/-- Settings with one language, which reserves a word. -/
def Settings.reservingElse : Settings where
  languages := [("python", .reservingElse)]

/-- A service that gives one document gives it without repeated keys, if it has none. -/
theorem Services.answering_givesDistinct {raw : Json} (distinct : raw.Distinct) :
    (Services.answering raw).GivesDistinct := by
  intro _ _ given _ answered
  obtain rfl : raw = given := Except.ok.inj (congrArg Prod.fst answered)
  exact distinct

/-- The path at which the last write is refused. -/
def Settings.refusedPath : String :=
  Settings.reservingElse.schemaPath "python" "final.schema.json"

/-- With its schema prepared, a run goes as far as the write that is refused. -/
theorem Run.languageBy_refusing {restoring : Rule} {prepared : PreparedSchema} {documented : Schema}
    (configured : Settings.reservingElse.language "python" = .ok (.reservingElse restoring))
    (accepted : Settings.reservingElse.prepareValue (.reservingElse restoring)
      (.demanding "else") = .ok prepared)
    (restored : (Language.reservingElse restoring).documented prepared.escaped = .ok documented) :
    (languageBy (.refusing Settings.refusedPath) .reservingElse (.answering (.demanding "else"))
      "python").run.run ⟨.empty, []⟩ =
      (.error (.file ⟨Settings.refusedPath, .permissionDenied⟩),
        ⟨.empty, plan .reservingElse "python" (.reservingElse restoring)⟩) := by
  rw [languageBy, configured]
  simp only [prepareValue_eq]
  refine (ran_ok rfl).trans ?_
  refine (ran_ok rfl).trans ?_
  refine (ran_ok rfl).trans ?_
  refine (ran_ok (by rw [accepted]; rfl)).trans ?_
  refine (ran_ok rfl).trans ?_
  refine (ran_ok rfl).trans ?_
  refine (ran_ok rfl).trans ?_
  refine (ran_ok (by rw [restored]; rfl)).trans ?_
  exact ran_error rfl

/-- A run that may not write its last file has done all of its plan, has marked a schema on which
all checks succeed, and fails on that file. -/
theorem Run.languageBy_order_at_refused_write :
    ∃ language after schema escaped count fault,
      Settings.reservingElse.language "python" = .ok language ∧
      (languageBy (.refusing Settings.refusedPath) .reservingElse (.answering (.demanding "else"))
        "python").run.run ⟨.empty, []⟩ = (.error (.file fault), after) ∧
      after.effects = plan .reservingElse "python" language ∧
      Schema.ofJson (.demanding "else") = .ok schema ∧
      (schema.enveloped Settings.reservingElse.schema.envelope).escape language.reserved
        language.escaping = (escaped, .ok count) ∧
      escaped.violations = [] ∧
      escaped.checkRoundTrip language.reserved language.escaping language.restoring = .ok () := by
  have judged : (Rule.compile "quicktype_" "g" "py_").toOption.map (fun restoring =>
      ((Schema.demandingMarked "else").checkRoundTrip ⟨["else"]⟩ {} restoring).toOption) =
        some (some ()) := by decide +kernel
  obtain ⟨restoring, compiled, checked⟩ := Option.map_eq_some_iff.mp judged
  rw [toOption_eq_some_iff] at compiled checked
  have configured : Settings.reservingElse.language "python" = .ok (.reservingElse restoring) :=
    LanguageSettings.reservingElse_validate compiled
  have honest : (Services.answering (.demanding "else")).GivesDistinct :=
    Services.answering_givesDistinct (by decide)
  have ready : Prepared (.refusing Settings.refusedPath) .reservingElse
      (.answering (.demanding "else")) "python" (.reservingElse restoring) ⟨.empty, []⟩
      (.demanding "else") ⟨.demanding "else", Schema.demandingMarked "else", 1⟩ _ :=
    ⟨⟨_, rfl, rfl⟩, (Settings.prepareValue_ok_iff _ _ _ _).mpr
      ⟨.demanding "else", Schema.ofJson_demanding "else", rfl, by decide, checked, rfl⟩⟩
  obtain ⟨documented, restored⟩ := ready.documented honest (Settings.language_spares configured)
  have ended := languageBy_refusing configured ready.accepted restored
  obtain ⟨effects, _, same, cleared, late, _⟩ :=
    (languageBy_order _ _ _ _ _ _ _ honest ended).2 _ configured
  obtain rfl : plan .reservingElse "python" (.reservingElse restoring) = effects := same
  obtain ⟨raw, schema, escaped, count, _, _, _, given, _, read, marked, declared, held, _⟩ :=
    cleared (by simp [plan])
  obtain rfl : .demanding "else" = raw := Except.ok.inj (congrArg Prod.fst given)
  obtain ⟨fault, same⟩ := late (by simp [plan]) _ rfl
  rw [same] at ended
  exact ⟨_, _, schema, escaped, count, fault, configured, ended, rfl, read, marked, declared, held⟩

end SchemaBindings
