import SchemaBindings.Generation.Run
import SchemaBindings.Proofs.Reading
import SchemaBindings.Proofs.Restoring

/-!
# From a document to the restored schema

A document is prepared by reading it, enveloping it, marking its reserved properties and
checking the marked schema; after generation the marked schema is restored. On a
prepared schema restoring never fails. But the check sees the marked schema only, and
there a property that had the form of a marked reserved word from the beginning looks
like one that has been marked. Such a name is restored with the others instead of being
refused as a plain name with the marker in it. The same holds for a required entry of
that form which named nothing until a property was marked.

So what comes back is the document with its reserved names returned and all else
unchanged, exactly if the document has no name of that form.
-/
namespace SchemaBindings

namespace EscapeRule

variable (rule : EscapeRule) (reserved : ReservedWords) (restoring : Rule)

/-- The name under which a property is to come back: a reserved name is marked and restored, any
other stays. -/
def returned (name : String) : String :=
  if reserved.contains name then restoring.apply (rule.escape name) else name

variable {rule reserved restoring} {names : List String} {name : String}

/-- Among names that can be restored, none that has the form of a marked reserved word stays. -/
theorem Restorable.restored_ne (restorable : rule.Restorable reserved restoring names)
    (member : name ∈ names) (produced : rule.produces reserved name = true) :
    rule.restored restoring name ≠ name := by
  have marked := rule.occursIn_of_produces reserved name produced
  rw [restored, if_pos marked]
  intro same
  have unmarked := restorable.unmarked name member produced
  rw [same, marked] at unmarked
  contradiction

/-- A name that does not have the form of a marked reserved word is marked and restored to the name
under which it is to come back. -/
theorem Restorable.restored_marked
    (restorable : rule.Restorable reserved restoring (names.map (rule.marked reserved)))
    (member : name ∈ names) (plain : rule.produces reserved name = false) :
    rule.restored restoring (rule.marked reserved name) = rule.returned reserved restoring name := by
  cases contained : reserved.contains name with
  | true =>
    have occurs := rule.occursIn_of_isEscaped _ (rule.isEscaped_escape name)
    simp only [restored, marked, returned, contained, if_true, occurs]
  | false =>
    have stays : rule.marked reserved name = name := by simp [marked, contained]
    have present : name ∈ names.map (rule.marked reserved) :=
      List.mem_map.mpr ⟨name, member, stays⟩
    simp [stays, restored, returned, contained, restorable.plain name present plain]

/-- Restoring keeps the names of an object distinct. -/
theorem Restorable.nodup_restored (restorable : rule.Restorable reserved restoring names)
    (distinct : names.Nodup) : (names.map (rule.restored restoring)).Nodup :=
  restorable.admits.nodup_filter rule.occursIn distinct

/-- A restored name has no marker. -/
theorem Restorable.occursIn_restored (restorable : rule.Restorable reserved restoring names)
    (member : name ∈ names) : rule.occursIn (rule.restored restoring name) = false := by
  rw [restored, restorable.occursIn_eq member]
  cases produced : rule.produces reserved name with
  | true => exact restorable.unmarked name member produced
  | false => exact restorable.plain name member produced

/-- A name that is restored from a marked one is not reserved. -/
theorem Restorable.restored_marked_not_reserved
    (restorable : rule.Restorable reserved restoring (names.map (rule.marked reserved)))
    (spares : rule.Spares reserved) (member : name ∈ names) :
    reserved.contains (rule.restored restoring (rule.marked reserved name)) = false := by
  have present : rule.marked reserved name ∈ names.map (rule.marked reserved) :=
    List.mem_map_of_mem member
  rw [restored, restorable.occursIn_eq present]
  cases produced : rule.produces reserved (rule.marked reserved name) with
  | true => exact restorable.unreserved _ present produced
  | false =>
    cases contained : reserved.contains name with
    | false => simp [marked, contained]
    | true =>
      have free := spares.escape_not_reserved name
      rw [← reserved.contains_iff, Bool.not_eq_true] at free
      simpa [marked, contained] using free

end EscapeRule

namespace Schema

variable (rule : EscapeRule) (reserved : ReservedWords) (restoring : Rule)

/-- A schema has come back from another one: every reserved name is returned together with the
required entries that name it, and nothing else has changed. In every object the returned names are
distinct, none of them is reserved, and none has the marker. -/
structure Returned (before after : Schema) : Prop where
  renamed : after = before.renamed (rule.returned reserved restoring)
  separate : ∀ shape ∈ before.shapes, ∀ left ∈ shape.names, ∀ right ∈ shape.names,
    rule.returned reserved restoring left = rule.returned reserved restoring right → left = right
  unreserved : ∀ shape ∈ before.shapes, ∀ name ∈ shape.names,
    reserved.contains (rule.returned reserved restoring name) = false
  unmarked : ∀ shape ∈ before.shapes, ∀ name ∈ shape.names,
    rule.occursIn (rule.returned reserved restoring name) = false

/-- No name of a property and no required entry of a schema has the form of a marked reserved
word. -/
def Unproduced (schema : Schema) : Prop :=
  ∀ shape ∈ schema.shapes, ∀ name ∈ shape.names ++ shape.entries,
    rule.produces reserved name = false

instance (schema : Schema) : Decidable (schema.Unproduced rule reserved) :=
  inferInstanceAs (Decidable (∀ shape ∈ schema.shapes, ∀ name ∈ shape.names ++ shape.entries,
    rule.produces reserved name = false))

variable {rule reserved restoring}

/-- A schema without names of the form of a marked reserved word comes back when it is marked and
restored. -/
theorem Unproduced.returned {schema : Schema} (unproduced : schema.Unproduced rule reserved)
    (spares : rule.Spares reserved)
    (once : ∀ shape ∈ schema.shapes, (shape.names.map (rule.marked reserved)).Nodup)
    (restorable : ∀ shape ∈ schema.shapes,
      rule.Restorable reserved restoring (shape.names.map (rule.marked reserved))) :
    schema.Returned rule reserved restoring
      ((schema.renamed (rule.marked reserved)).renamed (rule.restored restoring)) := by
  have agree (shape : ObjectNode) (member : shape ∈ schema.shapes) (name : String)
      (present : name ∈ shape.names) :
      rule.restored restoring (rule.marked reserved name) =
        rule.returned reserved restoring name :=
    (restorable shape member).restored_marked present
      (unproduced shape member name (List.mem_append_left _ present))
  constructor
  · rw [renamed_renamed]
    · exact renamed_congr agree
    · intro shape member entry required unnamed met
      obtain ⟨name, present, rfl⟩ := List.mem_map.mp met
      have plain := unproduced shape member _ (List.mem_append_right _ required)
      cases contained : reserved.contains name with
      | true =>
        have produced : rule.produces reserved (rule.marked reserved name) = true :=
          (rule.produces_iff reserved _).mpr
            ⟨name, contained, by simp [EscapeRule.marked, contained]⟩
        rw [produced] at plain
        contradiction
      | false =>
        refine absurd present ?_
        simpa [EscapeRule.marked, contained] using unnamed
  · intro shape member left leftMember right rightMember same
    rw [← agree shape member left leftMember, ← agree shape member right rightMember] at same
    have twice := (restorable shape member).nodup_restored (once shape member)
    rw [List.map_map] at twice
    exact List.inj_on_of_nodup_map twice leftMember rightMember same
  · intro shape member name present
    rw [← agree shape member name present]
    exact (restorable shape member).restored_marked_not_reserved spares present
  · intro shape member name present
    rw [← agree shape member name present]
    exact (restorable shape member).occursIn_restored (List.mem_map_of_mem present)

/-- If a schema without open required entries comes back when it is marked and restored, then none
of its names has the form of a marked reserved word. -/
theorem Unproduced.of_renamed {schema : Schema} (spares : rule.Spares reserved)
    (declared : (schema.renamed (rule.marked reserved)).violations = [])
    (restorable : ∀ shape ∈ schema.shapes,
      rule.Restorable reserved restoring (shape.names.map (rule.marked reserved)))
    (back : (schema.renamed (rule.marked reserved)).renamed (rule.restored restoring) =
      schema.renamed (rule.returned reserved restoring)) :
    schema.Unproduced rule reserved := by
  have shapes := congrArg Schema.shapes back
  simp only [shapes_renamed, List.map_map, List.map_inj_left, Function.comp_apply] at shapes
  intro shape member name listed
  by_contra produced
  rw [Bool.not_eq_false] at produced
  -- A name of this form is not reserved, so marking leaves it as it is.
  have free : reserved.contains name = false := by
    rw [← Bool.not_eq_true, reserved.contains_iff]
    intro word
    have unescaped := spares name word
    rw [rule.isEscaped_of_produces reserved name produced] at unescaped
    contradiction
  have stays : rule.marked reserved name = name := by simp [EscapeRule.marked, free]
  have kept : rule.returned reserved restoring name = name := by simp [EscapeRule.returned, free]
  have moves (present : name ∈ shape.names.map (rule.marked reserved)) :
      rule.restored restoring name ≠ name :=
    (restorable shape member).restored_ne present produced
  by_cases named : name ∈ shape.names
  · have names := congrArg ObjectShape.names (shapes shape member)
    simp only [Node.names_renamedObject, List.map_map, List.map_inj_left,
      Function.comp_apply] at names
    have same := names name named
    rw [stays, kept] at same
    exact moves (List.mem_map.mpr ⟨name, named, stays⟩) same
  · have required : name ∈ shape.entries := (List.mem_append.mp listed).resolve_left named
    have present : name ∈ shape.names.map (rule.marked reserved) := by
      rw [violations_eq_nil_iff] at declared
      have met := declared (Node.renamedObject (rule.marked reserved) shape)
        (by simpa using ⟨shape, member, rfl⟩) name
      simp only [Node.entries_renamedObject, Node.names_renamedObject] at met
      exact met (List.mem_map.mpr
        ⟨name, required, ObjectShape.renamedEntry_of_not_mem _ named⟩)
    have entries := congrArg ObjectShape.entries (shapes shape member)
    simp only [Node.entries_renamedObject, List.map_map, List.map_inj_left,
      Function.comp_apply] at entries
    have same := entries name required
    rw [ObjectShape.renamedEntry_of_not_mem _ named, ObjectShape.renamedEntry_of_not_mem _ named,
      ObjectShape.renamedEntry_of_mem _ (by simpa using present)] at same
    exact moves present same

end Schema

/-- The marker and the reserved words of a validated language are accepted ones. -/
theorem LanguageSettings.validate_processing {settings : LanguageSettings} {id : String}
    {language : Language} (validated : settings.validate id = .ok language) :
    ∃ processing : ProcessingSettings, processing.validateMarker id = .ok language.escaping ∧
      processing.validateWords id language.escaping = .ok language.reserved := by
  simp only [validate, bind_ok_iff] at validated
  obtain ⟨processing, _, _, _, _, _, _, _, escaping, marker, reserved, words, _, _, validated⟩ :=
    validated
  have kept : language.escaping = escaping ∧ language.reserved = reserved := by
    split at validated <;>
    · simp only [bind_ok_iff] at validated
      obtain ⟨_, _, _, _, same⟩ := validated
      obtain rfl := Except.ok.inj same
      exact ⟨rfl, rfl⟩
  rw [kept.1, kept.2]
  exact ⟨processing, marker, words⟩

/-- A validated language reserves no word that begins with its marker. -/
theorem LanguageSettings.validate_spares {settings : LanguageSettings} {id : String}
    {language : Language} (validated : settings.validate id = .ok language) :
    language.escaping.Spares language.reserved := by
  obtain ⟨processing, _, words⟩ := validate_processing validated
  rw [ProcessingSettings.validateWords] at words
  split at words
  case h_1 => contradiction
  case h_2 none =>
    rw [← Except.ok.inj words]
    simpa [EscapeRule.Spares] using none

/-- A document is prepared exactly if it can be read, its marking succeeds, no required entry of the
marked schema is without a property, and the marks can be taken away again. -/
theorem Settings.prepareValue_ok_iff (settings : Settings) (language : Language) (raw : Json)
    (prepared : PreparedSchema) :
    settings.prepareValue language raw = .ok prepared ↔
      ∃ schema, Schema.ofJson raw = .ok schema ∧
        (schema.enveloped settings.schema.envelope).escape language.reserved language.escaping =
          (prepared.escaped, .ok prepared.escapedProperties) ∧
        prepared.escaped.violations = [] ∧
        prepared.escaped.checkRoundTrip language.reserved language.escaping language.restoring =
          .ok () ∧
        prepared.raw = raw := by
  rw [prepareValue, bind_ok_iff]
  refine exists_congr fun schema => and_congr_right fun _ => ?_
  rcases (schema.enveloped settings.schema.envelope).escape language.reserved language.escaping
    with ⟨escaped, outcome⟩
  simp only [bind_ok_iff, Prod.mk.injEq]
  constructor
  · rintro ⟨count, rfl, ended⟩
    split at ended
    case h_1 => contradiction
    case h_2 none =>
      rw [bind_ok_iff] at ended
      obtain ⟨_, checked, same⟩ := ended
      obtain rfl := Except.ok.inj same
      exact ⟨⟨rfl, rfl⟩, none, checked, rfl⟩
  · rintro ⟨⟨rfl, rfl⟩, none, checked, rfl⟩
    refine ⟨prepared.escapedProperties, rfl, ?_⟩
    rw [none, bind_ok_iff]
    exact ⟨(), checked, rfl⟩

/-- A run prepares the document that it is given. -/
theorem Run.prepare_of_extract {settings : Settings} {services : Services} {raw : Json}
    {world between : World} (language : Language)
    (extracted : (Run.extract settings services).run.run world = (.ok raw, between)) :
    (Run.prepare settings services language).run.run world =
      ((settings.prepareValue language raw).mapError .schema, between) := by
  rw [Run.prepare, ExceptT.run_bind, StateT.run_bind, extracted]
  change (Run.prepareValue settings language raw).run.run between = _
  rw [Run.prepareValue]
  cases settings.prepareValue language raw with
  | ok prepared => rfl
  | error error => rfl

/-- If a run prepares the document that it is given, then preparing the document succeeds. -/
theorem Run.accepted_of_prepare {settings : Settings} {services : Services} {language : Language}
    {raw : Json} {prepared : PreparedSchema} {world between after : World}
    (extracted : (Run.extract settings services).run.run world = (.ok raw, between))
    (ready : (Run.prepare settings services language).run.run world = (.ok prepared, after)) :
    settings.prepareValue language raw = .ok prepared := by
  rw [Run.prepare_of_extract language extracted] at ready
  have result := congrArg Prod.fst ready
  cases outcome : settings.prepareValue language raw with
  | error error => simp [outcome, Except.mapError] at result
  | ok value => simpa [outcome, Except.mapError] using result

/-- A schema that a run has prepared for a validated language can be restored, and afterwards the
names of every object are distinct, not reserved and without the marker. It has come back with its
reserved names returned and all else unchanged exactly if the document has, in its definitions, no
name of a property and no required entry of the form of a marked reserved word. -/
theorem Run.prepare_returned_iff (settings : Settings) (services : Services)
    (chosen : LanguageSettings) (id : String) (language : Language) (raw : Json)
    (prepared : PreparedSchema) (world between after : World)
    (validated : chosen.validate id = .ok language)
    (extracted : (Run.extract settings services).run.run world = (.ok raw, between))
    (distinct : raw.Distinct)
    (ready : (Run.prepare settings services language).run.run world = (.ok prepared, after)) :
    ∃ schema restored count, Schema.ofJson raw = .ok schema ∧
      prepared.escaped.restore language.escaping language.restoring = (restored, .ok count) ∧
      (∀ shape ∈ restored.shapes, shape.names.Nodup ∧ ∀ name ∈ shape.names,
        language.reserved.contains name = false ∧ language.escaping.occursIn name = false) ∧
      (Schema.Returned language.escaping language.reserved language.restoring
          (schema.enveloped settings.schema.envelope) restored ↔
        (schema.enveloped settings.schema.envelope).Unproduced language.escaping
          language.reserved) := by
  have accepted := Run.accepted_of_prepare extracted ready
  obtain ⟨schema, read, ended, declared, checked, _⟩ :=
    (settings.prepareValue_ok_iff language raw prepared).mp accepted
  have spares := LanguageSettings.validate_spares validated
  have apart := (Schema.ofJson_distinct read distinct).enveloped settings.schema.envelope
  obtain ⟨markable, marked⟩ := Schema.escape_ok spares apart ended
  rw [marked] at declared checked ⊢
  have once : ∀ shape ∈ (schema.enveloped settings.schema.envelope).shapes,
      (shape.names.map (language.escaping.marked language.reserved)).Nodup := fun shape member =>
    (markable shape member).nodup_marked spares (apart.properties shape member)
  have restorable : ∀ shape ∈ (schema.enveloped settings.schema.envelope).shapes,
      language.escaping.Restorable language.reserved language.restoring
        (shape.names.map (language.escaping.marked language.reserved)) := by
    intro shape member
    have each := Schema.checkRoundTrip_ok_iff _ |>.mp checked
    have held := each (Node.renamedObject _ shape) (by simpa using ⟨shape, member, rfl⟩)
    rwa [Node.names_renamedObject] at held
  obtain ⟨count, back⟩ := Schema.restore_of_checked (apart.renamed once) checked
  refine ⟨schema, _, count, read, back, ?_, ?_⟩
  · intro after member
    rw [Schema.shapes_renamed, Schema.shapes_renamed, List.map_map] at member
    obtain ⟨shape, present, rfl⟩ := List.mem_map.mp member
    rw [Function.comp_apply, Node.names_renamedObject, Node.names_renamedObject]
    refine ⟨(restorable shape present).nodup_restored (once shape present), ?_⟩
    intro name listed
    rw [List.map_map] at listed
    obtain ⟨before, named, rfl⟩ := List.mem_map.mp listed
    exact ⟨(restorable shape present).restored_marked_not_reserved spares named,
      (restorable shape present).occursIn_restored (List.mem_map_of_mem named)⟩
  · constructor
    · intro returned
      exact .of_renamed spares declared restorable returned.renamed
    · intro unproduced
      exact unproduced.returned spares once restorable

/-- Settings that reserve a word and have another text put in the place of the marker. -/
def LanguageSettings.reservingElse : LanguageSettings where
  rendererOptions := some []
  processing := some {
    outputDir := some "generated.py"
    reservedWords := some ["else"]
    propertyRegex := some ⟨some "quicktype_", some "g", some "py_"⟩ }

/-- The language that these settings ask for, with the rule as it is compiled. -/
def Language.reservingElse (restoring : Rule) : Language where
  id := "python"
  options := []
  outputPath := "generated.py"
  reserved := ⟨["else"]⟩
  escaping := {}
  restoring
  custom := none
  union := ⟨false, "", ""⟩

/-- These settings are complete, with one reserved word and a rule that puts another text in the
place of the marker. -/
theorem LanguageSettings.reservingElse_validate {restoring : Rule}
    (compiled : Rule.compile "quicktype_" "g" "py_" = .ok restoring) :
    reservingElse.validate "python" = .ok (.reservingElse restoring) := by
  have rule : RuleSettings.validate ⟨some "quicktype_", some "g", some "py_"⟩ "python"
      "processing.propertyRegex" = .ok restoring := by
    simp [RuleSettings.validate, Config.required, compiled, bind, Except.bind, pure, Except.pure]
  simp only [validate, reservingElse, Config.required, bind, Except.bind, rule]
  rfl

/-- Under settings that are accepted, a marking that succeeds leaves no reserved name in any object,
and marking once more succeeds, counts nothing and leaves the schema exactly as it is. -/
theorem LanguageSettings.validate_escape_twice (chosen : LanguageSettings) (id : String)
    (language : Language) (schema escaped : Schema) (count : Nat)
    (validated : chosen.validate id = .ok language) (distinct : schema.Distinct)
    (ended : schema.escape language.reserved language.escaping = (escaped, .ok count)) :
    (∀ shape ∈ escaped.shapes, ∀ name ∈ shape.names, language.reserved.contains name = false) ∧
      escaped.escape language.reserved language.escaping = (escaped, .ok 0) := by
  have spares := validate_spares validated
  have unreserved := Schema.escaped_not_reserved spares distinct ended
  exact ⟨unreserved,
    Schema.escape_of_unreserved spares (distinct.escaped spares ended) unreserved⟩

/-- In a schema of nested objects a reserved property and the required entry that names it are
marked, and they are not marked again. -/
theorem LanguageSettings.validate_escape_twice_at_nested_objects :
    ∃ restoring escaped,
      reservingElse.validate "python" = .ok (.reservingElse restoring) ∧
      Schema.nestedObjects.Distinct ∧
      Schema.nestedObjects.escape ⟨["else"]⟩ {} = (escaped, .ok 1) ∧
      escaped.shapes.map ObjectShape.names =
        [["when", "quicktype_else"], ["class"], ["name", "return"]] ∧
      escaped.escape ⟨["else"]⟩ {} = (escaped, .ok 0) := by
  have accepted : (Rule.compile "quicktype_" "g" "py_").toOption.isSome = true := by
    decide +kernel
  obtain ⟨restoring, compiled⟩ := Option.isSome_iff_exists.mp accepted
  rw [toOption_eq_some_iff] at compiled
  have validated := reservingElse_validate compiled
  have distinct : Schema.nestedObjects.Distinct := by decide
  have ended : (Schema.nestedObjects.escape ⟨["else"]⟩ {}).2 = .ok 1 := by decide
  obtain ⟨_, again⟩ := validate_escape_twice _ _ _ Schema.nestedObjects _ 1 validated distinct
    (Prod.ext rfl ended)
  exact ⟨restoring, _, validated, distinct, Prod.ext rfl ended, by decide, again⟩

/-- A document with one definition, which demands its one property. -/
def Json.demanding (name : String) : Json :=
  .object [("definitions", .object [("Cond", .object
    [("properties", .object [(name, .object [])]), ("required", .array [.string name])])])]

/-- The schema of that document. -/
def Schema.demanding (name : String) : Schema where
  root := .scalar []
  definitions := [("Cond", .object ⟨[(name, .scalar [])], true, some [name], .absent, []⟩)]
  writtenKey := some .definitions

/-- The document is read as the schema, whatever the name is. -/
theorem Schema.ofJson_demanding (name : String) :
    Schema.ofJson (.demanding name) = .ok (.demanding name) := by
  simp [Schema.ofJson, Json.demanding, Schema.demanding, Schema.definitionsOf, Node.tableOfJson,
    Node.ofJson, Node.ofFields, keywordFault, unsupportedKeywords, Table.has, Table.erase,
    List.lookup_cons, compositionsOf, CompositionKind.all, CompositionKind.keyword,
    hasObjectKeyword, typeIs, shapesOf, Node.propertiesOf, Node.additionalOf, requiredOf,
    requiredNames, objectExtra, Pointer.isRoot, Pointer.root, Pointer.child]

/-- The marked form of the schema that is prepared from that document. -/
def Schema.demandingMarked (name : String) : Schema :=
  (((Schema.demanding name).enveloped ({} : Settings).schema.envelope).escape ⟨["else"]⟩ {}).1

/-- A service that has one document, and a generator that writes nothing. -/
def Services.answering (raw : Json) : Services := ⟨fun _ => return raw, fun _ => return []⟩

/-- The one document that a service has is prepared if the parts of its preparation succeed. -/
theorem Run.prepare_answering (language : Language) {raw : Json} {schema escaped : Schema}
    {count : Nat} (read : Schema.ofJson raw = .ok schema)
    (ended : (schema.enveloped ({} : Settings).schema.envelope).escape language.reserved
      language.escaping = (escaped, .ok count))
    (declared : escaped.violations = [])
    (checked : escaped.checkRoundTrip language.reserved language.escaping language.restoring =
      .ok ()) :
    (Run.prepare {} (.answering raw) language).run.run ⟨.empty, []⟩ =
      (.ok ⟨raw, escaped, count⟩, ⟨.empty, [.extract "Instruction"]⟩) := by
  have accepted : ({} : Settings).prepareValue language raw = .ok ⟨raw, escaped, count⟩ :=
    (Settings.prepareValue_ok_iff _ _ _ _).mpr ⟨schema, read, ended, declared, checked, rfl⟩
  have extracted : (Run.extract {} (.answering raw)).run.run ⟨.empty, []⟩ =
      (.ok raw, ⟨.empty, [.extract "Instruction"]⟩) := rfl
  rw [Run.prepare_of_extract _ extracted, accepted]
  rfl

/-- The document with one definition is prepared if the parts of its preparation succeed. -/
theorem Run.prepare_demanding {name : String} {restoring : Rule} {count : Nat}
    (ended : (((Schema.demanding name).enveloped ({} : Settings).schema.envelope).escape
      ⟨["else"]⟩ {}).2 = .ok count)
    (declared : (Schema.demandingMarked name).violations = [])
    (checked : (Schema.demandingMarked name).checkRoundTrip ⟨["else"]⟩ {} restoring = .ok ()) :
    (Run.prepare {} (.answering (.demanding name)) (.reservingElse restoring)).run.run ⟨.empty, []⟩ =
      (.ok ⟨.demanding name, Schema.demandingMarked name, count⟩,
        ⟨.empty, [.extract "Instruction"]⟩) :=
  Run.prepare_answering (.reservingElse restoring) (Schema.ofJson_demanding name)
    (Prod.ext rfl ended) declared checked

/-- A document with a reserved name comes back with another name in its place. -/
theorem Run.prepare_returned_at_reserved_name :
    ∃ restoring prepared after schema restored count,
      LanguageSettings.reservingElse.validate "python" = .ok (.reservingElse restoring) ∧
      (Run.prepare {} (.answering (.demanding "else")) (.reservingElse restoring)).run.run
        ⟨.empty, []⟩ = (.ok prepared, after) ∧
      Schema.ofJson (.demanding "else") = .ok schema ∧
      prepared.escaped.restore {} restoring = (restored, .ok count) ∧
      Schema.Returned {} ⟨["else"]⟩ restoring
        (schema.enveloped ({} : Settings).schema.envelope) restored := by
  have judged : (Rule.compile "quicktype_" "g" "py_").toOption.map (fun restoring =>
      ((Schema.demandingMarked "else").checkRoundTrip ⟨["else"]⟩ {} restoring).toOption) =
        some (some ()) := by decide +kernel
  obtain ⟨restoring, compiled, checked⟩ := Option.map_eq_some_iff.mp judged
  rw [toOption_eq_some_iff] at compiled checked
  have validated := LanguageSettings.reservingElse_validate compiled
  have ended : (((Schema.demanding "else").enveloped ({} : Settings).schema.envelope).escape
      ⟨["else"]⟩ {}).2 = .ok 1 := rfl
  have ready := Run.prepare_demanding ended (by decide) checked
  have unproduced : ((Schema.demanding "else").enveloped
      ({} : Settings).schema.envelope).Unproduced {} ⟨["else"]⟩ := by decide
  have distinct : (Json.demanding "else").Distinct := by decide
  obtain ⟨schema, restored, count, read, back, _, exactly⟩ :=
    Run.prepare_returned_iff {} (.answering (.demanding "else")) .reservingElse "python"
      (.reservingElse restoring) (.demanding "else") _ ⟨.empty, []⟩ _ _ validated rfl distinct ready
  refine ⟨restoring, _, _, schema, restored, count, validated, ready, read, back, ?_⟩
  obtain rfl : Schema.demanding "else" = schema :=
    Except.ok.inj ((Schema.ofJson_demanding "else").symm.trans read)
  exact exactly.mpr unproduced

/-- A document with a name that looks like a marked reserved word is prepared as well, and the name
comes back changed, although it is not reserved. -/
theorem Run.prepare_changes_plain_name :
    ∃ restoring prepared after restored count,
      LanguageSettings.reservingElse.validate "python" = .ok (.reservingElse restoring) ∧
      (Run.prepare {} (.answering (.demanding "quicktype_else")) (.reservingElse restoring)).run.run
        ⟨.empty, []⟩ = (.ok prepared, after) ∧
      Schema.ofJson (.demanding "quicktype_else") = .ok (.demanding "quicktype_else") ∧
      prepared.escaped.restore {} restoring = (restored, .ok count) ∧
      restored.shapes.map ObjectShape.names = [["py_else"]] ∧
      ¬ Schema.Returned {} ⟨["else"]⟩ restoring
        ((Schema.demanding "quicktype_else").enveloped ({} : Settings).schema.envelope)
        restored := by
  have judged : (Rule.compile "quicktype_" "g" "py_").toOption.map (fun restoring =>
      (((Schema.demandingMarked "quicktype_else").checkRoundTrip ⟨["else"]⟩ {} restoring).toOption,
        ((Schema.demandingMarked "quicktype_else").restore {} restoring).2.toOption,
        ((Schema.demandingMarked "quicktype_else").restore {} restoring).1.shapes.map
          ObjectShape.names)) =
        some (some (), some 1, [["py_else"]]) := by decide +kernel
  obtain ⟨restoring, compiled, facts⟩ := Option.map_eq_some_iff.mp judged
  simp only [Prod.mk.injEq, toOption_eq_some_iff] at compiled facts
  obtain ⟨checked, back, names⟩ := facts
  have ended : (((Schema.demanding "quicktype_else").enveloped
      ({} : Settings).schema.envelope).escape ⟨["else"]⟩ {}).2 = .ok 0 := rfl
  have ready := Run.prepare_demanding ended (by decide) checked
  refine ⟨restoring, _, _, _, 1, LanguageSettings.reservingElse_validate compiled, ready,
    Schema.ofJson_demanding _, Prod.ext rfl back, names, fun returned => ?_⟩
  have expected : (((Schema.demanding "quicktype_else").enveloped
      ({} : Settings).schema.envelope).renamed
        (EscapeRule.returned {} ⟨["else"]⟩ restoring)).shapes.map ObjectShape.names =
      [["quicktype_else"]] := rfl
  rw [← returned.renamed] at expected
  rw [expected] at names
  exact absurd names (by decide)

end SchemaBindings
