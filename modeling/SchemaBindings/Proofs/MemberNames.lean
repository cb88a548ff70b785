import SchemaBindings.Proofs.DefinitionNames
import SchemaBindings.Proofs.Unions

/-!
# Names of members and the restoring rule

The generated text declares the members of a union under the names of their
definitions, and all of this text is restored: a name that has the marker is changed by
the rule of the language, whatever it is the name of. The alias of the union comes after
that, with the names as the schema has them. So a member whose name has the marker and
is changed by the rule is declared under one name and used under another.

Preparing a document does not prevent this. It looks at the names of properties, and a
definition may have any name: every text with the marker is the only member of a
document that is prepared. A language has the same names in both places for all
documents only if its rule leaves every text with the marker as it is, and a rule
that takes the marker from one property does not.
-/
namespace SchemaBindings

/-- A line of its own stays as it is when lines are restored exactly if it has no marker or the rule
does not change it. -/
theorem restoreLines_singleton_iff (rule : EscapeRule) (restoring : Rule) (line : String) :
    restoreLines rule.marker restoring [line] = [line] ↔
      (rule.occursIn line = true → restoring.apply line = line) := by
  simp only [restoreLines, restoreLine, List.map_cons, List.map_nil, List.cons.injEq, and_true]
  rw [← EscapeRule.occursIn]
  cases rule.occursIn line <;> simp

/-- Whether the names of all members of a union stay as they are when lines are restored, for all
documents that are prepared. -/
def Settings.KeepsMembers (settings : Settings) (language : Language) (topLevel : String) : Prop :=
  ∀ raw prepared, raw.Distinct → settings.prepareValue language raw = .ok prepared →
    ∀ member ∈ prepared.escaped.unionMembers topLevel,
      restoreLines language.escaping.marker language.restoring [member] = [member]

/-- A document with a definition of some name, and a union that has it as its only member. -/
def Json.naming (topLevel name : String) : Json :=
  .object [("definitions", .object (Table.insert [(name, .object [])] topLevel
    (.object [("anyOf", .array [.object [("$ref", .string
      (DefinitionsKey.definitions.pointing (.ofList (escapeToken name.toList))))]])])))]

/-- The schema of that document. -/
def Schema.naming (topLevel name : String) : Schema where
  root := .scalar []
  definitions := Table.insert [(name, .scalar [])] topLevel
    (.composition .anyOf [.reference
      (DefinitionsKey.definitions.pointing (.ofList (escapeToken name.toList))) []] [])
  writtenKey := some .definitions

/-- The document is read as the schema, whatever the two names are. -/
theorem Schema.ofJson_naming (topLevel name : String) :
    Schema.ofJson (.naming topLevel name) = .ok (.naming topLevel name) := by
  by_cases same : name = topLevel <;>
    simp [Schema.ofJson, Json.naming, Schema.naming, Table.insert, same, Schema.definitionsOf,
      Node.tableOfJson, Node.listOfJson, Node.ofJson, Node.ofFields, keywordFault,
      unsupportedKeywords, Table.has, Table.erase, List.lookup_cons, compositionsOf,
      CompositionKind.all, CompositionKind.keyword, hasObjectKeyword, typeIs, shapesOf,
      Pointer.isRoot, Pointer.root, Pointer.child, Pointer.item, DefinitionsKey.text]

/-- The document has no key twice. -/
theorem Json.naming_distinct (topLevel name : String) : (Json.naming topLevel name).Distinct := by
  refine (distinct_object _).mpr ⟨List.nodup_singleton _, fun field member => ?_⟩
  obtain rfl := List.mem_singleton.mp member
  have alone : (Table.keys [(name, Json.object [])]).Nodup := List.nodup_singleton name
  refine (distinct_object _).mpr ⟨Table.nodup_keys_insert alone _ _, fun field member => ?_⟩
  rcases Table.mem_insert member with rfl | member
  · simp [Distinct, tables, fieldsTables, itemsTables, Table.keys]
  · obtain rfl := List.mem_singleton.mp member
    simp [Distinct, tables, fieldsTables, Table.keys]

/-- The union of that document has the definition as its only member. -/
theorem Schema.unionMembers_naming (topLevel : String) {name : String} (named : name ≠ "") :
    (Schema.naming topLevel name).unionMembers topLevel = [name] := by
  have reads : definitionName
      (DefinitionsKey.definitions.pointing (.ofList (escapeToken name.toList))) = some name := by
    have written := (Schema.naming topLevel name).referenceTo_eq name
    have key : (Schema.naming topLevel name).definitionsKey = .definitions := rfl
    rw [key] at written
    rw [← written, Schema.definitionName_referenceTo _ named]
  have node : (Schema.naming topLevel name).topLevelNode topLevel = .composition .anyOf
      [.reference (DefinitionsKey.definitions.pointing (.ofList (escapeToken name.toList))) []]
      [] := by
    simp [topLevelNode, naming, Table.lookup_insert]
  simp [unionMembers, node, CompositionKind.isUnion, memberNames, reads]

/-- A schema without objects is prepared as it is. -/
theorem Settings.prepareValue_of_no_objects (settings : Settings) {language : Language}
    (spares : language.escaping.Spares language.reserved) {raw : Json} {schema : Schema}
    (read : Schema.ofJson raw = .ok schema) (distinct : raw.Distinct)
    (bare : (schema.enveloped settings.schema.envelope).shapes = []) :
    settings.prepareValue language raw =
      .ok ⟨raw, schema.enveloped settings.schema.envelope, 0⟩ := by
  refine (settings.prepareValue_ok_iff _ _ _).mpr ⟨schema, read, ?_, ?_, ?_, rfl⟩
  · have apart := (Schema.ofJson_distinct read distinct).enveloped settings.schema.envelope
    exact Schema.escape_of_unreserved spares apart (by simp [bare])
  · exact (Schema.violations_eq_nil_iff _).mpr (by simp [bare])
  · exact (Schema.checkRoundTrip_ok_iff _).mpr (by simp [bare, AllAcceptable])

/-- That document has no objects. -/
theorem Schema.shapes_naming (topLevel name : String) (envelope : Envelope) :
    ((Schema.naming topLevel name).enveloped envelope).shapes = [] := by
  rw [Schema.shapes_eq, List.append_eq_nil_iff]
  refine ⟨by simp [enveloped, Node.shapes_eq, Node.own, Node.children], ?_⟩
  refine List.flatMap_eq_nil_iff.mpr fun entry member => ?_
  rcases Table.mem_insert member with rfl | member
  · simp [Node.shapes_eq, Node.own, Node.children]
  · obtain rfl := List.mem_singleton.mp member
    simp [Node.shapes_eq, Node.own, Node.children]

/-- A validated language has a marker. -/
theorem LanguageSettings.validate_marker {settings : LanguageSettings} {id : String}
    {language : Language} (validated : settings.validate id = .ok language) :
    language.escaping.marker ≠ "" := by
  obtain ⟨processing, accepted, _⟩ := validate_processing validated
  rw [ProcessingSettings.validateMarker] at accepted
  split at accepted
  case h_1 =>
    rw [← Except.ok.inj accepted]
    decide
  case h_2 marker _ =>
    split at accepted
    case isTrue => contradiction
    case isFalse present =>
      rw [← Except.ok.inj accepted]
      simpa using present

/-- A text with a marker is not empty. -/
theorem EscapeRule.ne_empty_of_occursIn {rule : EscapeRule} (some : rule.marker ≠ "")
    {text : String} (occurs : rule.occursIn text = true) : text ≠ "" := by
  rintro rfl
  rw [occursIn, Text.occurs_iff] at occurs
  simp at occurs
  exact some occurs

/-- A language keeps the names of all members exactly if its rule leaves every text with the marker
as it is: whatever the text, it is the only member in a document that is prepared. -/
theorem Settings.keepsMembers_iff (settings : Settings) (topLevel : String) {language : Language}
    (spares : language.escaping.Spares language.reserved) (some : language.escaping.marker ≠ "") :
    settings.KeepsMembers language topLevel ↔
      ∀ text, language.escaping.occursIn text = true → language.restoring.apply text = text := by
  constructor
  · intro keeps text occurs
    have named := EscapeRule.ne_empty_of_occursIn some occurs
    have ready := settings.prepareValue_of_no_objects spares (Schema.ofJson_naming topLevel text)
      (Json.naming_distinct topLevel text) (Schema.shapes_naming topLevel text _)
    have defined : Table.has (Schema.naming topLevel text).definitions topLevel = true := by
      simp [Table.has, Schema.naming, Table.lookup_insert]
    have members : ((Schema.naming topLevel text).enveloped settings.schema.envelope).unionMembers
        topLevel = [text] := by
      rw [Schema.unionMembers_enveloped, if_pos defined, Schema.unionMembers_naming topLevel named]
    have kept := keeps _ _ (Json.naming_distinct topLevel text) ready text (by simp [members])
    exact (restoreLines_singleton_iff _ _ _).mp kept occurs
  · intro unchanged raw prepared _ _ member _
    exact (restoreLines_singleton_iff _ _ _).mpr (unchanged member)

/-- A rule that takes the marker from a property changes a text that has it. -/
theorem Settings.prepareValue_changes_text {settings : Settings} {language : Language} {raw : Json}
    {prepared : PreparedSchema} (spares : language.escaping.Spares language.reserved)
    (distinct : raw.Distinct) (ready : settings.prepareValue language raw = .ok prepared)
    (marked : prepared.escapedProperties ≠ 0) :
    ∃ text, language.escaping.occursIn text = true ∧ language.restoring.apply text ≠ text := by
  obtain ⟨schema, read, ended, _, checked, _⟩ :=
    (settings.prepareValue_ok_iff language raw prepared).mp ready
  have apart := (Schema.ofJson_distinct read distinct).enveloped settings.schema.envelope
  obtain ⟨shape, present, word, named, contained⟩ :
      ∃ shape ∈ (schema.enveloped settings.schema.envelope).shapes, ∃ word ∈ shape.names,
        language.reserved.contains word = true := by
    by_contra none
    push Not at none
    have idle := Schema.escape_of_unreserved spares apart fun shape present word named =>
      Bool.not_eq_true _ |>.mp (none shape present word named)
    exact marked (Except.ok.inj (Prod.mk.inj (ended.symm.trans idle)).2)
  obtain ⟨_, renamed⟩ := Schema.escape_ok spares apart ended
  have restorable : language.escaping.Restorable language.reserved language.restoring
      (shape.names.map (language.escaping.marked language.reserved)) := by
    have each := (Schema.checkRoundTrip_ok_iff _).mp checked
    rw [renamed, Schema.shapes_renamed] at each
    have held := each _ (List.mem_map_of_mem present)
    rwa [Node.names_renamedObject] at held
  have listed : language.escaping.escape word ∈
      shape.names.map (language.escaping.marked language.reserved) :=
    List.mem_map.mpr ⟨word, named, if_pos contained⟩
  have produced : language.escaping.produces language.reserved (language.escaping.escape word) =
      true := (EscapeRule.produces_iff _ _ _).mpr ⟨word, contained, rfl⟩
  have occurs := EscapeRule.occursIn_of_produces _ _ _ produced
  have unmarked := restorable.unmarked _ listed produced
  refine ⟨language.escaping.escape word, occurs, fun same => ?_⟩
  rw [same, occurs] at unmarked
  contradiction

/-- What a run leaves of the names of members when the generated lines are restored. The names of
all members of a prepared schema stay as they are exactly if the document has no definition of the
union's name, so that there are no members, or if the rule of the language leaves each member with
the marker as it is. Preparing a document does not see to it: the language keeps the names of all
members for all documents exactly if its rule leaves every text with the marker as it is, and a
language that has marked a property of any document does not. -/
theorem Run.restoreLines_members_iff (settings : Settings) (services : Services)
    (chosen : LanguageSettings) (id : String) (language : Language) (raw : Json)
    (prepared : PreparedSchema) (world between after : World)
    (validated : chosen.validate id = .ok language)
    (extracted : (Run.extract settings services).run.run world = (.ok raw, between))
    (distinct : raw.Distinct)
    (ready : (Run.prepare settings services language).run.run world = (.ok prepared, after)) :
    ∃ schema, Schema.ofJson raw = .ok schema ∧ ∀ topLevel,
      ((∀ member ∈ prepared.escaped.unionMembers topLevel,
          restoreLines language.escaping.marker language.restoring [member] = [member]) ↔
        (Table.has schema.definitions topLevel = true →
          ∀ member ∈ schema.unionMembers topLevel,
            language.escaping.occursIn member = true →
              language.restoring.apply member = member)) ∧
      (settings.KeepsMembers language topLevel ↔
        ∀ text, language.escaping.occursIn text = true → language.restoring.apply text = text) ∧
      (prepared.escapedProperties ≠ 0 → ¬ settings.KeepsMembers language topLevel) := by
  have accepted := Run.accepted_of_prepare extracted ready
  obtain ⟨schema, read, ended, _, _, _⟩ :=
    (settings.prepareValue_ok_iff language raw prepared).mp accepted
  have spares := LanguageSettings.validate_spares validated
  have apart := (Schema.ofJson_distinct read distinct).enveloped settings.schema.envelope
  obtain ⟨_, renamed⟩ := Schema.escape_ok spares apart ended
  refine ⟨schema, read, fun topLevel => ?_⟩
  have members : prepared.escaped.unionMembers topLevel =
      if Table.has schema.definitions topLevel then schema.unionMembers topLevel else [] := by
    rw [renamed, Schema.unionMembers_renamed, Schema.unionMembers_enveloped]
  have keeps := settings.keepsMembers_iff topLevel spares
    (LanguageSettings.validate_marker validated)
  refine ⟨?_, keeps, fun marked kept => ?_⟩
  · simp only [restoreLines_singleton_iff, members]
    cases Table.has schema.definitions topLevel <;> simp
  · obtain ⟨text, occurs, changed⟩ :=
      Settings.prepareValue_changes_text spares distinct accepted marked
    exact changed (keeps.mp kept text occurs)

/-- The marked form of the schema that is prepared from the document with a choice. -/
def Schema.choosingMarked : Schema :=
  ((Schema.choosing.enveloped ({} : Settings).schema.envelope).escape ⟨["else"]⟩ {}).1

/-- Where no member has the marker, all names stay; but as a property has been marked, there are
documents for which they do not. -/
theorem Run.restoreLines_members_at_choosing :
    ∃ restoring after,
      LanguageSettings.reservingElse.validate "python" = .ok (.reservingElse restoring) ∧
      Json.choosing.Distinct ∧
      (Run.prepare {} (.answering .choosing) (.reservingElse restoring)).run.run ⟨.empty, []⟩ =
        (.ok ⟨.choosing, .choosingMarked, 1⟩, after) ∧
      Schema.choosingMarked.unionMembers "Instruction" = ["Cond", "Odd/Name"] ∧
      (∀ member ∈ Schema.choosingMarked.unionMembers "Instruction",
        restoreLines "quicktype_" restoring [member] = [member]) ∧
      ¬ ({} : Settings).KeepsMembers (.reservingElse restoring) "Instruction" := by
  have judged : (Rule.compile "quicktype_" "g" "py_").toOption.map (fun restoring =>
      (Schema.choosingMarked.checkRoundTrip ⟨["else"]⟩ {} restoring).toOption) =
        some (some ()) := by decide +kernel
  obtain ⟨restoring, compiled, checked⟩ := Option.map_eq_some_iff.mp judged
  rw [toOption_eq_some_iff] at compiled checked
  have validated := LanguageSettings.reservingElse_validate compiled
  have ended : ((Schema.choosing.enveloped ({} : Settings).schema.envelope).escape
      ⟨["else"]⟩ {}).2 = .ok 1 := rfl
  have declared : Schema.choosingMarked.violations = [] := by decide
  have ready := Run.prepare_answering (.reservingElse restoring) Schema.ofJson_choosing
    (Prod.ext rfl ended) declared checked
  have distinct : Json.choosing.Distinct := by decide
  obtain ⟨schema, read, each⟩ := Run.restoreLines_members_iff {} (.answering .choosing)
    .reservingElse "python" (.reservingElse restoring) .choosing _ ⟨.empty, []⟩ _ _ validated rfl
    distinct ready
  obtain rfl : Schema.choosing = schema := Except.ok.inj (Schema.ofJson_choosing.symm.trans read)
  obtain ⟨kept, _, changed⟩ := each "Instruction"
  have plain : ∀ member ∈ Schema.choosing.unionMembers "Instruction",
      EscapeRule.occursIn {} member = false := by decide
  refine ⟨restoring, _, validated, distinct, ready, by decide, kept.mpr ?_,
    changed Nat.one_ne_zero⟩
  intro _ member listed occurs
  exact absurd ((plain member listed).symm.trans occurs) Bool.false_ne_true

/-- The name of a definition that has the marker is changed in the generated lines, and stays as it
is in the alias behind them. -/
theorem Run.restoreLines_changes_member :
    ∃ restoring prepared after,
      LanguageSettings.reservingElse.validate "python" = .ok (.reservingElse restoring) ∧
      (Run.prepare {} (.answering (.naming "Instruction" "quicktype_Cond"))
        (.reservingElse restoring)).run.run ⟨.empty, []⟩ = (.ok prepared, after) ∧
      prepared.escaped.unionMembers "Instruction" = ["quicktype_Cond"] ∧
      restoreLines "quicktype_" restoring ["quicktype_Cond"] = ["py_Cond"] ∧
      (Language.reservingElse restoring).sourceLines
          (UnionAlias.lines ⟨true, "Instruction = $1", " | "⟩ prepared.escaped "Instruction")
          ["quicktype_Cond"] =
        ["py_Cond", "", "Instruction = quicktype_Cond"] := by
  have judged : (Rule.compile "quicktype_" "g" "py_").toOption.map (fun restoring =>
      restoring.apply "quicktype_Cond") = some "py_Cond" := by
    decide +kernel
  obtain ⟨restoring, compiled, changed⟩ := Option.map_eq_some_iff.mp judged
  rw [toOption_eq_some_iff] at compiled
  have validated := LanguageSettings.reservingElse_validate compiled
  have accepted := Settings.prepareValue_of_no_objects {}
    (LanguageSettings.validate_spares validated)
    (Schema.ofJson_naming "Instruction" "quicktype_Cond")
    (Json.naming_distinct "Instruction" "quicktype_Cond") (Schema.shapes_naming _ _ _)
  have extracted : (Run.extract {} (.answering (.naming "Instruction" "quicktype_Cond"))).run.run
      ⟨.empty, []⟩ = (.ok _, ⟨.empty, [.extract "Instruction"]⟩) := rfl
  have ready := Run.prepare_of_extract (.reservingElse restoring) extracted
  rw [accepted] at ready
  have restored : restoreLines "quicktype_" restoring ["quicktype_Cond"] = ["py_Cond"] := by
    have occurs : Text.occurs "quicktype_".toList "quicktype_Cond".toList = true := by decide
    rw [restoreLines, List.map_singleton, restoreLine, if_pos occurs, changed]
  have written : UnionAlias.lines ⟨true, "Instruction = $1", " | "⟩
      ((Schema.naming "Instruction" "quicktype_Cond").enveloped ({} : Settings).schema.envelope)
      "Instruction" = ["Instruction = quicktype_Cond"] := by decide
  refine ⟨restoring, _, _, validated, ready, by decide, restored, ?_⟩
  simp only [Language.sourceLines, Language.reservingElse, finishLines, restored, written]
  decide

end SchemaBindings
