import SchemaBindings.Proofs.RoundTrip

/-!
# Unions in prepared schemas

The alias of a union is written from the prepared schema. Marking changes the names of
properties and nothing else, so it leaves every union its members. The envelope puts a
reference in the place of the top level and keeps the definitions, so a union survives it
if it is a definition. One that is the top level itself does not: once the top level has
been replaced, a type without a definition of its name stands for the reference, which
has no members.
-/
namespace SchemaBindings

/-- Branches that are renamed name the same definitions. -/
theorem memberNames_renamed (name : String → String) (branches : List Node) :
    memberNames (branches.map (Node.renamed name)) = memberNames branches := by
  induction branches with
  | nil => rfl
  | cons branch branches inductionHypothesis =>
    rw [List.map_cons, Node.renamed_eq]
    cases branch with
    | reference target extra =>
      simp only [Node.rebuilt, memberNames, inductionHypothesis]
    | _ => exact inductionHypothesis

namespace Schema

/-- A type of a renamed schema stands for the renamed node. -/
theorem topLevelNode_renamed (name : String → String) (schema : Schema) (topLevel : String) :
    (schema.renamed name).topLevelNode topLevel = (schema.topLevelNode topLevel).renamed name := by
  simp only [topLevelNode, renamed, Node.tableRenamed_eq, Table.lookup_mapValues]
  cases schema.definitions.lookup topLevel <;> rfl

/-- Renaming properties leaves every union its members. -/
theorem unionMembers_renamed (name : String → String) (schema : Schema) (topLevel : String) :
    (schema.renamed name).unionMembers topLevel = schema.unionMembers topLevel := by
  rw [unionMembers, unionMembers, topLevelNode_renamed]
  cases schema.topLevelNode topLevel with
  | composition kind branches extra =>
    rw [Node.renamed_eq]
    simp only [Node.rebuilt, memberNames_renamed]
  | object shape => rw [Node.renamed_eq]; rfl
  | array items extra => rw [Node.renamed_eq]; rfl
  | _ => rfl

/-- In an envelope a union keeps its members if it is a definition, and loses them otherwise. -/
theorem unionMembers_enveloped (schema : Schema) (envelope : Envelope) (topLevel : String) :
    (schema.enveloped envelope).unionMembers topLevel =
      if Table.has schema.definitions topLevel then schema.unionMembers topLevel else [] := by
  cases found : schema.definitions.lookup topLevel <;>
    simp [unionMembers, topLevelNode, enveloped, Table.has, found]

end Schema

/-- A union with the same members has the same alias. -/
theorem UnionAlias.lines_congr (union : UnionAlias) {first second : Schema} {topLevel : String}
    (same : first.unionMembers topLevel = second.unionMembers topLevel) :
    union.lines first topLevel = union.lines second topLevel := by
  simp only [lines, same]

/-- A union without members has no alias. -/
theorem UnionAlias.lines_of_no_members (union : UnionAlias) {schema : Schema} {topLevel : String}
    (none : schema.unionMembers topLevel = []) : union.lines schema topLevel = [] := by
  simp [lines, none]

/-- The prepared schema has the members of a union that its document has, exactly if the document
has a definition of that name or no member to lose. Then every alias is the same as well. Where the
union is the top level of the document, all of its members are lost, and no alias is written. -/
theorem Run.prepare_unionMembers_iff (settings : Settings) (services : Services)
    (chosen : LanguageSettings) (id : String) (language : Language) (raw : Json)
    (prepared : PreparedSchema) (world between after : World)
    (validated : chosen.validate id = .ok language)
    (extracted : (Run.extract settings services).run.run world = (.ok raw, between))
    (distinct : raw.Distinct)
    (ready : (Run.prepare settings services language).run.run world = (.ok prepared, after)) :
    ∃ schema, Schema.ofJson raw = .ok schema ∧ ∀ topLevel,
      (prepared.escaped.unionMembers topLevel = schema.unionMembers topLevel ↔
        Table.has schema.definitions topLevel = true ∨ schema.unionMembers topLevel = []) ∧
      (Table.has schema.definitions topLevel = true ∨ schema.unionMembers topLevel = [] →
        ∀ union : UnionAlias,
          union.lines prepared.escaped topLevel = union.lines schema topLevel) ∧
      (Table.has schema.definitions topLevel = false →
        prepared.escaped.unionMembers topLevel = [] ∧
          ∀ union : UnionAlias, union.lines prepared.escaped topLevel = []) := by
  have accepted := Run.accepted_of_prepare extracted ready
  obtain ⟨schema, read, ended, _, _, _⟩ :=
    (settings.prepareValue_ok_iff language raw prepared).mp accepted
  have spares := LanguageSettings.validate_spares validated
  have apart := (Schema.ofJson_distinct read distinct).enveloped settings.schema.envelope
  obtain ⟨_, marked⟩ := Schema.escape_ok spares apart ended
  refine ⟨schema, read, fun topLevel => ?_⟩
  have members : prepared.escaped.unionMembers topLevel =
      if Table.has schema.definitions topLevel then schema.unionMembers topLevel else [] := by
    rw [marked, Schema.unionMembers_renamed, Schema.unionMembers_enveloped]
  have same : prepared.escaped.unionMembers topLevel = schema.unionMembers topLevel ↔
      Table.has schema.definitions topLevel = true ∨ schema.unionMembers topLevel = [] := by
    rw [members]
    cases Table.has schema.definitions topLevel with
    | true => simp
    | false => simp [@eq_comm _ []]
  refine ⟨same, fun kept union => union.lines_congr (same.mpr kept), fun undefined => ?_⟩
  have lost : prepared.escaped.unionMembers topLevel = [] := by
    rw [members, undefined, if_neg Bool.false_ne_true]
  exact ⟨lost, fun union => union.lines_of_no_members lost⟩

/-- A document whose top-level type is a definition, with a reserved name in another one. -/
def Json.choosing : Json :=
  .object [("$defs", .object
    [("Instruction", .object
      [("anyOf", .array
        [.object [("$ref", .string "#/$defs/Cond")],
         .object [("$ref", .string "#/$defs/Odd~1Name")]])]),
     ("Cond", .object [("properties", .object [("else", .object [])])])])]

/-- The schema of that document. -/
def Schema.choosing : Schema where
  root := .scalar []
  definitions :=
    [("Instruction", .composition .anyOf
      [.reference "#/$defs/Cond" [], .reference "#/$defs/Odd~1Name" []] []),
     ("Cond", .object ⟨[("else", .scalar [])], true, none, .absent, []⟩)]
  writtenKey := some .defs

/-- The document is read as the schema, in which the union is a definition. -/
theorem Schema.ofJson_choosing : Schema.ofJson .choosing = .ok .choosing := by
  simp [Schema.ofJson, Json.choosing, Schema.choosing, Schema.definitionsOf, Node.tableOfJson,
    Node.listOfJson, Node.ofJson, Node.ofFields, keywordFault, unsupportedKeywords, Table.has,
    Table.erase, List.lookup_cons, compositionsOf, CompositionKind.all, CompositionKind.keyword,
    hasObjectKeyword, typeIs, shapesOf, Node.propertiesOf, Node.additionalOf, requiredOf,
    objectExtra, Pointer.isRoot, Pointer.root, Pointer.child, Pointer.item, DefinitionsKey.text]

/-- A union that is a definition has its members after the document has been prepared. -/
theorem Run.prepare_unionMembers_at_definition :
    ∃ restoring prepared after,
      LanguageSettings.reservingElse.validate "python" = .ok (.reservingElse restoring) ∧
      Json.choosing.Distinct ∧
      (Run.prepare {} (.answering .choosing) (.reservingElse restoring)).run.run ⟨.empty, []⟩ =
        (.ok prepared, after) ∧
      prepared.escapedProperties = 1 ∧
      Schema.choosing.unionMembers "Instruction" = ["Cond", "Odd/Name"] ∧
      prepared.escaped.unionMembers "Instruction" = ["Cond", "Odd/Name"] := by
  have judged : (Rule.compile "quicktype_" "g" "py_").toOption.map (fun restoring =>
      (((Schema.choosing.enveloped ({} : Settings).schema.envelope).escape ⟨["else"]⟩
        {}).1.checkRoundTrip ⟨["else"]⟩ {} restoring).toOption) = some (some ()) := by
    decide +kernel
  obtain ⟨restoring, compiled, checked⟩ := Option.map_eq_some_iff.mp judged
  rw [toOption_eq_some_iff] at compiled checked
  have validated := LanguageSettings.reservingElse_validate compiled
  have ended : ((Schema.choosing.enveloped ({} : Settings).schema.envelope).escape
      ⟨["else"]⟩ {}).2 = .ok 1 := rfl
  have declared : ((Schema.choosing.enveloped ({} : Settings).schema.envelope).escape
      ⟨["else"]⟩ {}).1.violations = [] := by decide
  have ready := Run.prepare_answering (.reservingElse restoring) Schema.ofJson_choosing
    (Prod.ext rfl ended) declared checked
  have distinct : Json.choosing.Distinct := by decide
  obtain ⟨schema, read, each⟩ := Run.prepare_unionMembers_iff {} (.answering .choosing)
    .reservingElse "python" (.reservingElse restoring) .choosing _ ⟨.empty, []⟩ _ _ validated rfl
    distinct ready
  obtain rfl : Schema.choosing = schema := Except.ok.inj (Schema.ofJson_choosing.symm.trans read)
  have members : Schema.choosing.unionMembers "Instruction" = ["Cond", "Odd/Name"] := by decide
  have kept := (each "Instruction").1.mpr (.inl (by decide))
  exact ⟨restoring, _, _, validated, distinct, ready, rfl, members, kept.trans members⟩

/-- A document whose top level is a union, without a definition of its name. -/
def Json.topUnion : Json :=
  .object
    [("oneOf", .array
      [.object [("$ref", .string "#/$defs/X")], .object [("$ref", .string "#/$defs/Y")]]),
     ("$defs", .object [("X", .object []), ("Y", .object [])])]

/-- The schema of that document. -/
def Schema.topUnion : Schema where
  root := .composition .oneOf [.reference "#/$defs/X" [], .reference "#/$defs/Y" []] []
  definitions := [("X", .scalar []), ("Y", .scalar [])]
  writtenKey := some .defs

/-- The document is read as the schema, in which the union is the top level. -/
theorem Schema.ofJson_topUnion : Schema.ofJson .topUnion = .ok .topUnion := by
  simp [Schema.ofJson, Json.topUnion, Schema.topUnion, Schema.definitionsOf, Node.tableOfJson,
    Node.listOfJson, Node.ofJson, Node.ofFields, keywordFault, unsupportedKeywords, Table.has,
    Table.erase, List.lookup_cons, compositionsOf, CompositionKind.all, CompositionKind.keyword,
    hasObjectKeyword, typeIs, shapesOf, Pointer.isRoot, Pointer.root, Pointer.child, Pointer.item,
    DefinitionsKey.text]

/-- A union that is the top level of a document loses its members when the document is prepared, and
its alias is not written. -/
theorem Run.prepare_loses_top_union :
    ∃ restoring prepared after,
      LanguageSettings.reservingElse.validate "python" = .ok (.reservingElse restoring) ∧
      (Run.prepare {} (.answering .topUnion) (.reservingElse restoring)).run.run ⟨.empty, []⟩ =
        (.ok prepared, after) ∧
      Schema.ofJson .topUnion = .ok .topUnion ∧
      Schema.topUnion.unionMembers "Instruction" = ["X", "Y"] ∧
      prepared.escaped.unionMembers "Instruction" = [] ∧
      UnionAlias.lines ⟨true, "Instruction = $1", " | "⟩ .topUnion "Instruction" =
        ["Instruction = X | Y"] ∧
      UnionAlias.lines ⟨true, "Instruction = $1", " | "⟩ prepared.escaped "Instruction" = [] := by
  have judged : (Rule.compile "quicktype_" "g" "py_").toOption.map (fun restoring =>
      (((Schema.topUnion.enveloped ({} : Settings).schema.envelope).escape ⟨["else"]⟩
        {}).1.checkRoundTrip ⟨["else"]⟩ {} restoring).toOption) = some (some ()) := by
    decide +kernel
  obtain ⟨restoring, compiled, checked⟩ := Option.map_eq_some_iff.mp judged
  rw [toOption_eq_some_iff] at compiled checked
  have ended : ((Schema.topUnion.enveloped ({} : Settings).schema.envelope).escape
      ⟨["else"]⟩ {}).2 = .ok 0 := rfl
  have ready := Run.prepare_answering (.reservingElse restoring) Schema.ofJson_topUnion
    (Prod.ext rfl ended) (by decide) checked
  exact ⟨restoring, _, _, LanguageSettings.reservingElse_validate compiled, ready,
    Schema.ofJson_topUnion, by decide, rfl, by decide, rfl⟩

end SchemaBindings
