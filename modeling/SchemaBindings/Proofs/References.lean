import SchemaBindings.Proofs.Escaping
import SchemaBindings.Proofs.Resolution

/-!
# References under renaming

A renaming takes the properties on every way with it, but it leaves the targets of
references alone. So the ways of a renamed tree are those of the tree with new names, a
reference at the end of a way keeps its target, and what the target led to stands where
the renamed way leads. If all properties on the way to it keep their names, this is where
the target leads, and the reference is as good as before. If one of them gets a new name
that no target knows, then the target leads to nothing.
-/
namespace SchemaBindings

/-- The step under the new names. -/
def Descent.renamed (name : String → String) : Descent → Descent
  | .property key => .property (name key)
  | descent => descent

/-- The way under the new names. -/
def Route.renamed (name : String → String) (route : Route) : Route :=
  { route with descents := route.descents.map (Descent.renamed name) }

/-- A step that passes no property with a new name stays. -/
theorem Descent.renamed_of_kept {name : String → String} {descent : Descent}
    (kept : ∀ key ∈ descent.properties, name key = key) : descent.renamed name = descent := by
  cases descent with
  | property key => exact congrArg Descent.property (kept key List.mem_cons_self)
  | _ => rfl

/-- A way on which no property gets a new name stays. -/
theorem Route.renamed_of_kept {name : String → String} {route : Route}
    (kept : ∀ key ∈ route.properties, name key = key) : route.renamed name = route := by
  have steps : route.descents.map (Descent.renamed name) = route.descents :=
    (List.map_congr_left fun descent member => Descent.renamed_of_kept fun key passed =>
      kept key (List.mem_flatMap.mpr ⟨descent, member, passed⟩)).trans (List.map_id _)
  rw [Route.renamed, steps]

/-- Only the way that stays at the top level comes to it. -/
theorem Route.renamed_ne_top {name : String → String} {route : Route} (away : route ≠ .top) :
    route.renamed name ≠ .top := by
  obtain ⟨definition, descents⟩ := route
  simpa [top, renamed] using away

namespace Node

variable {name : String → String}

/-- A step leads from a renamed node to the renamed child, if no two names of the node come to the
same. -/
theorem Leads.renamed {node child : Node} {descent : Descent} (leads : Leads node descent child)
    (once : ∀ shape ∈ node.own, (shape.names.map name).Nodup) :
    (node.renamed name).below? (descent.renamed name) = some (child.renamed name) := by
  rw [renamed_eq]
  cases leads with
  | @property shape key child found =>
    have apart : ∀ other ∈ shape.names, name other = name key → other = key := fun other member =>
      List.inj_on_of_nodup_map (once shape List.mem_cons_self) member
        (List.mem_map_of_mem (Table.mem_of_lookup found))
    calc
      (Table.mapKeys name (Table.mapValues (Node.renamed name) shape.properties)).lookup
          (name key) =
          (Table.mapValues (Node.renamed name) shape.properties).lookup key :=
        Table.lookup_mapKeys name _ key (by rwa [Table.keys_mapValues])
      _ = some (child.renamed name) := by rw [Table.lookup_mapValues, found, Option.map_some]
  | @additional shape child held =>
    obtain ⟨properties, declared, required, additional, extra⟩ := shape
    obtain rfl : additional = .schema child := held
    rfl
  | single => rfl
  | item found => simp [below?, rebuilt, Items.map, Descent.renamed, found]
  | branch found => simp [below?, rebuilt, Descent.renamed, found]

/-- Steps lead from a renamed tree to the renamed node at their end. -/
theorem at?_renamed {node target : Node} {descents : List Descent}
    (found : node.at? descents = some target)
    (once : ∀ shape ∈ node.shapes, (shape.names.map name).Nodup) :
    (node.renamed name).at? (descents.map (Descent.renamed name)) =
      some (target.renamed name) := by
  induction descents generalizing node with
  | nil =>
    obtain rfl := Option.some.inj found
    rfl
  | cons descent descents inductionHypothesis =>
    obtain ⟨child, first, rest⟩ := Option.bind_eq_some_iff.mp found
    have leads := leads_of_below? first
    have stepped := leads.renamed fun shape member => once shape (own_subset_shapes node member)
    have further := inductionHypothesis rest fun shape listed =>
      once shape (shapes_subset_of_mem_children node child leads.mem_children listed)
    rw [List.map_cons, at?_cons, stepped, Option.bind_some, further]

/-- The tokens of a step lead to nothing in what is written for a renamed node, if the step passes a
property whose name has gone. -/
theorem Leads.resolve?_gone {node child : Node} {descent : Descent}
    (leads : Leads node descent child)
    (gone : ∃ key ∈ descent.properties, ∀ old, name old ≠ key) :
    (node.renamed name).toJson.resolve? descent.tokens = none := by
  obtain ⟨key, passed, away⟩ := gone
  cases leads with
  | @property shape passedKey child found =>
    obtain rfl := List.mem_singleton.mp passed
    rw [renamed_eq, rebuilt, Descent.tokens, resolve?_property]
    · have absent : key ∉ (renamedObject name shape).names := by
        rw [names_renamedObject]
        rintro met
        obtain ⟨old, _, same⟩ := List.mem_map.mp met
        exact away old same
      exact congrArg (Option.map toJson) ((Table.lookup_eq_none_iff_not_mem _ key).mpr absent)
    · have some : shape.properties ≠ [] := by
        rintro none
        simp [none] at found
      simpa [ObjectShape.renamed, ObjectShape.map, Table.mapKeys, Table.mapValues] using some
  | _ => simp [Descent.properties] at passed

/-- The tokens of steps lead to nothing in what is written for a renamed tree, if one of the steps
passes a property whose name has gone. -/
theorem at?_resolve?_gone {node target : Node} {descents : List Descent}
    (found : node.at? descents = some target)
    (once : ∀ shape ∈ node.shapes, (shape.names.map name).Nodup)
    (settled : ∀ key, name (name key) = name key)
    (gone : ∃ key ∈ descents.flatMap Descent.properties, name key ≠ key) :
    (node.renamed name).toJson.resolve? (descents.flatMap Descent.tokens) = none := by
  induction descents generalizing node with
  | nil => simp at gone
  | cons descent descents inductionHypothesis =>
    obtain ⟨child, first, rest⟩ := Option.bind_eq_some_iff.mp found
    have leads := leads_of_below? first
    rw [List.flatMap_cons, Json.resolve?_append]
    by_cases kept : ∀ key ∈ descent.properties, name key = key
    · have stepped := leads.renamed fun shape member => once shape (own_subset_shapes node member)
      rw [Descent.renamed_of_kept kept] at stepped
      rw [(leads_of_below? stepped).resolve?, Option.bind_some]
      refine inductionHypothesis rest (fun shape listed => once shape
        (shapes_subset_of_mem_children node child leads.mem_children listed)) ?_
      obtain ⟨key, passed, changed⟩ := gone
      rw [List.flatMap_cons] at passed
      exact ⟨key, (List.mem_append.mp passed).resolve_left fun here => changed (kept key here),
        changed⟩
    · obtain ⟨key, passed, changed⟩ : ∃ key ∈ descent.properties, name key ≠ key := by
        simpa using kept
      rw [leads.resolve?_gone ⟨key, passed, fun old same => changed (same ▸ settled old)⟩,
        Option.bind_none]

end Node

/-- A marked name is left alone when marked again. -/
theorem EscapeRule.Spares.marked_marked {rule : EscapeRule} {reserved : ReservedWords}
    (spares : rule.Spares reserved) (name : String) :
    rule.marked reserved (rule.marked reserved name) = rule.marked reserved name :=
  if_neg (by simp [spares.marked_not_reserved])

/-- A name gets a new one exactly if it is reserved. -/
theorem EscapeRule.Spares.marked_ne_iff {rule : EscapeRule} {reserved : ReservedWords}
    (spares : rule.Spares reserved) (name : String) :
    rule.marked reserved name ≠ name ↔ reserved.contains name = true := by
  rw [EscapeRule.marked]
  split
  case isTrue contained =>
    exact iff_of_true (spares.escape_ne ((reserved.contains_iff name).mp contained)) contained
  case isFalse plain => exact iff_of_false (fun changed => changed rfl) plain

namespace Schema

variable {name : String → String} {schema : Schema} {route : Route} {target : Node}

/-- A renaming of properties does not move the definitions. -/
@[simp] theorem definitionsKey_renamed (name : String → String) (schema : Schema) :
    (schema.renamed name).definitionsKey = schema.definitionsKey := rfl

/-- A way starts from the renamed node in a renamed schema. -/
theorem start?_renamed (name : String → String) (schema : Schema) (definition : Option String) :
    (schema.renamed name).start? definition =
      (schema.start? definition).map (Node.renamed name) := by
  cases definition with
  | some key => simp [start?, renamed, Node.tableRenamed_eq]
  | none => rfl

/-- The objects of the node from which a way starts are objects of the schema. -/
theorem start?_shapes_subset {definition : Option String} {node : Node}
    (started : schema.start? definition = some node) : node.shapes ⊆ schema.shapes := by
  cases definition with
  | some key => exact definition_shapes_subset (Table.mem_of_lookup started)
  | none =>
    obtain rfl := Option.some.inj started
    exact schema.root_shapes_subset

/-- A renamed way leads through a renamed schema to the renamed node. -/
theorem at?_renamed (found : schema.at? route = some target)
    (once : ∀ shape ∈ schema.shapes, (shape.names.map name).Nodup) :
    (schema.renamed name).at? (route.renamed name) = some (target.renamed name) := by
  obtain ⟨node, started, reached⟩ := Option.bind_eq_some_iff.mp found
  have moved := Node.at?_renamed reached fun shape member =>
    once shape (start?_shapes_subset started member)
  rw [at?, Route.renamed, start?_renamed, started, Option.map_some, Option.bind_some, moved]

/-- The tokens of a way lead to nothing in what is written for a renamed schema, if the way passes a
property whose name has gone. -/
theorem at?_resolve?_gone (found : schema.at? route = some target)
    (once : ∀ shape ∈ schema.shapes, (shape.names.map name).Nodup)
    (settled : ∀ key, name (name key) = name key)
    (gone : ∃ key ∈ route.properties, name key ≠ key) :
    (schema.renamed name).toJson.resolve? (route.tokens schema.definitionsKey) = none := by
  obtain ⟨node, started, reached⟩ := Option.bind_eq_some_iff.mp found
  have resolved := Node.at?_resolve?_gone reached
    (fun shape member => once shape (start?_shapes_subset started member)) settled gone
  obtain ⟨definition, descents⟩ := route
  cases definition with
  | some key =>
    have moved := (start?_renamed name schema (some key)).trans (congrArg _ started)
    exact (resolve?_definition moved _).trans resolved
  | none =>
    obtain rfl := Option.some.inj started
    cases descents with
    | nil => simp [Route.properties] at gone
    | cons descent descents =>
      obtain ⟨keyword, one, others, written⟩ := descent.tokens_eq
      simp only [Route.tokens, List.flatMap_cons, written, List.nil_append, List.cons_append]
        at resolved ⊢
      exact (resolve?_root _ one _).trans resolved

/-- Marking takes no notice of the targets of references. A reference keeps its target, at the place
where the marked names lead. What the target of a reference into its own document leads to, if the
tree has a node for it, stands after marking, with its names marked, where the marked names lead as
well. The target leads to it if it passes no reserved property, and else it leads to nothing. -/
theorem escape_moves_targets {document : Json} {schema escaped : Schema} {count : Nat}
    (rule : EscapeRule) (reserved : ReservedWords) (read : ofJson document = .ok schema)
    (distinct : document.Distinct) (spares : rule.Spares reserved)
    (ended : schema.escape reserved rule = (escaped, .ok count)) :
    ∀ source target extra, schema.at? source = some (.reference target extra) →
      escaped.at? (source.renamed (rule.marked reserved)) = some (.reference target extra) ∧
      ∀ route node, LocalReference.tokens? target = some (route.tokens schema.definitionsKey) →
        schema.at? route = some node →
        (∃ value, document.resolve? (route.tokens schema.definitionsKey) = some value ∧
          Node.ofJson (Pointer.root.follow (route.tokens schema.definitionsKey)) value = .ok node) ∧
        escaped.toJson.resolve?
            ((route.renamed (rule.marked reserved)).tokens schema.definitionsKey) =
          some (node.renamed (rule.marked reserved)).toJson ∧
        escaped.toJson.resolve? (route.tokens schema.definitionsKey) =
          if ∀ name ∈ route.properties, reserved.contains name = false then
            some (node.renamed (rule.marked reserved)).toJson
          else none := by
  have once := ofJson_distinct read distinct
  obtain ⟨markable, rfl⟩ := escape_ok spares once ended
  have apart : ∀ shape ∈ schema.shapes, (shape.names.map (rule.marked reserved)).Nodup :=
    fun shape member => (markable shape member).nodup_marked spares (once.properties shape member)
  intro source target extra placed
  refine ⟨at?_renamed placed apart, fun route node named found => ?_⟩
  have away : route ≠ .top := by
    rintro rfl
    exact LocalReference.tokens?_ne_nil named rfl
  have image : (schema.renamed (rule.marked reserved)).toJson.resolve?
      ((route.renamed (rule.marked reserved)).tokens schema.definitionsKey) =
        some (node.renamed (rule.marked reserved)).toJson :=
    at?_resolve? (at?_renamed found apart) (Route.renamed_ne_top away)
  refine ⟨at?_read read found away, image, ?_⟩
  split
  case isTrue plain =>
    have kept : ∀ key ∈ route.properties, rule.marked reserved key = key := fun key passed =>
      if_neg (by simp [plain key passed])
    rwa [Route.renamed_of_kept kept] at image
  case isFalse hidden =>
    refine at?_resolve?_gone found apart spares.marked_marked ?_
    simpa [spares.marked_ne_iff] using hidden

end Schema

/-- A document with a reference into the property of a definition. -/
def Json.deepReference : Json :=
  .object
    [("definitions", .object
      [("Cond", .object [("properties", .object
        [("when", .object []), ("else", .object [("type", .string "string")])])]),
       ("Other", .object [("$ref", .string "#/definitions/Cond/properties/else")]),
       ("Third", .object [("$ref", .string "#/definitions/Cond/properties/when")])])]

/-- The schema of that document. -/
def Schema.deepReference : Schema where
  root := .scalar []
  definitions :=
    [("Cond", .object ⟨[("when", .scalar []), ("else", .scalar [("type", .string "string")])], true,
        none, .absent, []⟩),
     ("Other", .reference "#/definitions/Cond/properties/else" []),
     ("Third", .reference "#/definitions/Cond/properties/when" [])]
  writtenKey := some .definitions

/-- The document is read as the schema, with the reference as it is written. -/
theorem Schema.ofJson_deepReference : Schema.ofJson .deepReference = .ok .deepReference := by
  simp [Schema.ofJson, Json.deepReference, Schema.deepReference, Schema.definitionsOf,
    Node.tableOfJson, Node.ofJson, Node.ofFields, Node.propertiesOf, Node.additionalOf, requiredOf,
    objectExtra, keywordFault, unsupportedKeywords, Table.has, Table.erase, List.lookup_cons,
    compositionsOf, CompositionKind.all, CompositionKind.keyword, hasObjectKeyword, typeIs,
    shapesOf, Pointer.isRoot, Pointer.root, Pointer.child, DefinitionsKey.text]

/-- Where the two references of that document lead to after marking: the one past the reserved
property to nothing, the other one to what it led to. -/
theorem Schema.escape_moves_targets_at_deepReference :
    let escaped := (Schema.deepReference.escape ⟨["else"]⟩ {}).1
    Schema.ofJson .deepReference = .ok .deepReference ∧ Json.deepReference.Distinct ∧
      EscapeRule.Spares {} ⟨["else"]⟩ ∧
      Schema.deepReference.escape ⟨["else"]⟩ {} = (escaped, .ok 1) ∧
      Schema.deepReference.at? ⟨some "Other", []⟩ =
        some (.reference "#/definitions/Cond/properties/else" []) ∧
      escaped.toJson.resolve? ["definitions", "Cond", "properties", "quicktype_else"] =
        some (.object [("type", .string "string")]) ∧
      escaped.toJson.resolve? ["definitions", "Cond", "properties", "else"] = none ∧
      escaped.toJson.resolve? ["definitions", "Cond", "properties", "when"] =
        some (.object []) := by
  intro escaped
  have distinct : Json.deepReference.Distinct := by decide
  have spares : EscapeRule.Spares {} ⟨["else"]⟩ := by decide
  have ended : Schema.deepReference.escape ⟨["else"]⟩ {} = (escaped, .ok 1) := rfl
  have each := Schema.escape_moves_targets {} ⟨["else"]⟩ Schema.ofJson_deepReference distinct spares
    ended
  obtain ⟨_, past⟩ := each ⟨some "Other", []⟩ _ _ rfl
  obtain ⟨_, around⟩ := each ⟨some "Third", []⟩ _ _ rfl
  obtain ⟨_, moved, gone⟩ := past ⟨some "Cond", [.property "else"]⟩ _ (by decide +kernel) rfl
  obtain ⟨_, _, kept⟩ := around ⟨some "Cond", [.property "when"]⟩ _ (by decide +kernel) rfl
  exact ⟨Schema.ofJson_deepReference, distinct, spares, ended, rfl, moved, gone, kept⟩

/-- A reference that leads past a property which is marked does not lead to anything any more. -/
theorem Schema.escape_breaks_reference :
    ∃ escaped value, Schema.ofJson .deepReference = .ok .deepReference ∧
      EscapeRule.Spares {} ⟨["else"]⟩ ∧
      Schema.deepReference.escape ⟨["else"]⟩ {} = (escaped, .ok 1) ∧
      Schema.deepReference.at? ⟨some "Other", []⟩ =
        some (.reference "#/definitions/Cond/properties/else" []) ∧
      LocalReference.tokens? "#/definitions/Cond/properties/else" =
        some ["definitions", "Cond", "properties", "else"] ∧
      Json.deepReference.resolve? ["definitions", "Cond", "properties", "else"] = some value ∧
      Schema.deepReference.at? ⟨some "Cond", [.property "else"]⟩ =
        some (.scalar [("type", .string "string")]) ∧
      escaped.at? ⟨some "Other", []⟩ =
        some (.reference "#/definitions/Cond/properties/else" []) ∧
      escaped.toJson.resolve? ["definitions", "Cond", "properties", "else"] = none :=
  ⟨_, _, Schema.ofJson_deepReference, by decide, rfl, rfl, by decide +kernel, rfl, rfl, rfl, rfl⟩

end SchemaBindings
