import SchemaBindings.Proofs.Arrangement

/-!
# Reading and writing lose nothing

A node that has been read keeps the fields for which its kind has no parts, and holds
the others in its parts, where each schema has been read from a value below. So it is
written as the fields that it was read from, arranged: this is the step, and over the
whole tree it is an induction on the nodes below a node. The top level is read without
its definitions, which are written after it under the key under which they stood.
-/
namespace SchemaBindings

/-- Names are read from a list exactly if it is the list of their texts. -/
theorem requiredNames_ok_iff (values : List Json) (names : List String) :
    requiredNames values = .ok names ↔ values = names.map .string := by
  induction values generalizing names with
  | nil => cases names <;> simp [requiredNames]
  | cons value rest inductionHypothesis =>
    cases value with
    | string name =>
      rw [requiredNames]
      cases names with
      | nil => cases requiredNames rest <;> simp
      | cons first others =>
        have later := inductionHypothesis others
        cases read : requiredNames rest with
        | error fault => simpa [read] using fun _ => by simpa [read] using later
        | ok found => simpa [read] using fun _ => later
    | _ => cases names <;> simp [requiredNames]

namespace Node

open Json

/-- The schemas of a table that has been read are arranged, if those of its nodes are. -/
theorem tableToJson_of_read {pointer : Pointer} {table : Fields} {nodes : Table Node}
    (read : tableOfJson pointer table = .ok nodes)
    (below : ∀ entry ∈ nodes, ∀ place, ∀ field ∈ table, ofJson place field.2 = .ok entry.2 →
      entry.2.toJson = field.2.arranged .schema) :
    Table.mapValues toJson nodes = tableArranged table := by
  rw [tableOfJson_ok_iff] at read
  rw [tableArranged_eq]
  induction read with
  | nil => rfl
  | @cons field entry table nodes held later inductionHypothesis =>
    obtain ⟨named, held⟩ := held
    have first := below entry List.mem_cons_self _ field List.mem_cons_self held
    have others := inductionHypothesis fun other member place value present =>
      below other (List.mem_cons_of_mem _ member) place value (List.mem_cons_of_mem _ present)
    simp only [Table.mapValues, List.map_cons] at others ⊢
    rw [others, first, named]

/-- The schemas of a list that has been read are arranged, if those of its nodes are. -/
theorem listToJson_of_read {pointer : Pointer} {index : Nat} {values : List Json}
    {nodes : List Node} (read : listOfJson pointer index values = .ok nodes)
    (below : ∀ node ∈ nodes, ∀ place, ∀ value ∈ values, ofJson place value = .ok node →
      node.toJson = value.arranged .schema) :
    nodes.map toJson = itemsArranged values := by
  rw [listOfJson_ok_iff] at read
  rw [itemsArranged_eq]
  induction values generalizing index nodes with
  | nil =>
    cases read
    rfl
  | cons value rest inductionHypothesis =>
    rw [List.zipIdx_cons] at read
    cases read with
    | @cons _ node _ others held later =>
      have first := below node List.mem_cons_self _ value List.mem_cons_self held
      have after := inductionHypothesis later fun other member place value present =>
        below other (List.mem_cons_of_mem _ member) place value
          (List.mem_cons_of_mem _ present)
      rw [List.map_cons, List.map_cons, first, after]

section Step

variable {pointer : Pointer} {fields : Fields} {node : Node}

/-- A node keeps the fields for which its kind has no parts. -/
theorem Read.extra_eq (read : Read pointer fields node) (distinct : (Table.keys fields).Nodup) :
    node.extra =
      fields.filter fun field => !(NodeKind.ofFields fields).keywords.contains field.1 := by
  have of := read.kind_eq
  rw [← Table.foldl_erase_eq_filter distinct]
  generalize NodeKind.ofFields fields = kind at of ⊢
  cases read with
  | openArray direct simple other asked absent =>
    obtain rfl := Option.some.inj of
    have missing := (Table.lookup_eq_none_iff_not_mem _ _).mp absent
    exact (Table.erase_of_not_mem missing).symm
  | _ =>
    obtain rfl := Option.some.inj of
    rfl

/-- The properties that have been read are written as their table. -/
theorem properties_held {properties : Table Node}
    (listed : propertiesOf pointer fields = .ok properties)
    (distinct : ∀ field ∈ fields, field.2.Distinct)
    (below : ∀ child ∈ properties.map (·.2), ∀ place value, ofJson place value = .ok child →
      value.Distinct → child.toJson = value.arranged .schema) :
    (if Table.has fields "properties" || !properties.isEmpty then
      [("properties", Json.object (Table.mapValues toJson properties))] else []) =
      ((fields.lookup "properties").map fun value =>
        ("properties", value.arranged (holdingOf "properties" value))).toList := by
  rw [propertiesOf] at listed
  split at listed
  case h_1 absent =>
    obtain rfl := Except.ok.inj listed
    simp [Table.has, absent]
  case h_2 table found =>
    have each := ((distinct_object table).mp (distinct _ (Table.mem_of_lookup found))).2
    have inside := tableToJson_of_read listed fun entry member place field present read =>
      below entry.2 (List.mem_map_of_mem member) place field.2 read (each field present)
    simp [Table.has, found, inside, holdingOf, arranged]
  case h_3 => contradiction

/-- The required names that have been read are written as their list. -/
theorem required_held {required : Option (List String)}
    (demanded : requiredOf fields = .ok required) :
    requiredHeld required =
      ((fields.lookup "required").map fun value =>
        ("required", value.arranged (holdingOf "required" value))).toList := by
  rw [requiredOf] at demanded
  split at demanded
  case h_1 absent =>
    obtain rfl := Except.ok.inj demanded
    simp [requiredHeld, absent]
  case h_2 values found =>
    split at demanded
    case h_1 names read =>
      obtain rfl := Except.ok.inj demanded
      obtain rfl := (requiredNames_ok_iff values names).mp read
      simp [requiredHeld, found, holdingOf, arranged, CompositionKind.all, CompositionKind.keyword]
    case h_2 => contradiction
  case h_3 => contradiction

/-- What may be had beyond the properties is written as it has been read. -/
theorem additional_held {additional : Additional Node}
    (allowed : additionalOf pointer fields = .ok additional)
    (distinct : ∀ field ∈ fields, field.2.Distinct)
    (below : ∀ child ∈ additional.nodes, ∀ place value, ofJson place value = .ok child →
      value.Distinct → child.toJson = value.arranged .schema) :
    additional.held =
      ((fields.lookup "additionalProperties").map fun value =>
        ("additionalProperties", value.arranged (holdingOf "additionalProperties" value))).toList := by
  rw [additionalOf] at allowed
  split at allowed
  case h_1 absent =>
    obtain rfl := Except.ok.inj allowed
    simp [Additional.held, absent]
  case h_2 value found =>
    obtain rfl := Except.ok.inj allowed
    simp [Additional.held, found, holdingOf, arranged]
  case h_3 value _ found =>
    split at allowed
    case h_1 node read =>
      obtain rfl := Except.ok.inj allowed
      have inside := below node List.mem_cons_self _ value read
        (distinct _ (Table.mem_of_lookup found))
      simp [Additional.held, found, holdingOf, inside]
    case h_2 => contradiction

/-- A node holds the fields of its kind, and the schemas in them are arranged if those of the nodes
below are. -/
theorem Read.held_eq (read : Read pointer fields node)
    (distinct : ∀ field ∈ fields, field.2.Distinct)
    (below : ∀ child ∈ node.children, ∀ place value, ofJson place value = .ok child →
      value.Distinct → child.toJson = value.arranged .schema) :
    node.held = (NodeKind.ofFields fields).keywords.filterMap fun key =>
      (fields.lookup key).map fun value => (key, value.arranged (holdingOf key value)) := by
  have of := read.kind_eq
  generalize NodeKind.ofFields fields = kind at of ⊢
  have held {key : String} {value : Json} (found : fields.lookup key = some value) :
      value.Distinct := distinct _ (Table.mem_of_lookup found)
  cases read with
  | reference target found =>
    obtain rfl := Option.some.inj of
    simp [Node.held, NodeKind.keywords, found, holdingOf, arranged, CompositionKind.all,
      CompositionKind.keyword]
  | composition kind others values branches direct composed found read =>
    obtain rfl := Option.some.inj of
    have each := (distinct_array values).mp (held found)
    have inside := listToJson_of_read read fun child member place value present read =>
      below child member place value read (each value present)
    simp only [Node.held, NodeKind.keywords, List.filterMap_cons, found, Option.map_some, inside,
      List.filterMap_nil]
    cases kind <;> rfl
  | object properties required additional direct simple asked listed demanded allowed =>
    obtain rfl := Option.some.inj of
    have first := properties_held listed distinct fun child member =>
      below child (List.mem_append_left _ member)
    have second := required_held demanded
    have third := additional_held allowed distinct fun child member =>
      below child (List.mem_append_right _ member)
    simp only [Node.held, ObjectShape.held, first, second, third, NodeKind.keywords,
      List.filterMap_eq_flatMap_toList, List.flatMap_cons, List.flatMap_nil, List.append_nil,
      List.append_assoc]
  | openArray direct simple other asked absent =>
    obtain rfl := Option.some.inj of
    simp [Node.held, NodeKind.keywords, absent]
  | tuple values items direct simple other found read =>
    obtain rfl := Option.some.inj of
    have each := (distinct_array values).mp (held found)
    have inside := listToJson_of_read read fun child member place value present read =>
      below child member place value read (each value present)
    simp [Node.held, NodeKind.keywords, found, holdingOf, arranged, inside]
  | single value item direct simple other found alone read =>
    obtain rfl := Option.some.inj of
    have inside := below item List.mem_cons_self _ value read (held found)
    have whole : holdingOf "items" value = .schema := by
      cases value with
      | array values => exact absurd rfl (alone values)
      | _ => rfl
    simp [Node.held, NodeKind.keywords, found, inside, whole]
  | scalar direct simple other flat =>
    obtain rfl := Option.some.inj of
    rfl

/-- A node that has been read has the fields that it has been read from, arranged. -/
theorem Read.fields_eq (read : Read pointer fields node) (once : (Table.keys fields).Nodup)
    (distinct : ∀ field ∈ fields, field.2.Distinct)
    (below : ∀ child ∈ node.children, ∀ place value, ofJson place value = .ok child →
      value.Distinct → child.toJson = value.arranged .schema) :
    node.fields = schemaFields fields := by
  rw [Node.fields, read.extra_eq once, read.held_eq distinct below, schemaFields_eq]

/-- A node that has been read keeps no keyword of its kind. -/
theorem Read.extra_apart (read : Read pointer fields node) (once : (Table.keys fields).Nodup) :
    ∀ keyword ∈ (NodeKind.ofFields fields).keywords, keyword ∉ Table.keys node.extra := by
  intro keyword member listed
  rw [read.extra_eq once] at listed
  obtain ⟨field, kept, rfl⟩ := List.mem_map.mp listed
  simpa [member] using (List.mem_filter.mp kept).2

end Step

/-- A node that has been read is written as the value that it has been read from, arranged. -/
theorem toJson_of_ofJson {pointer : Pointer} {value : Json} {node : Node}
    (read : ofJson pointer value = .ok node) (distinct : value.Distinct) :
    node.toJson = value.arranged .schema := by
  induction node using child_induction generalizing pointer value with
  | step node inductionHypothesis =>
    cases value with
    | object fields =>
      obtain ⟨once, each⟩ := (distinct_object fields).mp distinct
      rw [ofJson] at read
      obtain ⟨_, read⟩ := ofFields_read read
      rw [toJson_eq_object read.kind_eq (read.extra_apart once),
        read.fields_eq once each fun child member place value read distinct =>
          inductionHypothesis child member read distinct]
      rfl
    | bool value =>
      rw [ofJson] at read
      obtain rfl := Except.ok.inj read
      rfl
    | null => simp [ofJson] at read
    | number value => simp [ofJson] at read
    | string value => simp [ofJson] at read
    | array items => simp [ofJson] at read

end Node

namespace Schema

open Json

/-- Definitions are read from one table only. -/
theorem definitionsOf_alone {fields : Fields} {definitions : Table Node}
    {key : Option DefinitionsKey} (read : definitionsOf fields = .ok (definitions, key)) :
    fields.lookup "definitions" = none ∨ fields.lookup "$defs" = none := by
  simp only [definitionsOf] at read
  split at read
  case h_1 => contradiction
  case h_2 _ absent => exact .inr absent
  case h_3 _ absent _ => exact .inl absent
  case h_4 absent _ => exact .inl absent

/-- A schema is read from an object: its definitions from their table, and its top level from what
is left without it. -/
theorem ofJson_parts {value : Json} {schema : Schema} (read : ofJson value = .ok schema) :
    ∃ fields, value = .object fields ∧
      definitionsOf fields = .ok (schema.definitions, schema.writtenKey) ∧
      Node.ofFields .root (Table.erase (Table.erase fields "definitions") "$defs") =
        .ok schema.root := by
  cases value with
  | object fields =>
    rw [ofJson] at read
    split at read
    case h_1 => contradiction
    case h_2 definitions key definitionsRead =>
      split at read
      case h_1 root rootRead =>
        obtain rfl := Except.ok.inj read
        exact ⟨fields, rfl, definitionsRead, rootRead⟩
      case h_2 => contradiction
  | null => simp [ofJson] at read
  | bool value => simp [ofJson] at read
  | number value => simp [ofJson] at read
  | string value => simp [ofJson] at read
  | array items => simp [ofJson] at read

/-- Where no key is repeated, what is left of an object is its fields with other keys. -/
theorem ofJson_read {value : Json} {schema : Schema} (read : ofJson value = .ok schema)
    (distinct : value.Distinct) :
    ∃ fields, value = .object fields ∧ (Table.keys fields).Nodup ∧
      (∀ field ∈ fields, field.2.Distinct) ∧
      definitionsOf fields = .ok (schema.definitions, schema.writtenKey) ∧
      Node.ofJson .root (.object (topFields fields)) = .ok schema.root := by
  obtain ⟨fields, rfl, definitionsRead, rootRead⟩ := ofJson_parts read
  obtain ⟨once, each⟩ := (distinct_object fields).mp distinct
  have kept : Table.erase (Table.erase fields "definitions") "$defs" = topFields fields :=
    Table.foldl_erase_eq_filter once definitionsKeys
  exact ⟨fields, rfl, once, each, definitionsRead, by rw [Node.ofJson, ← kept, rootRead]⟩

/-- Without its definitions, an object without repeated keys has no repeated keys either. -/
theorem distinct_topFields {fields : Fields} (once : (Table.keys fields).Nodup)
    (each : ∀ field ∈ fields, field.2.Distinct) : (Json.object (topFields fields)).Distinct :=
  (distinct_object _).mpr ⟨nodup_keys_topFields once, fun field member =>
    each field (List.mem_of_mem_filter member)⟩

/-- The only table of definitions comes last, arranged. -/
theorem definitions_arranged {fields : Fields} {definitions : Table Node}
    {chosen : DefinitionsKey} (read : definitionsOf fields = .ok (definitions, some chosen))
    {table : Fields} (found : fields.lookup chosen.text = some (.object table)) :
    (definitionsKeys.filterMap fun key =>
      (fields.lookup key).map fun table => (key, table.arranged .table)) =
        [(chosen.text, .object (tableArranged table))] := by
  have alone := definitionsOf_alone read
  cases chosen with
  | definitions =>
    rw [DefinitionsKey.text] at found
    have missing : fields.lookup "$defs" = none := alone.resolve_left (by simp [found])
    simp [definitionsKeys, DefinitionsKey.text, found, missing, arranged]
  | defs =>
    rw [DefinitionsKey.text] at found
    have missing : fields.lookup "definitions" = none := alone.resolve_right (by simp [found])
    simp [definitionsKeys, DefinitionsKey.text, found, missing, arranged]

/-- The fields of the top level have no definitions among them. -/
theorem definitionsKey_not_mem {fields : Fields} (once : (Table.keys fields).Nodup)
    (chosen : DefinitionsKey) : chosen.text ∉ Table.keys (schemaFields (topFields fields)) := by
  rw [(keys_schemaFields_perm (nodup_keys_topFields once)).mem_iff]
  intro listed
  obtain ⟨field, member, same⟩ := List.mem_map.mp listed
  have other := (List.mem_filter.mp member).2
  cases chosen <;> simp [definitionsKeys, same] at other

/-- What has been read is written as it was, arranged. -/
theorem toJson_of_ofJson {value : Json} {schema : Schema} (read : ofJson value = .ok schema)
    (distinct : value.Distinct) : schema.toJson = value.documentArranged := by
  obtain ⟨fields, rfl, once, each, definitionsRead, rootRead⟩ := ofJson_read read distinct
  have top : schema.rootFields = schemaFields (topFields fields) := by
    rw [rootFields, Node.toJson_of_ofJson rootRead (distinct_topFields once each)]
    rfl
  rcases definitionsOf_read definitionsRead with
    ⟨none, unsettled, absent, missing⟩ | ⟨chosen, table, settled, found, tableRead⟩
  · simp [toJson, none, unsettled, top, documentArranged, definitionsKeys, DefinitionsKey.text,
      absent, missing]
  · have tables := ((distinct_object table).mp (each _ (Table.mem_of_lookup found))).2
    have inside := Node.tableToJson_of_read tableRead fun entry _ place field present read =>
      Node.toJson_of_ofJson read (tables field present)
    rw [settled] at definitionsRead
    rw [documentArranged, definitions_arranged definitionsRead found, ← inside]
    simp [toJson, settled, top, definitionsKey, Node.tableToJson_eq,
      Table.insert_of_not_mem (definitionsKey_not_mem once chosen)]

/-- Reading and writing a document keeps it: what is written is equal to what was read, and the
only change of places is that keywords which are held in typed parts, and the definitions, stand
last. -/
theorem toJson_ofJson_lossless {value : Json} {schema : Schema}
    (read : ofJson value = .ok schema) (distinct : value.Distinct) :
    schema.toJson = value.documentArranged ∧ schema.toJson.same value = true := by
  have written := toJson_of_ofJson read distinct
  exact ⟨written, written ▸ documentArranged_same distinct⟩

end Schema

/-- A document whose keywords stand in another order than the one in which they are written. -/
def Json.scrambled : Json :=
  .object
    [("$defs", .object
      [("Choice", .object
        [("required", .array [.string "kind"]),
         ("properties", .object
          [("kind", .object [("items", .bool true), ("title", .string "Kinds")]),
           ("else", .bool true)]),
         ("type", .string "object")])]),
     ("anyOf", .array [.object [("$ref", .string "#/$defs/Choice")]]),
     ("title", .string "Document")]

/-- The schema that the document is read as. -/
def Schema.scrambled : Schema where
  root := .composition .anyOf [.reference "#/$defs/Choice" []] [("title", .string "Document")]
  definitions :=
    [("Choice", .object
      ⟨[("kind", .array (.single (.bool true)) [("title", .string "Kinds")]), ("else", .bool true)],
        true, some ["kind"], .absent, [("type", .string "object")]⟩)]
  writtenKey := some .defs

/-- The document is read as the schema. Its keywords stand in an order in which they are never
written. -/
theorem Schema.ofJson_scrambled : Schema.ofJson .scrambled = .ok .scrambled := by
  simp [Schema.ofJson, Json.scrambled, Schema.scrambled, Schema.definitionsOf, Node.tableOfJson,
    Node.ofJson, Node.ofFields, keywordFault, unsupportedKeywords, Table.has, Table.erase,
    shapesOf, compositionsOf, hasObjectKeyword, typeIs, CompositionKind.all,
    CompositionKind.keyword, Node.propertiesOf, requiredOf, requiredNames, Node.additionalOf,
    Node.listOfJson, objectExtra, DefinitionsKey.text, List.lookup_cons]

/-- The scrambled document is written with its definitions last. -/
theorem Schema.toJson_ofJson_lossless_at_scrambled :
    Schema.ofJson .scrambled = .ok .scrambled ∧ Json.scrambled.Distinct ∧
      Schema.scrambled.toJson = Json.scrambled.documentArranged ∧
      Schema.scrambled.toJson.same .scrambled = true :=
  have distinct : Json.scrambled.Distinct := by decide
  ⟨Schema.ofJson_scrambled, distinct,
    Schema.toJson_ofJson_lossless Schema.ofJson_scrambled distinct⟩

end SchemaBindings
