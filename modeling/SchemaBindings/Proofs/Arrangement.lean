import Mathlib.Data.List.Perm.Lattice
import SchemaBindings.Proofs.Kinds

/-!
# The order in which documents are written

In a document that is written, the keywords of every schema that are held in typed parts
stand after those that are kept as they are, and at the top level the definitions stand
last; everything else, the order of definitions, properties and items included, is where
it was read. `Json.arranged` is this change of places, said of the document alone.

Moving keys does not change a value as far as equality goes, which does not count the
order of keys. This needs that no object has a key twice.
-/
namespace SchemaBindings

namespace Table

variable {α : Type}

/-- The same table with some keys after all others, in the given order. -/
def lastly (names : List String) (table : Table α) : Table α :=
  table.filter (fun entry => !names.contains entry.1)
    ++ names.filterMap fun name => (table.lookup name).map fun value => (name, value)

/-- Looking for some keys in turn finds the entries that have one of them. -/
theorem filterMap_lookup_perm {names : List String} {table : Table α} (once : names.Nodup)
    (distinct : (keys table).Nodup) :
    (names.filterMap fun name => (table.lookup name).map fun value => (name, value)).Perm
      (table.filter fun entry => names.contains entry.1) := by
  refine (List.perm_ext_iff_of_nodup ?_ ?_).mpr fun entry => ?_
  · refine once.filterMap fun left right entry leftFound rightFound => ?_
    simp only [Option.mem_def, Option.map_eq_some_iff] at leftFound rightFound
    obtain ⟨_, _, rfl⟩ := leftFound
    obtain ⟨_, _, same⟩ := rightFound
    exact (congrArg Prod.fst same).symm
  · exact (List.Nodup.of_map _ distinct).filter _
  · simp only [List.mem_filterMap, Option.map_eq_some_iff, List.mem_filter, List.contains_iff_mem]
    constructor
    · rintro ⟨name, listed, value, found, rfl⟩
      exact ⟨mem_of_lookup found, listed⟩
    · rintro ⟨member, listed⟩
      exact ⟨entry.1, listed, entry.2, (lookup_eq_some_iff_mem distinct _ _).mpr member, rfl⟩

/-- The entries without some keys and those with them are all entries. -/
theorem filter_not_append_filter_perm (names : List String) (table : Table α) :
    (table.filter (fun entry => !names.contains entry.1)
      ++ table.filter fun entry => names.contains entry.1).Perm table :=
  List.perm_append_comm.trans (List.filter_append_perm _ table)

/-- Putting keys last moves entries and does nothing else. -/
theorem lastly_perm {names : List String} {table : Table α} (once : names.Nodup)
    (distinct : (keys table).Nodup) : (lastly names table).Perm table :=
  ((filterMap_lookup_perm once distinct).append_left _).trans
    (filter_not_append_filter_perm names table)

/-- Moving entries does not change what a key finds. -/
theorem lookup_perm {left right : Table α} (moved : left.Perm right)
    (distinct : (keys right).Nodup) (key : String) : left.lookup key = right.lookup key := by
  have once : (keys left).Nodup := (moved.map _).nodup_iff.mpr distinct
  refine Option.ext fun value => ?_
  rw [lookup_eq_some_iff_mem once, lookup_eq_some_iff_mem distinct, moved.mem_iff]

end Table

namespace Json

/-- In which way the value of a keyword holds schemas. -/
inductive Holding where
  /-- The value is a schema. -/
  | schema
  /-- The value is a list of schemas. -/
  | list
  /-- The value is a table of schemas. -/
  | table
  /-- The value holds no schemas that are looked at. -/
  | nothing
deriving DecidableEq, Repr

/-- How a keyword with some value holds schemas. -/
def holdingOf (keyword : String) (value : Json) : Holding :=
  if keyword = "properties" then .table
  else if keyword = "additionalProperties" then .schema
  else if keyword = "items" then
    match value with
    | .array _ => .list
    | _ => .schema
  else if (CompositionKind.all.map (·.keyword)).contains keyword then .list
  else .nothing

mutual

/-- The value of a keyword with the keywords of all its schemas in the order in which they are
written. -/
def arranged : Holding → Json → Json
  | .schema, .object fields =>
    .object (Table.lastly (NodeKind.ofFields fields).keywords
      (fieldsArranged (NodeKind.ofFields fields).keywords fields))
  | .list, .array items => .array (itemsArranged items)
  | .table, .object table => .object (tableArranged table)
  | _, value => value

/-- Arrange the values of the keywords that are held. -/
def fieldsArranged (held : List String) : List (String × Json) → List (String × Json)
  | [] => []
  | (key, value) :: fields =>
    (key, if held.contains key then value.arranged (holdingOf key value) else value)
      :: fieldsArranged held fields

/-- Arrange the schemas of a list. -/
def itemsArranged : List Json → List Json
  | [] => []
  | item :: items => item.arranged .schema :: itemsArranged items

/-- Arrange the schemas of a table. -/
def tableArranged : List (String × Json) → List (String × Json)
  | [] => []
  | (name, value) :: table => (name, value.arranged .schema) :: tableArranged table

end

/-- The fields of a schema in the order in which they are written. -/
def schemaFields (fields : Fields) : Fields :=
  Table.lastly (NodeKind.ofFields fields).keywords
    (fieldsArranged (NodeKind.ofFields fields).keywords fields)

/-- The keys under which definitions may stand. -/
def definitionsKeys : List String := [DefinitionsKey.definitions.text, DefinitionsKey.defs.text]

/-- The fields of the top level apart from its definitions. -/
def topFields (fields : Fields) : Fields :=
  fields.filter fun field => !definitionsKeys.contains field.1

/-- A document in the order in which it is written: the top level without its definitions, and then
these. -/
def documentArranged : Json → Json
  | .object fields =>
    .object (schemaFields (topFields fields) ++ definitionsKeys.filterMap fun key =>
      (fields.lookup key).map fun table => (key, table.arranged .table))
  | value => value

/-- The items of a list are arranged one by one, each as a schema. -/
theorem itemsArranged_eq (items : List Json) :
    itemsArranged items = items.map (arranged .schema) := by
  induction items with
  | nil => rfl
  | cons item items inductionHypothesis => simp [itemsArranged, inductionHypothesis]

/-- The schemas of a table are arranged one by one, and the table keeps its order. -/
theorem tableArranged_eq (table : Fields) :
    tableArranged table = Table.mapValues (arranged .schema) table := by
  induction table with
  | nil => rfl
  | cons field table inductionHypothesis =>
    simp [tableArranged, inductionHypothesis, Table.mapValues]

/-- Of the fields of a node, those are arranged that hold schemas, and each by what it holds. -/
theorem fieldsArranged_eq (held : List String) (fields : Fields) :
    fieldsArranged held fields = fields.map fun field =>
      (field.1, if held.contains field.1 then field.2.arranged (holdingOf field.1 field.2)
        else field.2) := by
  induction fields with
  | nil => rfl
  | cons field fields inductionHypothesis => simp [fieldsArranged, inductionHypothesis]

/-- What is found under a key that is held has been arranged. -/
theorem lookup_fieldsArranged {held : List String} {key : String} (member : key ∈ held)
    (fields : Fields) :
    (fieldsArranged held fields).lookup key =
      (fields.lookup key).map fun value => value.arranged (holdingOf key value) := by
  induction fields with
  | nil => rfl
  | cons field fields inductionHypothesis =>
    obtain ⟨present, value⟩ := field
    by_cases same : key = present
    · subst present
      simp [fieldsArranged, member]
    · simp [fieldsArranged, List.lookup_cons, beq_eq_false_iff_ne.mpr same, inductionHypothesis]

/-- Fields that are not held stay as they are. -/
theorem filter_fieldsArranged (held : List String) (fields : Fields) :
    (fieldsArranged held fields).filter (fun field => !held.contains field.1) =
      fields.filter fun field => !held.contains field.1 := by
  induction fields with
  | nil => rfl
  | cons field fields inductionHypothesis =>
    obtain ⟨key, value⟩ := field
    by_cases listed : key ∈ held <;>
      simpa [fieldsArranged, List.filter_cons, listed] using inductionHypothesis

/-- A schema is written with the keywords that it keeps, which have not changed, and then with those
that it holds, whose values are arranged. -/
theorem schemaFields_eq (fields : Fields) :
    schemaFields fields =
      fields.filter (fun field => !(NodeKind.ofFields fields).keywords.contains field.1)
        ++ (NodeKind.ofFields fields).keywords.filterMap fun key =>
          (fields.lookup key).map fun value => (key, value.arranged (holdingOf key value)) := by
  rw [schemaFields, Table.lastly, filter_fieldsArranged]
  congr 1
  refine List.filterMap_congr fun key member => ?_
  rw [lookup_fieldsArranged member]
  simp [Function.comp_def]

/-- What is found under a key that is not held has not changed. -/
theorem lookup_fieldsArranged_of_not_mem {held : List String} {key : String} (other : key ∉ held)
    (fields : Fields) : (fieldsArranged held fields).lookup key = fields.lookup key := by
  induction fields with
  | nil => rfl
  | cons field fields inductionHypothesis =>
    obtain ⟨present, value⟩ := field
    by_cases same : key = present
    · subst present
      simp [fieldsArranged, other]
    · simp [fieldsArranged, List.lookup_cons, beq_eq_false_iff_ne.mpr same, inductionHypothesis]

/-- No field gets another key or another place when the values are arranged. -/
@[simp] theorem keys_fieldsArranged (held : List String) (fields : Fields) :
    Table.keys (fieldsArranged held fields) = Table.keys fields := by
  simp [Table.keys, fieldsArranged_eq, Function.comp_def]

/-- The keywords of a kind are different ones. -/
theorem nodup_keywords (kind : NodeKind) : kind.keywords.Nodup := by
  cases kind with
  | composition kind => exact List.nodup_singleton _
  | _ => decide

/-- The arranged fields are the fields with their values arranged, at other places. -/
theorem schemaFields_perm {fields : Fields} (once : (Table.keys fields).Nodup) :
    (schemaFields fields).Perm (fieldsArranged (NodeKind.ofFields fields).keywords fields) :=
  Table.lastly_perm (nodup_keywords _) (by simpa using once)

/-- Arranging fields does not change which keys are there. -/
theorem keys_schemaFields_perm {fields : Fields} (once : (Table.keys fields).Nodup) :
    (Table.keys (schemaFields fields)).Perm (Table.keys fields) := by
  have moved := (schemaFields_perm once).map (·.1)
  rwa [← Table.keys, ← Table.keys, keys_fieldsArranged] at moved

/-- Arranged fields have the same marks. -/
theorem schemaFields_sameMarks {fields : Fields} (once : (Table.keys fields).Nodup) :
    SameMarks (schemaFields fields) fields where
  keys key := by
    rw [Bool.eq_iff_iff, Table.has_iff, Table.has_iff, (keys_schemaFields_perm once).mem_iff]
  type := by
    rw [Table.lookup_perm (schemaFields_perm once) (by simpa using once),
      lookup_fieldsArranged_of_not_mem (NodeKind.type_not_mem_keywords _)]

/-- Each field of one object has an equal one in the other. -/
theorem sameFields_iff (lefts rights : Fields) :
    sameFields lefts rights = true ↔
      ∀ left ∈ lefts, ∃ right, rights.lookup left.1 = some right ∧ left.2.same right = true := by
  induction lefts with
  | nil => simp [sameFields]
  | cons left lefts inductionHypothesis =>
    obtain ⟨key, value⟩ := left
    rw [sameFields, Bool.and_eq_true, inductionHypothesis, List.forall_mem_cons]
    refine and_congr_left fun _ => ?_
    cases rights.lookup key <;> simp

/-- An object whose fields have been moved, and their values changed to equal ones, is equal. -/
theorem same_object_of_perm {fields changed : Fields} (change : String → Json → Json)
    (once : (Table.keys fields).Nodup)
    (moved : changed.Perm (fields.map fun field => (field.1, change field.1 field.2)))
    (alike : ∀ field ∈ fields, (change field.1 field.2).same field.2 = true) :
    (Json.object changed).same (.object fields) = true := by
  have count : changed.length = fields.length := by simpa using moved.length_eq
  rw [same, Bool.and_eq_true, beq_iff_eq, sameFields_iff]
  refine ⟨count, fun left member => ?_⟩
  obtain ⟨field, present, rfl⟩ := List.mem_map.mp (moved.mem_iff.mp member)
  exact ⟨field.2, (Table.lookup_eq_some_iff_mem once _ _).mpr present, alike field present⟩

/-- Items that have been changed to equal ones are equal. -/
theorem sameItems_map {items : List Json} {change : Json → Json}
    (alike : ∀ item ∈ items, (change item).same item = true) :
    sameItems (items.map change) items = true := by
  induction items with
  | nil => rfl
  | cons item items inductionHypothesis =>
    obtain ⟨first, others⟩ := List.forall_mem_cons.mp alike
    rw [List.map_cons, sameItems, first, inductionHypothesis others, Bool.and_self]

/-- How the value of a field is arranged in a schema that holds some keywords. -/
def fieldArranged (held : List String) (key : String) (value : Json) : Json :=
  value.arranged (if held.contains key then holdingOf key value else .nothing)

/-- A value in which no schemas are looked for stays as it is. -/
theorem arranged_nothing (value : Json) : value.arranged .nothing = value := by
  cases value <;> rfl

/-- The same, with the two cases of a field under one name. -/
theorem fieldsArranged_eq_map (held : List String) (fields : Fields) :
    fieldsArranged held fields =
      fields.map fun field => (field.1, fieldArranged held field.1 field.2) := by
  rw [fieldsArranged_eq]
  refine List.map_congr_left fun field _ => ?_
  rw [fieldArranged]
  split <;> simp [arranged_nothing]

/-- An arranged value is equal to the value. -/
theorem arranged_same : (value : Json) → (holding : Holding) → value.Distinct →
    (value.arranged holding).same value = true
  | .null, holding, _ => by cases holding <;> rfl
  | .bool value, holding, _ => by cases holding <;> simp [arranged, same]
  | .number value, holding, _ => by
    have alike : value.same value = true := by
      cases value <;> simp [JsonNumber.same, Binary64.same]
    cases holding <;> simpa [arranged, same] using alike
  | .string value, holding, _ => by cases holding <;> simp [arranged, same]
  | .array items, holding, distinct => by
    have each := (distinct_array items).mp distinct
    have alike (holding : Holding) : ∀ item ∈ items, (item.arranged holding).same item = true :=
      fun item member => arranged_same item holding (each item member)
    have whole : sameItems items items = true := by
      simpa only [List.map_id'' arranged_nothing] using sameItems_map (alike .nothing)
    cases holding with
    | list => simpa [arranged, same, itemsArranged_eq] using sameItems_map (alike .schema)
    | _ => simpa [arranged, same] using whole
  | .object fields, holding, distinct => by
    obtain ⟨once, each⟩ := (distinct_object fields).mp distinct
    have alike (holding : Holding) :
        ∀ field ∈ fields, (field.2.arranged holding).same field.2 = true :=
      fun field member => arranged_same field.2 holding (each field member)
    have whole {holding : Holding} (unchanged : arranged holding (.object fields) = .object fields) :
        (arranged holding (.object fields)).same (.object fields) = true := by
      rw [unchanged]
      refine same_object_of_perm (fun _ value => value.arranged .nothing) once ?_ (alike .nothing)
      simp [arranged_nothing]
    cases holding with
    | schema =>
      refine same_object_of_perm (fieldArranged (NodeKind.ofFields fields).keywords) once ?_
        fun field member => alike _ field member
      exact (schemaFields_perm once).trans (.of_eq (fieldsArranged_eq_map _ fields))
    | table =>
      refine same_object_of_perm (fun _ value => value.arranged .schema) once ?_ (alike .schema)
      rw [tableArranged_eq, Table.mapValues]
    | list => exact whole rfl
    | nothing => exact whole rfl
termination_by value => sizeOf value
decreasing_by
  · have smaller := List.sizeOf_lt_of_mem member
    simp only [Json.array.sizeOf_spec]
    omega
  · have smaller := List.sizeOf_lt_of_mem member
    have part : sizeOf field.2 < sizeOf field := by
      obtain ⟨key, value⟩ := field
      simp only [Prod.mk.sizeOf_spec]
      omega
    simp only [Json.object.sizeOf_spec]
    omega

/-- How the value of a field of the top level is arranged. -/
def topFieldArranged (fields : Fields) (key : String) (value : Json) : Json :=
  if definitionsKeys.contains key then value.arranged .table
  else fieldArranged (NodeKind.ofFields (topFields fields)).keywords key value

/-- The fields of the top level without the definitions have no key twice if this holds of all
fields. -/
theorem nodup_keys_topFields {fields : Fields} (once : (Table.keys fields).Nodup) :
    (Table.keys (topFields fields)).Nodup :=
  once.sublist (List.filter_sublist.map _)

/-- An arranged document has the fields of the document with their values arranged, at other
places. -/
theorem documentArranged_perm {fields : Fields} (once : (Table.keys fields).Nodup) :
    (schemaFields (topFields fields) ++ definitionsKeys.filterMap fun key =>
      (fields.lookup key).map fun table => (key, table.arranged .table)).Perm
        (fields.map fun field => (field.1, topFieldArranged fields field.1 field.2)) := by
  have top : (schemaFields (topFields fields)).Perm
      ((topFields fields).map fun field => (field.1, topFieldArranged fields field.1 field.2)) := by
    refine (schemaFields_perm (nodup_keys_topFields once)).trans (.of_eq ?_)
    rw [fieldsArranged_eq_map]
    refine List.map_congr_left fun field member => ?_
    have other := (List.mem_filter.mp member).2
    rw [Bool.not_eq_true'] at other
    simp only [topFieldArranged, other, Bool.false_eq_true, if_false]
  have last : (definitionsKeys.filterMap fun key =>
      (fields.lookup key).map fun table => (key, table.arranged .table)).Perm
        ((fields.filter fun field => definitionsKeys.contains field.1).map fun field =>
          (field.1, topFieldArranged fields field.1 field.2)) := by
    have found := (Table.filterMap_lookup_perm (by decide : definitionsKeys.Nodup) once).map
      fun field => (field.1, field.2.arranged .table)
    simp only [List.map_filterMap, Option.map_map] at found
    refine found.trans (.of_eq (List.map_congr_left fun field member => ?_))
    simp only [topFieldArranged, (List.mem_filter.mp member).2, if_true]
  refine (top.append last).trans ?_
  rw [← List.map_append]
  exact (Table.filter_not_append_filter_perm definitionsKeys fields).map _

/-- An arranged document is equal to the document. -/
theorem documentArranged_same {value : Json} (distinct : value.Distinct) :
    value.documentArranged.same value = true := by
  cases value with
  | object fields =>
    obtain ⟨once, each⟩ := (distinct_object fields).mp distinct
    refine same_object_of_perm (topFieldArranged fields) once (documentArranged_perm once)
      fun field member => ?_
    have alike (holding : Holding) : (field.2.arranged holding).same field.2 = true :=
      arranged_same field.2 holding (each field member)
    rw [topFieldArranged]
    split
    · exact alike .table
    · exact alike _
  | _ => exact arranged_same _ .nothing distinct

end Json

end SchemaBindings
