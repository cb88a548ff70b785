import SchemaBindings.Proofs.Escaping
import SchemaBindings.Proofs.Validity

/-!
# Marking keeps the meaning of a schema

If the keys of a value are marked as the properties of a schema are, then the value is
valid for the marked schema exactly if it was valid for the schema. The argument goes up
the tree: whatever kind of node stands at the top, its verdict on the marked value is
its verdict on the value as soon as this is so for the nodes below. At an object three
things come together. No two keys that lack the marker have the same marked form, so
that a field of the value finds its property again. A field that finds none still finds
none, so that it is judged by what is allowed beyond the properties. And a required name
that names a property has moved with it.

References are followed to the same depth on both sides, and the statement for all
definitions is carried from each depth to the next.
-/
namespace SchemaBindings

/-- Two verdicts agree, if the second judges values with renamed keys as the first judges the values
themselves, as long as their keys are good. -/
def Agree (good : String → Prop) (name : String → String) (before after : Json → Bool) : Prop :=
  ∀ value, value.EveryKey good → after (value.renamedKeys name) = before value

/-- No two good keys are renamed to the same. -/
def KeepsApart (good : String → Prop) (name : String → String) : Prop :=
  ∀ left right, good left → good right → name left = name right → left = right

/-- Marking keeps names apart that do not begin with the marker. -/
theorem EscapeRule.keepsApart_marked (rule : EscapeRule) (reserved : ReservedWords) :
    KeepsApart (fun key => rule.isEscaped key = false) (rule.marked reserved) := by
  intro left right leftPlain rightPlain same
  simp only [marked] at same
  split at same <;> split at same
  · exact (rule.escape_inj left right).mp same
  · rw [← same, rule.isEscaped_escape] at rightPlain
    contradiction
  · rw [same, rule.isEscaped_escape] at leftPlain
    contradiction
  · exact same

section Verdicts

variable {α : Type} {good : String → Prop} {name : String → String}
variable {first second : α → Json → Bool}

/-- Whether all members of a list pass depends on the answers for its members only. -/
theorem all_congr_of_mem {β : Type} {members : List β} {left right : β → Bool}
    (same : ∀ member ∈ members, left member = right member) :
    members.all left = members.all right := by
  rw [Bool.eq_iff_iff, List.all_eq_true, List.all_eq_true]
  exact forall₂_congr fun member present => by rw [same member present]

/-- What is allowed beyond properties agrees if its schema does. -/
theorem Additional.agree (additional : Additional α)
    (each : ∀ node ∈ additional.nodes, Agree good name (first node) (second node)) :
    Agree good name (additional.map first).judges (additional.map second).judges := by
  intro value keys
  cases additional with
  | absent => rfl
  | allowed answer => rfl
  | schema node => exact each node List.mem_cons_self value keys

/-- The verdicts of a tuple agree place by place. -/
theorem zipWith_verdicts_agree (nodes : List α)
    (each : ∀ node ∈ nodes, Agree good name (first node) (second node)) (values : List Json)
    (keys : ∀ value ∈ values, value.EveryKey good) :
    List.zipWith (fun verdict value => verdict value) (nodes.map second)
        (values.map (Json.renamedKeys name)) =
      List.zipWith (fun verdict value => verdict value) (nodes.map first) values := by
  induction nodes generalizing values with
  | nil => rfl
  | cons node nodes inductionHypothesis =>
    cases values with
    | nil => rfl
    | cons value values =>
      have here := each node List.mem_cons_self value (keys value List.mem_cons_self)
      have later := inductionHypothesis
        (fun other member => each other (List.mem_cons_of_mem _ member)) values
        (fun other member => keys other (List.mem_cons_of_mem _ member))
      simp only [List.map_cons, List.zipWith_cons_cons, here, later]

/-- What an array holds agrees if its schemas do. -/
theorem Items.agree (items : Items α)
    (each : ∀ node ∈ items.nodes, Agree good name (first node) (second node)) :
    Agree good name (items.map first).judges (items.map second).judges := by
  intro value keys
  cases value with
  | array values =>
    rw [Json.everyKey_array] at keys
    rw [Json.renamedKeys, Json.itemsRenamedKeys_eq]
    cases items with
    | absent => rfl
    | single node =>
      simp only [Items.map, judges, List.all_map]
      exact all_congr_of_mem fun value member =>
        each node List.mem_cons_self value (keys value member)
    | tuple nodes =>
      simp only [Items.map, judges]
      rw [zipWith_verdicts_agree nodes each values keys]
  | null => cases items <;> rfl
  | bool value => cases items <;> rfl
  | number value => cases items <;> rfl
  | string value => cases items <;> rfl
  | object fields => cases items <;> rfl

namespace ObjectShape

/-- A field with a good key is judged as before when it is renamed like the properties. -/
theorem judgesField_agree (apart : KeepsApart good name) (shape : ObjectShape α)
    (names : ∀ key ∈ shape.names, good key)
    (each : ∀ node ∈ shape.nodes, Agree good name (first node) (second node))
    (field : String × Json) (key : good field.1) (keys : field.2.EveryKey good) :
    ((shape.map second).renamed name).judgesField (name field.1, field.2.renamedKeys name) =
      (shape.map first).judgesField field := by
  have found : ((shape.map second).renamed name).properties.lookup (name field.1) =
      (shape.properties.lookup field.1).map second := by
    rw [← Table.lookup_mapValues]
    refine Table.lookup_mapKeys name _ field.1 fun other member same => ?_
    have listed : other ∈ shape.names := by rwa [← names_map second shape]
    exact apart other field.1 (names other listed) key same
  have before : (shape.map first).properties.lookup field.1 =
      (shape.properties.lookup field.1).map first :=
    Table.lookup_mapValues first shape.properties field.1
  simp only [judgesField, found, before]
  cases present : shape.properties.lookup field.1 with
  | some node =>
    have member : node ∈ shape.nodes :=
      List.mem_append_left _ (List.mem_map.mpr ⟨_, Table.mem_of_lookup present, rfl⟩)
    exact each node member field.2 keys
  | none =>
    exact Additional.agree shape.additional
      (fun node member => each node (List.mem_append_right _ member)) field.2 keys

/-- An object without open required entries agrees with the object with renamed properties. -/
theorem agree (apart : KeepsApart good name) (shape : ObjectShape α)
    (names : ∀ key ∈ shape.names, good key)
    (declared : ∀ entry ∈ shape.entries, entry ∈ shape.names)
    (each : ∀ node ∈ shape.nodes, Agree good name (first node) (second node)) :
    Agree good name (shape.map first).judges ((shape.map second).renamed name).judges := by
  intro value keys
  cases value with
  | object fields =>
    obtain ⟨own, below⟩ := (Json.everyKey_object good fields).mp keys
    have required : ((shape.map second).renamed name).entries.all
        (Table.has (Json.fieldsRenamedKeys name fields)) =
          (shape.map first).entries.all (Table.has fields) := by
      simp only [entries_renamed, entries_map, renamedEntry_map, List.all_map]
      refine all_congr_of_mem fun entry member => ?_
      have named := declared entry member
      rw [Function.comp_apply, renamedEntry_of_mem name named, Json.fieldsRenamedKeys_eq,
        Table.has_mapKeys, Table.has_mapValues]
      intro other present same
      exact apart other entry (own other (by simpa using present)) (names entry named) same
    have judged : (Json.fieldsRenamedKeys name fields).all
        ((shape.map second).renamed name).judgesField =
          fields.all (shape.map first).judgesField := by
      rw [Json.fieldsRenamedKeys_eq, Table.mapKeys, Table.mapValues, List.map_map, List.all_map]
      refine all_congr_of_mem fun field member => ?_
      exact judgesField_agree apart shape names each field
        (own field.1 (List.mem_map.mpr ⟨field, member, rfl⟩)) (below field member)
    simp only [Json.renamedKeys, judges, required, judged]
  | null => rfl
  | bool value => rfl
  | number value => rfl
  | string value => rfl
  | array items => rfl

end ObjectShape

end Verdicts

namespace Node

variable {good : String → Prop} {name : String → String}
variable {meaning : Interpretation} {before after : String → Json → Bool}

/-- The top of a tree agrees with the renamed top, if references and the nodes below do. -/
theorem judges_agree (apart : KeepsApart good name) {first second : Node → Json → Bool}
    (follow : ∀ target, Agree good name (before target) (after target)) (node : Node)
    (names : ∀ shape ∈ node.own, ∀ key ∈ shape.names, good key)
    (declared : ∀ shape ∈ node.own, ∀ entry ∈ shape.entries, entry ∈ shape.names)
    (change : Node → Node)
    (each : ∀ child ∈ node.children, Agree good name (first child) (second (change child))) :
    Agree good name (judges meaning before first node)
      (judges meaning after second (node.rebuilt name change)) := by
  intro value keys
  cases node with
  | object shape =>
    have verdict : ((shape.map (second ∘ change)).renamed name).judges (value.renamedKeys name) =
        (shape.map first).judges value :=
      ObjectShape.agree apart shape (names shape List.mem_cons_self)
        (declared shape List.mem_cons_self) each value keys
    have kept := meaning.keeps_renamedKeys shape.extra name value
    rw [← ObjectShape.map_map, ObjectShape.renamed_map] at verdict
    exact congrArg₂ (· && ·) verdict kept
  | array items extra =>
    have verdict : (items.map (second ∘ change)).judges (value.renamedKeys name) =
        (items.map first).judges value := Items.agree items each value keys
    simp only [judges, rebuilt, Items.map_map, verdict, meaning.keeps_renamedKeys]
  | composition kind branches extra =>
    have verdicts : branches.map (fun branch => second (change branch) (value.renamedKeys name)) =
        branches.map fun branch => first branch value :=
      List.map_congr_left fun branch member => each branch member value keys
    simp only [judges, rebuilt, List.map_map, Function.comp_def, verdicts,
      meaning.keeps_renamedKeys]
  | reference target extra =>
    simp only [judges, rebuilt, follow target value keys, meaning.besideReference_renamedKeys]
  | scalar extra => exact meaning.keeps_renamedKeys extra name value
  | bool answer => rfl

/-- A tree without open required entries agrees with the renamed tree, if references do. -/
theorem accepts_agree (apart : KeepsApart good name)
    (follow : ∀ target, Agree good name (before target) (after target)) (node : Node)
    (names : ∀ shape ∈ node.shapes, ∀ key ∈ shape.names, good key)
    (declared : ∀ shape ∈ node.shapes, ∀ entry ∈ shape.entries, entry ∈ shape.names) :
    Agree good name (node.accepts meaning before) ((node.renamed name).accepts meaning after) := by
  induction node using child_induction with
  | step node inductionHypothesis =>
    have below : ∀ child ∈ node.children, Agree good name (child.accepts meaning before)
        ((child.renamed name).accepts meaning after) := by
      intro child member
      have inside := shapes_subset_of_mem_children node child member
      exact inductionHypothesis child member (fun shape listed => names shape (inside listed))
        (fun shape listed => declared shape (inside listed))
    rw [accepts_eq meaning before node, accepts_eq meaning after, renamed_eq]
    exact judges_agree apart follow node
      (fun shape member => names shape (own_subset_shapes node member))
      (fun shape member => declared shape (own_subset_shapes node member)) _ below

end Node

namespace Schema

variable {good : String → Prop} {name : String → String}

/-- At every depth references in a schema without open required entries agree with those in the
renamed schema. -/
theorem follow_agree (meaning : Interpretation) (apart : KeepsApart good name) (schema : Schema)
    (names : ∀ shape ∈ schema.shapes, ∀ key ∈ shape.names, good key)
    (declared : ∀ shape ∈ schema.shapes, ∀ entry ∈ shape.entries, entry ∈ shape.names)
    (depth : Nat) (target : String) :
    Agree good name (schema.follow meaning depth target)
      ((schema.renamed name).follow meaning depth target) := by
  induction depth generalizing target with
  | zero =>
    intro value _
    exact meaning.unfollowed_renamedKeys target name value
  | succ depth inductionHypothesis =>
    intro value keys
    have found : (meaning.definition target).bind ((schema.renamed name).definitions.lookup ·) =
        ((meaning.definition target).bind (schema.definitions.lookup ·)).map
          (Node.renamed name) := by
      cases meaning.definition target with
      | none => rfl
      | some key => simp [Schema.renamed, Node.tableRenamed_eq]
    rw [follow, follow, found]
    cases present : (meaning.definition target).bind (schema.definitions.lookup ·) with
    | none => exact meaning.unfollowed_renamedKeys target name value
    | some node =>
      obtain ⟨key, _, listed⟩ := Option.bind_eq_some_iff.mp present
      have inside : node.shapes ⊆ schema.shapes :=
        definition_shapes_subset (Table.mem_of_lookup listed)
      exact node.accepts_agree apart inductionHypothesis
        (fun shape member => names shape (inside member))
        (fun shape member => declared shape (inside member)) value keys

/-- Marking keeps the meaning of a schema whose names lack the marker and whose required entries all
name properties: a value whose keys lack the marker is valid for the top level, or for a definition,
exactly if the value with its reserved keys marked is valid for what has become of it. -/
theorem escape_keeps_meaning (meaning : Interpretation) (rule : EscapeRule)
    (reserved : ReservedWords) (schema after : Schema) (count depth : Nat) (value : Json)
    (distinct : schema.Distinct) (declared : schema.violations = [])
    (plain : ∀ placed ∈ schema.objects, ∀ name ∈ Table.keys placed.2.properties,
      rule.isEscaped name = false)
    (spares : rule.Spares reserved) (ended : schema.escape reserved rule = (after, .ok count))
    (keys : value.EveryKey fun key => rule.isEscaped key = false) :
    after.accepts meaning depth after.root (value.renamedKeys (rule.marked reserved)) =
        schema.accepts meaning depth schema.root value ∧
      after.definitions.map (fun entry => (entry.1, after.accepts meaning depth entry.2
          (value.renamedKeys (rule.marked reserved)))) =
        schema.definitions.map fun entry =>
          (entry.1, schema.accepts meaning depth entry.2 value) := by
  obtain ⟨-, rfl⟩ := escape_ok spares distinct ended
  have apart := rule.keepsApart_marked reserved
  have names : ∀ shape ∈ schema.shapes, ∀ key ∈ shape.names, rule.isEscaped key = false := by
    intro shape member
    obtain ⟨placed, listed, rfl⟩ := List.mem_map.mp member
    exact plain placed listed
  rw [violations_eq_nil_iff] at declared
  have follow := schema.follow_agree meaning apart names declared depth
  constructor
  · exact schema.root.accepts_agree apart follow
      (fun shape member => names shape (schema.root_shapes_subset member))
      (fun shape member => declared shape (schema.root_shapes_subset member)) value keys
  · have moved : (schema.renamed (rule.marked reserved)).definitions =
        Table.mapValues (Node.renamed (rule.marked reserved)) schema.definitions :=
      Node.tableRenamed_eq _ schema.definitions
    rw [moved, Table.mapValues, List.map_map]
    refine List.map_congr_left fun entry listed => Prod.ext rfl ?_
    exact entry.2.accepts_agree apart follow
      (fun shape member => names shape (definition_shapes_subset listed member))
      (fun shape member => declared shape (definition_shapes_subset listed member)) value keys

/-- A value for the nested objects, with a reserved key at three depths. -/
def nestedValue : Json :=
  .object
    [("when", .string "now"), ("else", .array [.object [("class", .number (.integer 1))]]),
     ("other", .object [("return", .bool true)])]

/-- Other keywords say nothing, and a reference that is not followed accepts nothing. -/
def silent : Interpretation where
  keeps _ _ := true
  besideReference _ _ := true
  unfollowed _ _ := false
  keeps_renamedKeys _ _ _ := rfl
  besideReference_renamedKeys _ _ _ := rfl
  unfollowed_renamedKeys _ _ _ := rfl

/-- The schema accepts an instance, following the reference at its top, and the marked schema
accepts the instance with its keys marked. -/
theorem escape_keeps_meaning_at_nested_objects :
    let reserved : ReservedWords := ⟨["class", "else", "return"]⟩
    let after := (nestedObjects.escape reserved ⟨"esc_"⟩).1
    nestedObjects.accepts silent 1 nestedObjects.root nestedValue = true ∧
      after.accepts silent 1 after.root
        (nestedValue.renamedKeys (EscapeRule.marked ⟨"esc_"⟩ reserved)) = true := by
  intro reserved after
  have accepted : nestedObjects.accepts silent 1 nestedObjects.root nestedValue = true := by decide
  have ended : (nestedObjects.escape reserved ⟨"esc_"⟩).2 = .ok 3 := by decide
  have kept := escape_keeps_meaning silent ⟨"esc_"⟩ reserved nestedObjects after 3 1 nestedValue
    (by decide) (by decide) (by decide) (by decide) (Prod.ext rfl ended) (by decide)
  exact ⟨accepted, kept.1.trans accepted⟩

end Schema

end SchemaBindings
