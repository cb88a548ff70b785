import SchemaBindings.Proofs.Tables
import SchemaBindings.Proofs.Trees

/-!
# Renaming all properties at once

The passes rename properties one after the other, object after object, while the
schema changes under them. What they come to is said here in one step: every key of
every object gets its new name, and so does every required entry that names a property
of its object; nothing else is touched. A renaming after a renaming is one renaming,
provided that no required entry which named nothing has come to name something.
-/
namespace SchemaBindings

namespace Additional

variable {α β : Type}

/-- The same with another schema. -/
def map (change : α → β) : Additional α → Additional β
  | .absent => .absent
  | .allowed value => .allowed value
  | .schema node => .schema (change node)

/-- The schema of additional properties is changed if there is one. -/
@[simp] theorem nodes_map (change : α → β) (additional : Additional α) :
    (additional.map change).nodes = additional.nodes.map change := by
  cases additional <;> rfl

/-- Two changes, one after the other, are one. -/
@[simp] theorem map_map {γ : Type} (first : α → β) (second : β → γ) (additional : Additional α) :
    (additional.map first).map second = additional.map (second ∘ first) := by
  cases additional <;> rfl

/-- Only what becomes of the schema that is there counts. -/
theorem map_congr {first second : α → β} {additional : Additional α}
    (agree : ∀ node ∈ additional.nodes, first node = second node) :
    additional.map first = additional.map second := by
  cases additional with
  | absent => rfl
  | allowed value => rfl
  | schema node => exact congrArg Additional.schema (agree node List.mem_cons_self)

end Additional

namespace Items

variable {α β : Type}

/-- The same with other schemas. -/
def map (change : α → β) : Items α → Items β
  | .absent => .absent
  | .single node => .single (change node)
  | .tuple nodes => .tuple (nodes.map change)

/-- The schemas of items are changed one by one. -/
@[simp] theorem nodes_map (change : α → β) (items : Items α) :
    (items.map change).nodes = items.nodes.map change := by
  cases items <;> rfl

/-- This holds of items as well. -/
@[simp] theorem map_map {γ : Type} (first : α → β) (second : β → γ) (items : Items α) :
    (items.map first).map second = items.map (second ∘ first) := by
  cases items <;> simp [map]

/-- Only what becomes of the schemas that are there counts. -/
theorem map_congr {first second : α → β} {items : Items α}
    (agree : ∀ node ∈ items.nodes, first node = second node) :
    items.map first = items.map second := by
  cases items with
  | absent => rfl
  | single node => exact congrArg Items.single (agree node List.mem_cons_self)
  | tuple nodes => exact congrArg Items.tuple (List.map_congr_left agree)

end Items

namespace ObjectShape

variable {α β : Type}

/-- The same object over other nodes. -/
def map (change : α → β) (shape : ObjectShape α) : ObjectShape β where
  properties := Table.mapValues change shape.properties
  declared := shape.declared
  required := shape.required
  additional := shape.additional.map change
  extra := shape.extra

/-- The schemas of an object are those of its properties and the one for additional properties, and
all of them are changed. -/
@[simp] theorem nodes_map (change : α → β) (shape : ObjectShape α) :
    (shape.map change).nodes = shape.nodes.map change := by
  simp [nodes, map, Table.mapValues, Function.comp_def]

/-- And it holds of objects. -/
@[simp] theorem map_map {γ : Type} (first : α → β) (second : β → γ) (shape : ObjectShape α) :
    (shape.map first).map second = shape.map (second ∘ first) := by
  simp [map, Table.mapValues]

/-- Only what becomes of the nodes below that are there counts. -/
theorem map_congr {first second : α → β} {shape : ObjectShape α}
    (agree : ∀ node ∈ shape.nodes, first node = second node) :
    shape.map first = shape.map second := by
  have properties : Table.mapValues first shape.properties =
      Table.mapValues second shape.properties := by
    refine List.map_congr_left fun entry member => ?_
    rw [agree entry.2 (List.mem_append_left _ (List.mem_map_of_mem member))]
  have additional : shape.additional.map first = shape.additional.map second :=
    Additional.map_congr fun node member => agree node (List.mem_append_right _ member)
  simp only [map, properties, additional]

/-- The names of the properties. -/
def names (shape : ObjectShape α) : List String := Table.keys shape.properties

/-- The required entries; an object that has no list of them requires nothing. -/
def entries (shape : ObjectShape α) : List String := shape.required.getD []

/-- The new name of a required entry: one that names no property stays. -/
def renamedEntry (name : String → String) (shape : ObjectShape α) (entry : String) : String :=
  if Table.has shape.properties entry then name entry else entry

/-- Every property gets its new name, and so does every required entry that names a property. The
places, the nodes below and all other fields stay. -/
def renamed (name : String → String) (shape : ObjectShape α) : ObjectShape α :=
  { shape with
    properties := Table.mapKeys name shape.properties
    required := shape.required.map (List.map (shape.renamedEntry name)) }

/-- A required entry that names a property gets the new name of the property. -/
theorem renamedEntry_of_mem (name : String → String) {shape : ObjectShape α} {entry : String}
    (named : entry ∈ shape.names) : shape.renamedEntry name entry = name entry :=
  if_pos ((Table.has_iff _ _).mpr named)

/-- A required entry that names no property stays. -/
theorem renamedEntry_of_not_mem (name : String → String) {shape : ObjectShape α} {entry : String}
    (unnamed : entry ∉ shape.names) : shape.renamedEntry name entry = entry :=
  if_neg fun present => unnamed ((Table.has_iff _ _).mp present)

/-- A change of what is below an object changes no name. -/
@[simp] theorem names_map (change : α → β) (shape : ObjectShape α) :
    (shape.map change).names = shape.names :=
  Table.keys_mapValues change shape.properties

/-- Nor does it change what is required. -/
@[simp] theorem entries_map (change : α → β) (shape : ObjectShape α) :
    (shape.map change).entries = shape.entries := rfl

/-- A renaming changes all names of an object, in their places. -/
@[simp] theorem names_renamed (name : String → String) (shape : ObjectShape α) :
    (shape.renamed name).names = shape.names.map name :=
  Table.keys_mapKeys name shape.properties

/-- It leaves what is below the object as it is. -/
@[simp] theorem nodes_renamed (name : String → String) (shape : ObjectShape α) :
    (shape.renamed name).nodes = shape.nodes := by
  simp [nodes, renamed, Table.mapKeys, Function.comp_def]

/-- Required entries follow the properties, and those that name none stay. -/
@[simp] theorem entries_renamed (name : String → String) (shape : ObjectShape α) :
    (shape.renamed name).entries = shape.entries.map (shape.renamedEntry name) := by
  cases listed : shape.required <;> simp [entries, renamed, listed]

/-- Which entries follow depends on the names of an object and not on what is below it. -/
@[simp] theorem renamedEntry_map (name : String → String) (change : α → β)
    (shape : ObjectShape α) : (shape.map change).renamedEntry name = shape.renamedEntry name := by
  funext entry
  simp [renamedEntry, map]

/-- The nodes below can be changed before or after the names. -/
theorem renamed_map (name : String → String) (change : α → β) (shape : ObjectShape α) :
    (shape.map change).renamed name = (shape.renamed name).map change := by
  simp [renamed]
  simp [map, Table.mapKeys, Table.mapValues]

/-- Only the new names of the properties that are there count. -/
theorem renamed_congr (first second : String → String) (shape : ObjectShape α)
    (agree : ∀ name ∈ shape.names, first name = second name) :
    shape.renamed first = shape.renamed second := by
  have properties : Table.mapKeys first shape.properties = Table.mapKeys second shape.properties := by
    refine List.map_congr_left fun entry member => ?_
    rw [agree entry.1 (List.mem_map.mpr ⟨entry, member, rfl⟩)]
  have entries : shape.renamedEntry first = shape.renamedEntry second := by
    funext entry
    by_cases named : entry ∈ shape.names
    · rw [renamedEntry_of_mem first named, renamedEntry_of_mem second named, agree entry named]
    · rw [renamedEntry_of_not_mem first named, renamedEntry_of_not_mem second named]
  simp only [renamed, properties, entries]

/-- Without new names nothing changes. -/
theorem renamed_of_unchanged (name : String → String) (shape : ObjectShape α)
    (unchanged : ∀ key ∈ shape.names, name key = key) : shape.renamed name = shape := by
  have identity : shape.renamedEntry id = id := by
    funext entry
    simp [renamedEntry]
  rw [shape.renamed_congr name id unchanged]
  simp [renamed, identity, Table.mapKeys]

/-- Two renamings are one, if the second leaves alone the required entries that only the first has
made into names of properties. -/
theorem renamed_renamed (first second : String → String) (shape : ObjectShape α)
    (aside : ∀ entry ∈ shape.entries, entry ∉ shape.names → entry ∈ shape.names.map first →
      second entry = entry) :
    (shape.renamed first).renamed second = shape.renamed (second ∘ first) := by
  have properties : Table.mapKeys second (Table.mapKeys first shape.properties) =
      Table.mapKeys (second ∘ first) shape.properties := by
    simp [Table.mapKeys]
  have entries : ∀ entry ∈ shape.entries,
      (shape.renamed first).renamedEntry second (shape.renamedEntry first entry) =
        shape.renamedEntry (second ∘ first) entry := by
    intro entry member
    by_cases named : entry ∈ shape.names
    · have moved : first entry ∈ shape.names.map first := List.mem_map_of_mem named
      simp [renamedEntry_of_mem _ named, renamedEntry_of_mem second (names_renamed .. ▸ moved)]
    · rw [renamedEntry_of_not_mem first named, renamedEntry_of_not_mem _ named]
      by_cases met : entry ∈ shape.names.map first
      · rw [renamedEntry_of_mem second (names_renamed .. ▸ met)]
        exact aside entry member named met
      · exact renamedEntry_of_not_mem second (names_renamed .. ▸ met)
  have required : ((shape.required.map (List.map (shape.renamedEntry first))).map
      (List.map ((shape.renamed first).renamedEntry second))) =
        shape.required.map (List.map (shape.renamedEntry (second ∘ first))) := by
    cases listed : shape.required with
    | none => rfl
    | some names =>
      have same : shape.entries = names := by simp [ObjectShape.entries, listed]
      simpa using fun entry member => entries entry (same ▸ member)
  calc
    (shape.renamed first).renamed second =
        { shape with
          properties := Table.mapKeys second (Table.mapKeys first shape.properties)
          required := (shape.required.map (List.map (shape.renamedEntry first))).map
            (List.map ((shape.renamed first).renamedEntry second)) } := rfl
    _ = shape.renamed (second ∘ first) := by rw [properties, required]; rfl

end ObjectShape

namespace Node

mutual

/-- Rename the properties of all objects of a tree. -/
def renamed (name : String → String) : Node → Node
  | .object ⟨properties, declared, required, additional, extra⟩ =>
    .object (ObjectShape.renamed name
      ⟨tableRenamed name properties, declared, required,
        match additional with
        | .absent => .absent
        | .allowed value => .allowed value
        | .schema node => .schema (node.renamed name),
        extra⟩)
  | .array .absent extra => .array .absent extra
  | .array (.single item) extra => .array (.single (item.renamed name)) extra
  | .array (.tuple items) extra => .array (.tuple (listRenamed name items)) extra
  | .composition kind branches extra => .composition kind (listRenamed name branches) extra
  | .reference target extra => .reference target extra
  | .scalar extra => .scalar extra
  | .bool value => .bool value

/-- Rename the properties of all objects of the trees of a table. The keys of the table stay. -/
def tableRenamed (name : String → String) : Table Node → Table Node
  | [] => []
  | (key, node) :: rest => (key, node.renamed name) :: tableRenamed name rest

/-- Rename the properties of all objects of the trees of a list. -/
def listRenamed (name : String → String) : List Node → List Node
  | [] => []
  | node :: rest => node.renamed name :: listRenamed name rest

end

/-- Give the top of a tree new names and put other nodes below it. -/
def rebuilt (name : String → String) (change : Node → Node) : Node → Node
  | .object shape => .object ((shape.map change).renamed name)
  | .array items extra => .array (items.map change) extra
  | .composition kind branches extra => .composition kind (branches.map change) extra
  | node => node

/-- The schemas of a table are renamed one by one; its names are none of properties here. -/
theorem tableRenamed_eq (name : String → String) (table : Table Node) :
    tableRenamed name table = Table.mapValues (renamed name) table := by
  induction table with
  | nil => rfl
  | cons entry rest inductionHypothesis =>
    simp [tableRenamed, inductionHypothesis, Table.mapValues]

/-- The schemas of a list are renamed one by one. -/
theorem listRenamed_eq (name : String → String) (nodes : List Node) :
    listRenamed name nodes = nodes.map (renamed name) := by
  induction nodes with
  | nil => rfl
  | cons node rest inductionHypothesis => simp [listRenamed, inductionHypothesis]

/-- A tree is renamed by renaming its top and the trees below. -/
theorem renamed_eq (name : String → String) (node : Node) :
    node.renamed name = node.rebuilt name (renamed name) := by
  cases node with
  | object shape =>
    obtain ⟨properties, declared, required, additional, extra⟩ := shape
    cases additional <;>
      simp [renamed, rebuilt, tableRenamed_eq, ObjectShape.map, Additional.map]
  | array items extra =>
    cases items <;> simp [renamed, rebuilt, listRenamed_eq, Items.map]
  | composition kind branches extra => simp [renamed, rebuilt, listRenamed_eq]
  | reference target extra => rfl
  | scalar extra => rfl
  | bool value => rfl

/-- The children of a node that is rebuilt are the changed ones, in the same order. -/
@[simp] theorem children_rebuilt (name : String → String) (change : Node → Node) (node : Node) :
    (node.rebuilt name change).children = node.children.map change := by
  cases node <;> simp [rebuilt, children]

/-- Rebuilding depends only on the names of the top and on the trees below. -/
theorem rebuilt_congr {first second : String → String} {change other : Node → Node} {node : Node}
    (names : ∀ shape ∈ node.own, ∀ name ∈ shape.names, first name = second name)
    (below : ∀ child ∈ node.children, change child = other child) :
    node.rebuilt first change = node.rebuilt second other := by
  cases node with
  | object shape =>
    have same : shape.map change = shape.map other := ObjectShape.map_congr below
    have agree : ∀ name ∈ (shape.map other).names, first name = second name := by
      simpa using names shape List.mem_cons_self
    simp only [rebuilt, same, ObjectShape.renamed_congr first second (shape.map other) agree]
  | array items extra => simp only [rebuilt, Items.map_congr below]
  | composition kind branches extra =>
    have same : branches.map change = branches.map other := List.map_congr_left below
    simp only [rebuilt, same]
  | reference target extra => rfl
  | scalar extra => rfl
  | bool value => rfl

/-- Rebuilding without a change gives the tree back. -/
theorem rebuilt_id (node : Node) : node.rebuilt id id = node := by
  cases node with
  | object shape =>
    have same : shape.map id = shape := by
      cases shape with
      | mk properties declared required additional extra =>
        cases additional <;> simp [ObjectShape.map, Table.mapValues, Additional.map]
    rw [rebuilt, same, ObjectShape.renamed_of_unchanged id shape fun _ _ => rfl]
  | array items extra => cases items <;> simp [rebuilt, Items.map]
  | composition kind branches extra => simp [rebuilt]
  | reference target extra => rfl
  | scalar extra => rfl
  | bool value => rfl

/-- Rebuilding twice is rebuilding once, if the second renaming of the top leaves alone what only
the first has made into a name. -/
theorem rebuilt_rebuilt (first second : String → String) (change other : Node → Node) (node : Node)
    (aside : ∀ shape ∈ node.own, ∀ entry ∈ shape.entries, entry ∉ shape.names →
      entry ∈ shape.names.map first → second entry = entry) :
    (node.rebuilt first change).rebuilt second other =
      node.rebuilt (second ∘ first) (other ∘ change) := by
  cases node with
  | object shape =>
    have merged := ObjectShape.renamed_renamed first second (shape.map (other ∘ change)) (by
      simpa using aside shape List.mem_cons_self)
    simp only [rebuilt, ← ObjectShape.renamed_map, ObjectShape.map_map, merged]
  | array items extra => simp only [rebuilt, Items.map_map]
  | composition kind branches extra => simp only [rebuilt, List.map_map]
  | reference target extra => rfl
  | scalar extra => rfl
  | bool value => rfl

/-- What becomes of an object when its tree is renamed. -/
def renamedObject (name : String → String) (shape : ObjectNode) : ObjectNode :=
  (shape.map (renamed name)).renamed name

/-- The names of an object are changed with what is below it. -/
@[simp] theorem names_renamedObject (name : String → String) (shape : ObjectNode) :
    (renamedObject name shape).names = shape.names.map name := by
  simp [renamedObject]

/-- Its required entries follow the names that it had before. -/
@[simp] theorem entries_renamedObject (name : String → String) (shape : ObjectNode) :
    (renamedObject name shape).entries = shape.entries.map (shape.renamedEntry name) := by
  simp [renamedObject]

/-- A node that is an object is the renamed object. -/
@[simp] theorem own_renamed (name : String → String) (node : Node) :
    (node.renamed name).own = node.own.map (renamedObject name) := by
  rw [renamed_eq]
  cases node <;> rfl

/-- The children of a renamed node are the renamed children. -/
@[simp] theorem children_renamed (name : String → String) (node : Node) :
    (node.renamed name).children = node.children.map (renamed name) := by
  rw [renamed_eq, children_rebuilt]

/-- A renamed tree has the objects of the tree, renamed, in their order. -/
@[simp] theorem shapes_renamed (name : String → String) (node : Node) :
    (node.renamed name).shapes = node.shapes.map (renamedObject name) := by
  induction node using child_induction with
  | step node inductionHypothesis =>
    have below : node.children.flatMap (fun child => (child.renamed name).shapes) =
        node.children.flatMap fun child => child.shapes.map (renamedObject name) :=
      List.flatMap_congr inductionHypothesis
    rw [shapes_eq, shapes_eq node, own_renamed, children_renamed, List.flatMap_map, below,
      List.map_append, List.map_flatMap]

/-- Only the new names of the properties that are in a tree count. -/
theorem renamed_congr {first second : String → String} {node : Node}
    (agree : ∀ shape ∈ node.shapes, ∀ name ∈ shape.names, first name = second name) :
    node.renamed first = node.renamed second := by
  induction node using child_induction with
  | step node inductionHypothesis =>
    rw [renamed_eq, renamed_eq]
    apply rebuilt_congr
    · intro shape member
      exact agree shape (own_subset_shapes node member)
    · intro child member
      exact inductionHypothesis child member fun shape listed =>
        agree shape (shapes_subset_of_mem_children node child member listed)

/-- Without new names a tree does not change. -/
theorem renamed_of_unchanged {name : String → String} {node : Node}
    (unchanged : ∀ shape ∈ node.shapes, ∀ key ∈ shape.names, name key = key) :
    node.renamed name = node := by
  induction node using child_induction with
  | step node inductionHypothesis =>
    calc
      node.renamed name = node.rebuilt name (renamed name) := renamed_eq name node
      _ = node.rebuilt id id := by
        apply rebuilt_congr
        · intro shape member
          exact unchanged shape (own_subset_shapes node member)
        · intro child member
          exact inductionHypothesis child member fun shape listed =>
            unchanged shape (shapes_subset_of_mem_children node child member listed)
      _ = node := rebuilt_id node

/-- Two renamings of a tree are one, if in every object the second leaves alone the required
entries that only the first has made into names of properties. -/
theorem renamed_renamed (first second : String → String) (node : Node)
    (aside : ∀ shape ∈ node.shapes, ∀ entry ∈ shape.entries, entry ∉ shape.names →
      entry ∈ shape.names.map first → second entry = entry) :
    (node.renamed first).renamed second = node.renamed (second ∘ first) := by
  induction node using child_induction with
  | step node inductionHypothesis =>
    have below : ∀ child ∈ node.children,
        (renamed second ∘ renamed first) child = child.renamed (second ∘ first) := by
      intro child member
      exact inductionHypothesis child member fun shape listed =>
        aside shape (shapes_subset_of_mem_children node child member listed)
    calc
      (node.renamed first).renamed second =
          (node.rebuilt first (renamed first)).rebuilt second (renamed second) := by
        rw [renamed_eq second, renamed_eq first]
      _ = node.rebuilt (second ∘ first) (renamed second ∘ renamed first) :=
        rebuilt_rebuilt first second _ _ node fun shape member =>
          aside shape (own_subset_shapes node member)
      _ = node.rebuilt (second ∘ first) (renamed (second ∘ first)) :=
        rebuilt_congr (fun _ _ _ _ => rfl) below
      _ = node.renamed (second ∘ first) := (renamed_eq _ node).symm

end Node

namespace Schema

/-- A schema has no required entry without a property exactly if in every object all required
entries are names of properties. -/
theorem violations_eq_nil_iff (schema : Schema) :
    schema.violations = [] ↔ ∀ shape ∈ schema.shapes, ∀ entry ∈ shape.entries,
      entry ∈ shape.names := by
  simp only [violations, List.flatMap_eq_nil_iff, List.map_eq_nil_iff, ObjectShape.undeclared,
    List.filter_eq_nil_iff, Bool.not_eq_true', Bool.not_eq_false, Table.has_iff, shapes,
    List.mem_map, forall_exists_index, and_imp, forall_apply_eq_imp_iff₂]
  rfl

/-- Rename the properties of all objects of a schema. -/
def renamed (name : String → String) (schema : Schema) : Schema :=
  { schema with
    root := schema.root.renamed name
    definitions := Node.tableRenamed name schema.definitions }

/-- A renamed schema has the objects of the schema, renamed, in their order. -/
@[simp] theorem shapes_renamed (name : String → String) (schema : Schema) :
    (schema.renamed name).shapes = schema.shapes.map (Node.renamedObject name) := by
  simp [shapes_eq, renamed, Node.tableRenamed_eq, Table.mapValues, List.flatMap_map,
    List.map_flatMap]

/-- What holds of the objects of a schema and of a renamed one, place by place, is what holds of each
object and what has become of it. -/
theorem forall₂_objects_renamed_iff (relation : ObjectNode → ObjectNode → Prop)
    (name : String → String) (schema : Schema) :
    List.Forall₂ (fun before after => relation before.2 after.2) schema.objects
        (schema.renamed name).objects ↔
      ∀ shape ∈ schema.shapes, relation shape (Node.renamedObject name shape) := by
  calc
    List.Forall₂ (fun before after => relation before.2 after.2) schema.objects
        (schema.renamed name).objects ↔
        List.Forall₂ relation schema.shapes (schema.renamed name).shapes := by
      rw [shapes, shapes, List.forall₂_map_left_iff, List.forall₂_map_right_iff]
    _ ↔ ∀ shape ∈ schema.shapes, relation shape (Node.renamedObject name shape) := by
      rw [shapes_renamed, List.forall₂_map_right_iff, List.forall₂_same]

/-- Only the new names of the properties that are in a schema count. -/
theorem renamed_congr {first second : String → String} {schema : Schema}
    (agree : ∀ shape ∈ schema.shapes, ∀ name ∈ shape.names, first name = second name) :
    schema.renamed first = schema.renamed second := by
  have root : schema.root.renamed first = schema.root.renamed second :=
    Node.renamed_congr fun shape member => agree shape (schema.root_shapes_subset member)
  have definitions : Node.tableRenamed first schema.definitions =
      Node.tableRenamed second schema.definitions := by
    rw [Node.tableRenamed_eq, Node.tableRenamed_eq]
    refine List.map_congr_left fun entry member => ?_
    rw [Node.renamed_congr fun shape listed =>
      agree shape (definition_shapes_subset member listed)]
  simp only [renamed, root, definitions]

/-- Without new names a schema does not change. -/
theorem renamed_of_unchanged {name : String → String} {schema : Schema}
    (unchanged : ∀ shape ∈ schema.shapes, ∀ key ∈ shape.names, name key = key) :
    schema.renamed name = schema := by
  have root : schema.root.renamed name = schema.root :=
    Node.renamed_of_unchanged fun shape member =>
      unchanged shape (schema.root_shapes_subset member)
  have definitions : Node.tableRenamed name schema.definitions = schema.definitions := by
    rw [Node.tableRenamed_eq]
    refine (List.map_congr_left fun entry member => ?_).trans (List.map_id _)
    rw [Node.renamed_of_unchanged fun shape listed =>
      unchanged shape (definition_shapes_subset member listed)]
    rfl
  simp only [renamed, root, definitions]

/-- Two renamings of a schema are one, under the condition on trees. -/
theorem renamed_renamed (first second : String → String) (schema : Schema)
    (aside : ∀ shape ∈ schema.shapes, ∀ entry ∈ shape.entries, entry ∉ shape.names →
      entry ∈ shape.names.map first → second entry = entry) :
    (schema.renamed first).renamed second = schema.renamed (second ∘ first) := by
  have root : (schema.root.renamed first).renamed second =
      schema.root.renamed (second ∘ first) :=
    Node.renamed_renamed first second _ fun shape member =>
      aside shape (schema.root_shapes_subset member)
  have definitions : Node.tableRenamed second (Node.tableRenamed first schema.definitions) =
      Node.tableRenamed (second ∘ first) schema.definitions := by
    simp only [Node.tableRenamed_eq, Table.mapValues, List.map_map]
    refine List.map_congr_left fun entry member => Prod.ext rfl ?_
    exact Node.renamed_renamed first second _ fun shape listed =>
      aside shape (definition_shapes_subset member listed)
  simp only [renamed, root, definitions]

/-- A renamed schema has distinct keys if the new names of every object are distinct. -/
theorem Distinct.renamed {schema : Schema} (distinct : schema.Distinct) {name : String → String}
    (once : ∀ shape ∈ schema.shapes, (shape.names.map name).Nodup) :
    (schema.renamed name).Distinct := by
  constructor
  · simpa [Schema.renamed, Node.tableRenamed_eq] using distinct.definitions
  · intro shape member
    rw [shapes_renamed] at member
    obtain ⟨before, present, rfl⟩ := List.mem_map.mp member
    have names := once before present
    rwa [← Node.names_renamedObject] at names

end Schema

end SchemaBindings
