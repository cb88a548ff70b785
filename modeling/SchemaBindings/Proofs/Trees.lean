import Mathlib.Data.List.Nodup
import SchemaBindings.Schema.Visit

/-!
# Schemas as trees

Below a node stand the nodes of its properties, its additional properties, its items
or its branches. With this one notion a property of all nodes is proved by showing
that a node has it if all nodes below it do, whatever kind of node it is. The objects
that a pass sees are those of the node itself, followed by those below it; which they
are does not depend on the place at which the tree stands.

A table in memory holds each key once. `Distinct` says this of a schema, and it is
what the passes may rely on.
-/
namespace SchemaBindings

/-- The nodes that an object may hold beyond its properties. -/
def Additional.nodes {α : Type} : Additional α → List α
  | .schema node => [node]
  | _ => []

/-- The nodes that an array holds. -/
def Items.nodes {α : Type} : Items α → List α
  | .absent => []
  | .single node => [node]
  | .tuple nodes => nodes

/-- The nodes directly below an object. -/
def ObjectShape.nodes {α : Type} (shape : ObjectShape α) : List α :=
  shape.properties.map (·.2) ++ shape.additional.nodes

namespace Node

/-- The nodes directly below a node, in the order of visits. -/
def children : Node → List Node
  | .object shape => shape.nodes
  | .array items _ => items.nodes
  | .composition _ branches _ => branches
  | _ => []

/-- What a node has as soon as all nodes below it do, every node has. -/
theorem child_induction {motive : Node → Prop}
    (step : ∀ node, (∀ child ∈ node.children, motive child) → motive node) (node : Node) :
    motive node := by
  refine @Node.rec motive
    (fun shape => ∀ child ∈ shape.nodes, motive child)
    (fun items => ∀ child ∈ items.nodes, motive child)
    (fun nodes => ∀ child ∈ nodes, motive child)
    (fun properties => ∀ child ∈ properties.map (·.2), motive child)
    (fun additional => ∀ child ∈ additional.nodes, motive child)
    (fun entry => motive entry.2)
    (fun _ held => step _ held) (fun _ _ held => step _ held) (fun _ _ _ held => step _ held)
    (fun _ _ => step _ (by simp [children])) (fun _ => step _ (by simp [children]))
    (fun _ => step _ (by simp [children]))
    ?_ (by simp [Items.nodes]) (by simp [Items.nodes]) (by simp [Items.nodes])
    (by simp) (by simp_all) (by simp) ?_ (by simp [Additional.nodes]) (by simp [Additional.nodes])
    (by simp [Additional.nodes]) (fun _ _ held => held) node
  · intro properties declared required additional extra listed other child member
    rcases List.mem_append.mp member with member | member
    · exact listed child member
    · exact other child member
  · intro head tail first rest child member
    rcases List.mem_cons.mp member with rfl | member
    · exact first
    · exact rest child member

/-- The object nodes of a tree in the order of visits, without their places. -/
def shapes (node : Node) : List ObjectNode := (node.objects .root).map (·.2)

/-- The object that a node is, if it is one. -/
def own : Node → List ObjectNode
  | .object shape => [shape]
  | _ => []

/-- Which objects a list of trees has is the same at any place, if it is so for each tree. -/
theorem listObjects_shapes (nodes : List Node) (pointer : Pointer) (index : Nat)
    (alike : ∀ node ∈ nodes, ∀ place, (node.objects place).map (·.2) = node.shapes) :
    (listObjects pointer index nodes).map (·.2) = nodes.flatMap shapes := by
  induction nodes generalizing index with
  | nil => rfl
  | cons node rest inductionHypothesis =>
    rw [listObjects, List.map_append, alike node List.mem_cons_self,
      inductionHypothesis (index + 1) fun other member =>
        alike other (List.mem_cons_of_mem node member), List.flatMap_cons]

/-- The same for a table of trees. -/
theorem tableObjects_shapes (table : Table Node) (pointer : Pointer)
    (alike : ∀ entry ∈ table, ∀ place, (entry.2.objects place).map (·.2) = entry.2.shapes) :
    (tableObjects pointer table).map (·.2) = table.flatMap fun entry => entry.2.shapes := by
  induction table with
  | nil => rfl
  | cons entry rest inductionHypothesis =>
    rw [tableObjects, List.map_append, alike entry List.mem_cons_self,
      inductionHypothesis fun other member => alike other (List.mem_cons_of_mem entry member),
      List.flatMap_cons]

/-- At any place a tree has the object that its top is, followed by the objects below. -/
theorem objects_split (node : Node)
    (alike : ∀ child ∈ node.children, ∀ place, (child.objects place).map (·.2) = child.shapes)
    (pointer : Pointer) :
    (node.objects pointer).map (·.2) = node.own ++ node.children.flatMap shapes := by
  cases node with
  | object shape =>
    obtain ⟨properties, declared, required, additional, extra⟩ := shape
    have listed := tableObjects_shapes properties (pointer.child "properties")
      fun entry member => alike entry.2
        (List.mem_append_left _ (List.mem_map.mpr ⟨entry, member, rfl⟩))
    cases additional with
    | schema node =>
      have other := alike node (by simp [children, ObjectShape.nodes, Additional.nodes])
      simp [objects, listed, other, own, children, ObjectShape.nodes, Additional.nodes,
        List.flatMap_map]
    | absent =>
      simp [objects, listed, own, children, ObjectShape.nodes, Additional.nodes, List.flatMap_map]
    | allowed value =>
      simp [objects, listed, own, children, ObjectShape.nodes, Additional.nodes, List.flatMap_map]
  | array items extra =>
    cases items with
    | absent => rfl
    | single item =>
      have held := alike item (by simp [children, Items.nodes])
      simp [objects, held, own, children, Items.nodes]
    | tuple items => exact listObjects_shapes items (pointer.child "items") 0 alike
  | composition kind branches extra =>
    exact listObjects_shapes branches (pointer.child kind.keyword) 0 alike
  | reference target extra => rfl
  | scalar extra => rfl
  | bool value => rfl

/-- Which objects a tree has does not depend on the place at which it stands. -/
@[simp] theorem objects_map_snd (node : Node) (pointer : Pointer) :
    (node.objects pointer).map (·.2) = node.shapes := by
  induction node using child_induction generalizing pointer with
  | step node inductionHypothesis =>
    rw [shapes, objects_split node inductionHypothesis, objects_split node inductionHypothesis]

/-- The objects of a tree are the one that its top is, followed by those below. -/
theorem shapes_eq (node : Node) : node.shapes = node.own ++ node.children.flatMap shapes :=
  objects_split node (fun child _ place => child.objects_map_snd place) .root

/-- The object that the top of a tree is belongs to the tree. -/
theorem own_subset_shapes (node : Node) : node.own ⊆ node.shapes := by
  rw [shapes_eq]
  exact List.subset_append_left _ _

/-- The objects of a tree below the top belong to the tree. -/
theorem shapes_subset_of_mem_children (node child : Node) (member : child ∈ node.children) :
    child.shapes ⊆ node.shapes := by
  intro shape listed
  rw [shapes_eq node]
  exact List.mem_append_right _ (List.mem_flatMap.mpr ⟨child, member, listed⟩)

/-- A tree of a table is at most as high as the table. -/
theorem height_le_tableHeight (table : Table Node) (entry : String × Node)
    (member : entry ∈ table) : entry.2.height ≤ tableHeight table := by
  induction table with
  | nil => contradiction
  | cons first rest inductionHypothesis =>
    rw [tableHeight]
    rcases List.mem_cons.mp member with rfl | member
    · exact Nat.le_max_left _ _
    · exact Nat.le_trans (inductionHypothesis member) (Nat.le_max_right _ _)

/-- A tree of a list is at most as high as the list. -/
theorem height_le_listHeight (nodes : List Node) (node : Node) (member : node ∈ nodes) :
    node.height ≤ listHeight nodes := by
  induction nodes with
  | nil => contradiction
  | cons first rest inductionHypothesis =>
    rw [listHeight]
    rcases List.mem_cons.mp member with rfl | member
    · exact Nat.le_max_left _ _
    · exact Nat.le_trans (inductionHypothesis member) (Nat.le_max_right _ _)

/-- No tree is empty. -/
theorem height_pos (node : Node) : 0 < node.height := by
  cases node with
  | object shape =>
    obtain ⟨properties, declared, required, additional, extra⟩ := shape
    cases additional <;> simp [height]
  | array items extra => cases items <;> simp [height]
  | composition kind branches extra => simp [height]
  | reference target extra => simp [height]
  | scalar extra => simp [height]
  | bool value => simp [height]

/-- A tree is higher than all trees below its top. -/
theorem height_lt_of_mem_children (node child : Node) (member : child ∈ node.children) :
    child.height < node.height := by
  cases node with
  | object shape =>
    obtain ⟨properties, declared, required, additional, extra⟩ := shape
    rcases List.mem_append.mp member with member | member
    · obtain ⟨entry, listed, rfl⟩ := List.mem_map.mp member
      have bound := height_le_tableHeight properties entry listed
      cases additional <;> simp only [height] <;> omega
    · cases additional with
      | schema node =>
        obtain rfl := List.mem_singleton.mp member
        simp only [height]
        omega
      | absent => contradiction
      | allowed value => contradiction
  | array items extra =>
    cases items with
    | absent => contradiction
    | single item =>
      obtain rfl := List.mem_singleton.mp member
      simp [height]
    | tuple items =>
      have bound := height_le_listHeight items child member
      rw [height]
      omega
  | composition kind branches extra =>
    have bound := height_le_listHeight branches child member
    rw [height]
    omega
  | reference target extra => contradiction
  | scalar extra => contradiction
  | bool value => contradiction

/-- Every table of properties in a tree has distinct keys. -/
def Distinct (node : Node) : Prop :=
  ∀ shape ∈ node.shapes, (Table.keys shape.properties).Nodup

instance (node : Node) : Decidable node.Distinct :=
  inferInstanceAs (Decidable (∀ shape ∈ node.shapes, (Table.keys shape.properties).Nodup))

end Node

namespace Schema

/-- The object nodes of a schema in the order of visits, without their places. -/
def shapes (schema : Schema) : List ObjectNode := schema.objects.map (·.2)

/-- The objects of a schema are those of its top level, followed by those of its definitions. -/
theorem shapes_eq (schema : Schema) :
    schema.shapes =
      schema.root.shapes ++ schema.definitions.flatMap fun entry => entry.2.shapes := by
  rw [shapes, objects, List.map_append, Node.objects_map_snd,
    Node.tableObjects_shapes _ _ fun entry _ place => entry.2.objects_map_snd place]

/-- The objects of the top level are objects of the schema. -/
theorem root_shapes_subset (schema : Schema) : schema.root.shapes ⊆ schema.shapes := by
  rw [shapes_eq]
  exact List.subset_append_left _ _

/-- The objects of a definition are objects of the schema. -/
theorem definition_shapes_subset {schema : Schema} {entry : String × Node}
    (member : entry ∈ schema.definitions) : entry.2.shapes ⊆ schema.shapes := by
  intro shape listed
  rw [shapes_eq]
  exact List.mem_append_right _ (List.mem_flatMap.mpr ⟨entry, member, listed⟩)

/-- All tables of a schema have distinct keys. -/
structure Distinct (schema : Schema) : Prop where
  definitions : (Table.keys schema.definitions).Nodup
  properties : ∀ shape ∈ schema.shapes, (Table.keys shape.properties).Nodup

instance (schema : Schema) : Decidable schema.Distinct :=
  decidable_of_iff
    ((Table.keys schema.definitions).Nodup ∧
      ∀ shape ∈ schema.shapes, (Table.keys shape.properties).Nodup)
    ⟨fun ⟨definitions, properties⟩ => ⟨definitions, properties⟩,
      fun distinct => ⟨distinct.definitions, distinct.properties⟩⟩

/-- The tree of the top level of a schema has distinct keys. -/
theorem Distinct.root {schema : Schema} (distinct : schema.Distinct) : schema.root.Distinct :=
  fun shape member => distinct.properties shape (schema.root_shapes_subset member)

/-- The trees of the definitions of a schema have distinct keys. -/
theorem Distinct.definition {schema : Schema} (distinct : schema.Distinct)
    (entry : String × Node) (member : entry ∈ schema.definitions) : entry.2.Distinct :=
  fun shape listed => distinct.properties shape (definition_shapes_subset member listed)

end Schema

end SchemaBindings
