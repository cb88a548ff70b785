import SchemaBindings.Schema.Document

/-!
# Visiting the objects of a schema

The passes look at object nodes only. They are visited from the top: first the tree
of the top level, then each definition; an object comes before the nodes below it,
and of these the properties before the schema of additional properties. References
are never followed, so every node is visited once.

A pass that only looks takes the objects as a list. A pass that changes objects is
given each of them with the place it stands at, and the nodes below an object are
those that it has after the change. Nothing keeps such a pass from putting ever new
objects below the old ones, so the tree is visited to a given depth; a change that
keeps the nodes below an object never needs more than the height of the tree.
-/
namespace SchemaBindings

/-- An object node and the place it stands at. The place is the pointer to the node in the document
that the schema is written as. -/
abbrev PlacedObject := Pointer × ObjectNode

mutual

/-- The object nodes of a tree in the order of visits. An object comes before what is below it, and
what is kept in `extra` has no nodes at all, whatever it looks like. -/
def Node.objects (pointer : Pointer) : Node → List PlacedObject
  | .object ⟨properties, declared, required, additional, extra⟩ =>
    (pointer, ⟨properties, declared, required, additional, extra⟩)
      :: (Node.tableObjects (pointer.child "properties") properties
        ++ match additional with
          | .schema node => node.objects (pointer.child "additionalProperties")
          | _ => [])
  | .array (.single item) _ => item.objects (pointer.child "items")
  | .array (.tuple items) _ => Node.listObjects (pointer.child "items") 0 items
  | .array .absent _ => []
  | .composition kind branches _ => Node.listObjects (pointer.child kind.keyword) 0 branches
  | .reference _ _ => []
  | .scalar _ => []
  | .bool _ => []

/-- The object nodes of the trees of a table, one tree after the other. -/
def Node.tableObjects (pointer : Pointer) : Table Node → List PlacedObject
  | [] => []
  | (name, node) :: rest =>
    node.objects (pointer.child name) ++ Node.tableObjects pointer rest

/-- The object nodes of the trees of a list; `index` is the number of the trees before. -/
def Node.listObjects (pointer : Pointer) (index : Nat) : List Node → List PlacedObject
  | [] => []
  | node :: rest =>
    node.objects (pointer.item index) ++ Node.listObjects pointer (index + 1) rest

end

mutual

/-- How many nodes stand above one another in a tree at most. A node alone has the height one, so a
tree of height zero does not exist. -/
def Node.height : Node → Nat
  | .object ⟨properties, _, _, additional, _⟩ =>
    max (Node.tableHeight properties)
      (match additional with
        | .schema node => node.height
        | _ => 0) + 1
  | .array (.single item) _ => item.height + 1
  | .array (.tuple items) _ => Node.listHeight items + 1
  | .array .absent _ => 1
  | .composition _ branches _ => Node.listHeight branches + 1
  | .reference _ _ => 1
  | .scalar _ => 1
  | .bool _ => 1

/-- The greatest height of the trees of a table, and zero if there are none. -/
def Node.tableHeight : Table Node → Nat
  | [] => 0
  | (_, node) :: rest => max node.height (Node.tableHeight rest)

/-- The greatest height of the trees of a list, and zero if there are none. -/
def Node.listHeight : List Node → Nat
  | [] => 0
  | node :: rest => max node.height (Node.listHeight rest)

end

section Changing

variable {ε σ : Type}

/-- What is left of a part of a schema after a pass, and how the pass ended: with a state to go on
from, or with an error. The part is there in both cases, as changes are made in place and those
before an error are not taken back. -/
abbrev Visited (ε σ part : Type) := part × Except ε σ

/-- A change of an object node that stands at some place. It may look at the nodes below and change
them too; it is handed what has been gathered so far and hands on what is to be gathered. -/
abbrev ObjectChange (ε σ : Type) := Pointer → ObjectNode → σ → Visited ε σ ObjectNode

/-- A change of a tree that stands at some place. -/
abbrev NodeChange (ε σ : Type) := Pointer → Node → σ → Visited ε σ Node

/-- Change the trees of a table in order, up to the first error. The trees behind it stay as they
are, and names are never changed here. -/
def visitTable (visit : NodeChange ε σ) (pointer : Pointer) :
    Table Node → σ → Visited ε σ (Table Node)
  | [], state => ([], .ok state)
  | (name, node) :: rest, state =>
    match visit (pointer.child name) node state with
    | (node, .error error) => ((name, node) :: rest, .error error)
    | (node, .ok state) =>
      let (rest, outcome) := visitTable visit pointer rest state
      ((name, node) :: rest, outcome)

/-- Change the trees of a list in order, up to the first error; `index` is the number of those
before. -/
def visitList (visit : NodeChange ε σ) (pointer : Pointer) (index : Nat) :
    List Node → σ → Visited ε σ (List Node)
  | [], state => ([], .ok state)
  | node :: rest, state =>
    match visit (pointer.item index) node state with
    | (node, .error error) => (node :: rest, .error error)
    | (node, .ok state) =>
      let (rest, outcome) := visitList visit pointer (index + 1) rest state
      (node :: rest, outcome)

/-- Change the trees below an object node, the properties before the schema of additional
properties. What is changed are the trees that the object has now, which need not be those that it
was read with. -/
def visitBelow (visit : NodeChange ε σ) (pointer : Pointer) (shape : ObjectNode) (state : σ) :
    Visited ε σ ObjectNode :=
  match visitTable visit (pointer.child "properties") shape.properties state with
  | (properties, .error error) => ({ shape with properties }, .error error)
  | (properties, .ok state) =>
    match shape.additional with
    | .schema node =>
      let (node, outcome) := visit (pointer.child "additionalProperties") node state
      ({ shape with properties, additional := .schema node }, outcome)
    | _ => ({ shape with properties }, .ok state)

/-- Change the object nodes of a tree that stand in its uppermost layers. Below them nothing is
changed. The layers count nodes and not objects, so that every step of the recursion takes one. -/
def Node.visitWithin (change : ObjectChange ε σ) : (layers : Nat) → NodeChange ε σ
  | 0, _, node, state => (node, .ok state)
  | layers + 1, pointer, .object shape, state =>
    match change pointer shape state with
    | (shape, .error error) => (.object shape, .error error)
    | (shape, .ok state) =>
      let (shape, outcome) := visitBelow (Node.visitWithin change layers) pointer shape state
      (.object shape, outcome)
  | layers + 1, pointer, .array (.single item) extra, state =>
    let (item, outcome) := Node.visitWithin change layers (pointer.child "items") item state
    (.array (.single item) extra, outcome)
  | layers + 1, pointer, .array (.tuple items) extra, state =>
    let (items, outcome) :=
      visitList (Node.visitWithin change layers) (pointer.child "items") 0 items state
    (.array (.tuple items) extra, outcome)
  | layers + 1, pointer, .composition kind branches extra, state =>
    let (branches, outcome) :=
      visitList (Node.visitWithin change layers) (pointer.child kind.keyword) 0 branches state
    (.composition kind branches extra, outcome)
  | _ + 1, _, node, state => (node, .ok state)

end Changing

namespace Schema

/-- The object nodes of a schema in the order of visits, those of the top level first and then those
of each definition. -/
def objects (schema : Schema) : List PlacedObject :=
  schema.root.objects .root
    ++ Node.tableObjects (Pointer.root.child schema.definitionsKey.text) schema.definitions

/-- How many nodes of a schema stand above one another at most. Definitions are no higher up than
the top level, since no node stands above them. -/
def height (schema : Schema) : Nat :=
  max schema.root.height (Node.tableHeight schema.definitions)

/-- Change the object nodes of a schema that stand in its uppermost layers. After an error in the
top level, no definition is visited. -/
def visitWithin {ε σ : Type} (change : ObjectChange ε σ) (layers : Nat) (schema : Schema)
    (state : σ) : Visited ε σ Schema :=
  match Node.visitWithin change layers .root schema.root state with
  | (root, .error error) => ({ schema with root }, .error error)
  | (root, .ok state) =>
    let (definitions, outcome) :=
      visitTable (Node.visitWithin change layers)
        (Pointer.root.child schema.definitionsKey.text) schema.definitions state
    ({ schema with root, definitions }, outcome)

/-- Change the object nodes of a schema by a change that keeps the nodes below an object. As many
layers are visited as the schema has before the change; what a change puts below them is not
visited. -/
def visit {ε σ : Type} (change : ObjectChange ε σ) (schema : Schema) (state : σ) :
    Visited ε σ Schema :=
  schema.visitWithin change schema.height state

/-- Every required entry that names no property of its object, in the order of visits. All of them
are given, though a run reports the first one only. -/
def violations (schema : Schema) : List SchemaError :=
  schema.objects.flatMap fun (pointer, shape) =>
    shape.undeclared.map fun name => .requiredMismatch pointer name

end Schema

end SchemaBindings
