import SchemaBindings.Schema.Error

/-!
# Schema nodes

A schema is a tree of nodes of six kinds. What the passes have to see is held in
fields of its own: the tables of properties, the required names, and the schemas
below a node. All other keywords of a node are kept as they are in `extra`, in their
order.

The part of an object node that holds schemas is written for any type of schema, so
that a change of names is stated once and knows nothing of what is below.
-/
namespace SchemaBindings

/-- What an object may have beyond its properties. Nothing said is not the same as all allowed here,
although it means the same, since a schema is written back as it was read. -/
inductive Additional (α : Type) where
  | absent
  | allowed (value : Bool)
  | schema (node : α)

/-- What an array holds: one schema for all items, or one for each. An empty list of schemas is a
list and not the same as no keyword. -/
inductive Items (α : Type) where
  | absent
  | single (node : α)
  | tuple (nodes : List α)

/-- The three ways to compose schemas. A node is composed in one of them at most. -/
inductive CompositionKind where
  | anyOf
  | oneOf
  | allOf
deriving DecidableEq, Repr

namespace CompositionKind

/-- All kinds, in the order in which they are looked for. The order shows in faults only, as a node
with two kinds is refused. -/
def all : List CompositionKind := [.anyOf, .oneOf, .allOf]

/-- The keyword that writes a composition, and by which it is found. -/
def keyword : CompositionKind → String
  | .anyOf => "anyOf"
  | .oneOf => "oneOf"
  | .allOf => "allOf"

/-- Whether a composition is a union. To demand any of several schemas or just one of them makes no
difference for the members; to demand all of them is an intersection. -/
def isUnion : CompositionKind → Bool
  | .allOf => false
  | _ => true

end CompositionKind

/-- An object node over schemas of any type. The properties keep the order of the document, and
their names differ in every shape that is read, which the type does not demand. -/
structure ObjectShape (α : Type) where
  properties : List (String × α)
  /-- Whether the table of properties was spelled out, possibly empty. -/
  declared : Bool
  required : Option (List String)
  additional : Additional α
  extra : Fields

/-- A schema. Every node of a document that is read is of just one kind, and keywords that the kind
has no field for are in `extra`. Nothing in `extra` is ever visited, so what is kept there must not
hold properties that a pass has to see. -/
inductive Node where
  | object (shape : ObjectShape Node)
  | array (items : Items Node) (extra : Fields)
  | composition (kind : CompositionKind) (branches : List Node) (extra : Fields)
  | reference (target : String) (extra : Fields)
  | scalar (extra : Fields)
  | bool (value : Bool)

/-- An object node, whose properties are schemas of this tree. -/
abbrev ObjectNode := ObjectShape Node

namespace ObjectShape

variable {α : Type}

/-- Put a new key in the place of an old one. Every entry with the old key gets the new one, of
which there is one at most in a table with distinct keys; whether the new key is taken is asked
elsewhere. -/
def renameKey (old new : String) : Table α → Table α
  | [] => []
  | (key, value) :: rest => (if key = old then new else key, value) :: renameKey old new rest

/-- Put a new name in the place of an old one in a list of required names. A name may be listed more
than once, and all its entries are changed. -/
def renameEntries (old new : String) (names : List String) : List String :=
  names.map fun name => if name = old then new else name

/-- Rename a property in place, together with the required entries that name it. The renaming is
refused if there is no such property or the new name is taken, and to rename a property to its own
name is refused with it. -/
def rename? (shape : ObjectShape α) (old new : String) : Option (ObjectShape α) :=
  if Table.has shape.properties new || !Table.has shape.properties old then none
  else
    some { shape with
      properties := renameKey old new shape.properties
      required := shape.required.map (renameEntries old new) }

/-- The required entries that name no property. An object may well require what it does not
describe, but a renaming could not follow such an entry. -/
def undeclared (shape : ObjectShape α) : List String :=
  (shape.required.getD []).filter fun name => !Table.has shape.properties name

end ObjectShape

end SchemaBindings
