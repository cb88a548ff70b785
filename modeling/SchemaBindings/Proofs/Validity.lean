import SchemaBindings.Proofs.Renaming
import SchemaBindings.Proofs.Values
import SchemaBindings.Schema.Union

/-!
# What schemas mean

A schema says which values are valid. The keywords that the tree models have their usual
meaning: an object must have its required names, the values of declared properties must
be valid for their schemas and all others for what is allowed beyond them; items are
valid one by one; a composition asks for one branch at least, for exactly one, or for
all. A keyword of objects says nothing about other values, nor one of arrays.

The keywords that are kept as they are have a meaning that is not fixed here. It may be
any, as long as it does not look at the keys of a value. References to definitions are
followed to a given depth; what they say beyond it, and what references to anything else
say, is not fixed either.

What is said about one object, array or composition is stated over verdicts on the nodes
below, so that the meaning of a tree is put together from these by recursion.
-/
namespace SchemaBindings

/-- The value is valid for what an object may have beyond its properties. -/
def Additional.judges (additional : Additional (Json → Bool)) (value : Json) : Bool :=
  match additional with
  | .absent => true
  | .allowed answer => answer
  | .schema verdict => verdict value

/-- A value is valid for what an array holds. -/
def Items.judges (items : Items (Json → Bool)) (value : Json) : Bool :=
  match items, value with
  | .single verdict, .array values => values.all verdict
  | .tuple verdicts, .array values =>
    (List.zipWith (fun verdict value => verdict value) verdicts values).all id
  | _, _ => true

/-- A value is valid for a composition of branches with these verdicts. -/
def CompositionKind.judges (kind : CompositionKind) (verdicts : List Bool) : Bool :=
  match kind with
  | .anyOf => verdicts.any id
  | .oneOf => verdicts.count true == 1
  | .allOf => verdicts.all id

namespace ObjectShape

/-- A field of a value is valid for an object: for its property, or for what is allowed beyond. -/
def judgesField (shape : ObjectShape (Json → Bool)) (field : String × Json) : Bool :=
  match shape.properties.lookup field.1 with
  | some verdict => verdict field.2
  | none => shape.additional.judges field.2

/-- A value is valid for an object: it has all required names, and all its fields are valid. -/
def judges (shape : ObjectShape (Json → Bool)) (value : Json) : Bool :=
  match value with
  | .object fields => shape.entries.all (Table.has fields) && fields.all shape.judgesField
  | _ => true

end ObjectShape

/-- A meaning of all that the tree does not model. It does not depend on the keys of values. -/
structure Interpretation where
  /-- What the keywords say that a node keeps as they are. -/
  keeps : Fields → Json → Bool
  /-- What the keywords say that stand beside a reference. -/
  besideReference : Fields → Json → Bool
  /-- The definition that a target names, if it names a whole one. -/
  definition : String → Option String := definitionName
  /-- What a reference says that is not followed. -/
  unfollowed : String → Json → Bool
  keeps_renamedKeys : ∀ (extra : Fields) (name : String → String) (value : Json),
    keeps extra (value.renamedKeys name) = keeps extra value
  besideReference_renamedKeys : ∀ (extra : Fields) (name : String → String) (value : Json),
    besideReference extra (value.renamedKeys name) = besideReference extra value
  unfollowed_renamedKeys : ∀ (target : String) (name : String → String) (value : Json),
    unfollowed target (value.renamedKeys name) = unfollowed target value

namespace Node

variable (meaning : Interpretation) (follow : String → Json → Bool)

mutual

/-- A value is valid for a node, given what references say. -/
def accepts : Node → Json → Bool
  | .object ⟨properties, declared, required, additional, extra⟩ => fun value =>
    ObjectShape.judges
      ⟨tableAccepts properties, declared, required,
        match additional with
        | .absent => .absent
        | .allowed answer => .allowed answer
        | .schema node => .schema node.accepts,
        extra⟩ value && meaning.keeps extra value
  | .array .absent extra => fun value => meaning.keeps extra value
  | .array (.single item) extra => fun value =>
    (Items.single item.accepts).judges value && meaning.keeps extra value
  | .array (.tuple items) extra => fun value =>
    (Items.tuple (listAccepts items)).judges value && meaning.keeps extra value
  | .composition kind branches extra => fun value =>
    kind.judges ((listAccepts branches).map fun verdict => verdict value)
      && meaning.keeps extra value
  | .reference target extra => fun value =>
    follow target value && meaning.besideReference extra value
  | .scalar extra => fun value => meaning.keeps extra value
  | .bool answer => fun _ => answer

/-- The verdicts of the nodes of a table. -/
def tableAccepts : Table Node → Table (Json → Bool)
  | [] => []
  | (key, node) :: rest => (key, node.accepts) :: tableAccepts rest

/-- The verdicts of the nodes of a list. -/
def listAccepts : List Node → List (Json → Bool)
  | [] => []
  | node :: rest => node.accepts :: listAccepts rest

end

/-- What a node says by itself, given verdicts on the nodes below. -/
def judges (verdict : Node → Json → Bool) (node : Node) (value : Json) : Bool :=
  match node with
  | .object shape => (shape.map verdict).judges value && meaning.keeps shape.extra value
  | .array items extra => (items.map verdict).judges value && meaning.keeps extra value
  | .composition kind branches extra =>
    kind.judges (branches.map fun branch => verdict branch value) && meaning.keeps extra value
  | .reference target extra => follow target value && meaning.besideReference extra value
  | .scalar extra => meaning.keeps extra value
  | .bool answer => answer

/-- The schemas of a table accept as each of them does by itself. -/
theorem tableAccepts_eq (table : Table Node) :
    tableAccepts meaning follow table = Table.mapValues (accepts meaning follow) table := by
  induction table with
  | nil => rfl
  | cons entry rest inductionHypothesis =>
    simp [tableAccepts, inductionHypothesis, Table.mapValues]

/-- So do those of a list. -/
theorem listAccepts_eq (nodes : List Node) :
    listAccepts meaning follow nodes = nodes.map (accepts meaning follow) := by
  induction nodes with
  | nil => rfl
  | cons node rest inductionHypothesis => simp [listAccepts, inductionHypothesis]

/-- The meaning of a tree is what its top says about the meanings of the trees below. -/
theorem accepts_eq (node : Node) :
    node.accepts meaning follow = judges meaning follow (accepts meaning follow) node := by
  funext value
  cases node with
  | object shape =>
    obtain ⟨properties, declared, required, additional, extra⟩ := shape
    cases additional <;>
      simp [accepts, judges, tableAccepts_eq, ObjectShape.map, Additional.map]
  | array items extra =>
    cases items <;> simp [accepts, judges, listAccepts_eq, Items.map, Items.judges]
  | composition kind branches extra =>
    simp [accepts, judges, listAccepts_eq, Function.comp_def]
  | reference target extra => simp [accepts, judges]
  | scalar extra => simp [accepts, judges]
  | bool answer => simp [accepts, judges]

end Node

namespace Schema

variable (meaning : Interpretation) (schema : Schema)

/-- What references say when they are followed to a depth. -/
def follow : (depth : Nat) → String → Json → Bool
  | 0, target, value => meaning.unfollowed target value
  | depth + 1, target, value =>
    match (meaning.definition target).bind (schema.definitions.lookup ·) with
    | some node => node.accepts meaning (follow depth) value
    | none => meaning.unfollowed target value

/-- A value is valid for a node of a schema, with references followed to a depth. -/
def accepts (depth : Nat) (node : Node) (value : Json) : Bool :=
  node.accepts meaning (schema.follow meaning depth) value

end Schema

end SchemaBindings
