import SchemaBindings.Proofs.Escaping
import SchemaBindings.Proofs.Routes

/-!
# Passes that stop half-way

A pass that renames the properties of objects may fail at one of them. What is left of
the schema then is a schema in which some objects have their new names, one has some of
them, and the others are as they were. To say which object has what, each is given the
renaming for the place where it stood before the pass. The place with which the failure
is reported is another one, as the keys on the way to the object may have been renamed
already: it is the place where the object stands in what is left.
-/
namespace SchemaBindings

namespace Node

mutual

/-- Rename the properties of every object of a tree as the place of the object says. -/
def renamedAt (name : Pointer → String → String) (place : Pointer) : Node → Node
  | .object ⟨properties, declared, required, additional, extra⟩ =>
    .object (ObjectShape.renamed (name place)
      ⟨tableRenamedAt name (place.child "properties") properties, declared, required,
        match additional with
        | .absent => .absent
        | .allowed value => .allowed value
        | .schema node => .schema (node.renamedAt name (place.child "additionalProperties")),
        extra⟩)
  | .array .absent extra => .array .absent extra
  | .array (.single item) extra => .array (.single (item.renamedAt name (place.child "items"))) extra
  | .array (.tuple items) extra =>
    .array (.tuple (listRenamedAt name (place.child "items") 0 items)) extra
  | .composition kind branches extra =>
    .composition kind (listRenamedAt name (place.child kind.keyword) 0 branches) extra
  | .reference target extra => .reference target extra
  | .scalar extra => .scalar extra
  | .bool value => .bool value

/-- The same for the trees of a table. The keys of the table stay. -/
def tableRenamedAt (name : Pointer → String → String) (place : Pointer) : Table Node → Table Node
  | [] => []
  | (key, node) :: rest =>
    (key, node.renamedAt name (place.child key)) :: tableRenamedAt name place rest

/-- The same for the trees of a list. -/
def listRenamedAt (name : Pointer → String → String) (place : Pointer) (index : Nat) :
    List Node → List Node
  | [] => []
  | node :: rest =>
    node.renamedAt name (place.item index) :: listRenamedAt name place (index + 1) rest

end

variable (name : Pointer → String → String)

/-- The schemas of a table are renamed one by one, each at the place of its name. -/
theorem tableRenamedAt_eq (place : Pointer) (table : Table Node) :
    tableRenamedAt name place table =
      table.map fun entry => (entry.1, entry.2.renamedAt name (place.child entry.1)) := by
  induction table with
  | nil => rfl
  | cons entry rest inductionHypothesis =>
    rw [tableRenamedAt, inductionHypothesis]
    rfl

/-- The schemas of a list are renamed one by one, each at the place of its index. -/
theorem listRenamedAt_eq (place : Pointer) (start : Nat) (nodes : List Node) :
    listRenamedAt name place start nodes =
      (nodes.zipIdx start).map fun (node, index) => node.renamedAt name (place.item index) := by
  induction nodes generalizing start with
  | nil => rfl
  | cons node rest inductionHypothesis =>
    rw [listRenamedAt, inductionHypothesis]
    rfl

/-- Rename the properties of the top of a tree, if that is an object. -/
def topRenamed (name : String → String) : Node → Node
  | .object shape => .object (shape.renamed name)
  | node => node

/-- A renaming of the node alone leaves its children as they are. -/
@[simp] theorem children_topRenamed (name : String → String) (node : Node) :
    (node.topRenamed name).children = node.children := by
  cases node with
  | object shape => exact shape.nodes_renamed name
  | _ => rfl

/-- A tree is renamed by renaming its top and each tree below it. -/
theorem renamedAt_eq (node : Node) (place : Pointer) :
    node.renamedAt name place = (node.topRenamed (name place)).refilled
      ((node.placed place).map fun tree => tree.2.renamedAt name tree.1) := by
  cases node with
  | object shape =>
    obtain ⟨properties, declared, required, additional, extra⟩ := shape
    let inside (entry : String × Node) : Node :=
      entry.2.renamedAt name ((place.child "properties").child entry.1)
    let others : List Node :=
      additional.nodes.map fun node => node.renamedAt name (place.child "additionalProperties")
    have values : ((Node.object ⟨properties, declared, required, additional, extra⟩).placed
        place).map (fun tree => tree.2.renamedAt name tree.1) = properties.map inside ++ others := by
      simp only [placed, steps, List.map_append, List.map_map]
      rfl
    have table : refill (Table.mapKeys (name place) properties) (properties.map inside ++ others) =
        Table.mapKeys (name place) (tableRenamedAt name (place.child "properties") properties) := by
      rw [Table.mapKeys, ← map_refill, refill_map, tableRenamedAt_eq]
      rfl
    have keys : Table.keys (tableRenamedAt name (place.child "properties") properties) =
        Table.keys properties := by
      simp [tableRenamedAt_eq, Table.keys, Function.comp_def]
    have entries (rest : Additional Node) :
        ObjectShape.renamedEntry (name place)
            ⟨tableRenamedAt name (place.child "properties") properties, declared, required, rest,
              extra⟩ =
          ObjectShape.renamedEntry (name place)
            ⟨properties, declared, required, additional, extra⟩ := by
      funext entry
      have same : Table.has (tableRenamedAt name (place.child "properties") properties) entry =
          Table.has properties entry := by
        rw [Bool.eq_iff_iff, Table.has_iff, Table.has_iff, keys]
      simp only [ObjectShape.renamedEntry, same]
    have whole : (Node.object ⟨properties, declared, required, additional, extra⟩).renamedAt name
        place = .object (ObjectShape.renamed (name place)
          ⟨tableRenamedAt name (place.child "properties") properties, declared, required,
            additional.refilled others, extra⟩) := by
      cases additional <;> rfl
    have dropped : (properties.map inside ++ others).drop
        (Table.mapKeys (name place) properties).length = others :=
      List.drop_left' (by simp [Table.mapKeys])
    rw [values, whole, topRenamed, ObjectShape.renamed, ObjectShape.renamed, refilled]
    simp only [entries, table, dropped]
  | array items extra =>
    cases items with
    | absent => rfl
    | single item => rfl
    | tuple items =>
      rw [renamedAt, listRenamedAt_eq, placed, steps, List.map_map, List.map_map]
      rfl
  | composition kind branches extra =>
    rw [renamedAt, listRenamedAt_eq, placed, steps, List.map_map, List.map_map]
    rfl
  | reference target extra => rfl
  | scalar extra => rfl
  | bool value => rfl

/-- The trees below an object are replaced as a change of nodes says, or all of them stay. -/
theorem rebuilt_eq (name : String → String) (change : Node → Node) (node : Node) :
    node.rebuilt name change = (node.topRenamed name).refilled (node.children.map change) := by
  cases node with
  | object shape =>
    have filled (shape : ObjectNode) : (Node.object shape).refilled (shape.nodes.map change) =
        .object (shape.map change) := by
      obtain ⟨properties, declared, required, additional, extra⟩ := shape
      have table := refill_map properties (fun entry => change entry.2)
        (additional.nodes.map change)
      have dropped : (properties.map (fun entry => change entry.2) ++
          additional.nodes.map change).drop properties.length = additional.nodes.map change :=
        List.drop_left' (by simp)
      simp only [refilled, ObjectShape.nodes, List.map_append, List.map_map, Function.comp_def,
        table, dropped, ObjectShape.map, Table.mapValues]
      cases additional <;> rfl
    rw [rebuilt, ObjectShape.renamed_map, ← filled, ObjectShape.nodes_renamed]
    rfl
  | array items extra => cases items <;> rfl
  | composition kind branches extra => rfl
  | reference target extra => rfl
  | scalar extra => rfl
  | bool value => rfl

variable {name}

/-- Where all places give one renaming, the tree gets that renaming. -/
theorem renamedAt_of_all {common : String → String} {node : Node} {place : Pointer}
    (all : ∀ placed ∈ node.objects place, name placed.1 = common) :
    node.renamedAt name place = node.renamed common := by
  induction node using child_induction generalizing place with
  | step node inductionHypothesis =>
    rw [objects_eq, List.forall_mem_append] at all
    obtain ⟨own, below⟩ := all
    have top : node.topRenamed (name place) = node.topRenamed common := by
      cases node with
      | object shape => rw [own (place, shape) List.mem_cons_self]
      | _ => rfl
    have inside : (node.placed place).map (fun tree => tree.2.renamedAt name tree.1) =
        node.children.map (renamed common) := by
      rw [← node.placed_map_snd place, List.map_map]
      refine List.map_congr_left fun tree member => ?_
      exact inductionHypothesis tree.2 (mem_children_of_mem_placed member) fun placed listed =>
        below placed (List.mem_flatMap.mpr ⟨tree, member, listed⟩)
    rw [renamedAt_eq, top, inside, renamed_eq, rebuilt_eq]

/-- Where no place gives a new name, the tree stays. -/
theorem renamedAt_of_none {node : Node} {place : Pointer}
    (none : ∀ placed ∈ node.objects place, name placed.1 = id) :
    node.renamedAt name place = node :=
  (renamedAt_of_all none).trans (renamed_of_unchanged fun _ _ _ _ => rfl)

/-- The same for the trees of a forest. -/
theorem map_renamedAt_of_none {forest : List PlacedNode}
    (none : ∀ placed ∈ forestObjects forest, name placed.1 = id) :
    forest.map (fun tree => tree.2.renamedAt name tree.1) = forest.map (·.2) := by
  refine List.map_congr_left fun tree member => renamedAt_of_none fun placed listed => ?_
  exact none placed (List.mem_flatMap.mpr ⟨tree, member, listed⟩)

end Node

/-- The first object of a list whose names are not acceptable, and what is before and after it. -/
structure Stop (acceptable : List String → Prop) (objects : List PlacedObject) where
  earlier : List PlacedObject
  spot : Pointer
  shape : ObjectNode
  later : List PlacedObject
  split : objects = earlier ++ (spot, shape) :: later
  good : ∀ placed ∈ earlier, acceptable placed.2.names
  bad : ¬ acceptable shape.names

namespace Stop

variable {acceptable : List String → Prop} {first second objects : List PlacedObject}

/-- More objects may come after the stop. -/
def inFirst (stop : Stop acceptable first) (second : List PlacedObject) :
    Stop acceptable (first ++ second) :=
  { stop with
    later := stop.later ++ second
    split := by rw [← List.cons_append, ← List.append_assoc, ← stop.split] }

/-- More acceptable objects may come before the stop. -/
def behind (good : ∀ placed ∈ first, acceptable placed.2.names) (stop : Stop acceptable second) :
    Stop acceptable (first ++ second) :=
  { stop with
    earlier := first ++ stop.earlier
    split := by rw [List.append_assoc, ← stop.split]
    good := List.forall_mem_append.mpr ⟨good, stop.good⟩ }

/-- What holds of all objects holds of those before the stop, of the stop, and of those after it. -/
theorem forall_mem_iff (stop : Stop acceptable objects) (motive : PlacedObject → Prop) :
    (∀ placed ∈ objects, motive placed) ↔
      (∀ placed ∈ stop.earlier, motive placed) ∧ motive (stop.spot, stop.shape) ∧
        ∀ placed ∈ stop.later, motive placed := by
  conv_lhs => rw [stop.split]
  rw [List.forall_mem_append, List.forall_mem_cons]

/-- The places of the objects before the stop give the whole renaming, that of the stop a part of it,
and those after the stop none. -/
structure Follows (stop : Stop acceptable objects) (name : String → String)
    (partly : List String → String → String) (turn : Pointer → String → String) : Prop where
  earlier : ∀ placed ∈ stop.earlier, turn placed.1 = name
  here : turn stop.spot = partly stop.shape.names
  later : ∀ placed ∈ stop.later, turn placed.1 = id

section Following

variable {name : String → String} {partly : List String → String → String}
variable {turn : Pointer → String → String}

/-- What follows a stop behind other objects renames those, and follows the stop. -/
theorem Follows.of_behind {good : ∀ placed ∈ first, acceptable placed.2.names}
    {stop : Stop acceptable second} (follows : (stop.behind good).Follows name partly turn) :
    (∀ placed ∈ first, turn placed.1 = name) ∧ stop.Follows name partly turn := by
  obtain ⟨front, earlier⟩ := List.forall_mem_append.mp follows.earlier
  exact ⟨front, earlier, follows.here, follows.later⟩

/-- What follows a stop before other objects follows the stop, and leaves those as they are. -/
theorem Follows.of_inFirst {stop : Stop acceptable first}
    (follows : (stop.inFirst second).Follows name partly turn) :
    stop.Follows name partly turn ∧ ∀ placed ∈ second, turn placed.1 = id := by
  obtain ⟨later, back⟩ := List.forall_mem_append.mp follows.later
  exact ⟨⟨follows.earlier, follows.here, later⟩, back⟩

end Following

/-- Among objects that are listed behind as many as come before the stop, the one of the stop has its
old index behind them. -/
theorem getElem?_behind {good : ∀ placed ∈ first, acceptable placed.2.names}
    (stop : Stop acceptable second) {front : List PlacedObject}
    (same : front.length = first.length) (listed : List PlacedObject) :
    (front ++ listed)[(stop.behind good).earlier.length]? = listed[stop.earlier.length]? := by
  have longer : (stop.behind good).earlier.length = front.length + stop.earlier.length := by
    rw [same]
    exact List.length_append
  rw [longer, List.getElem?_append_right (Nat.le_add_right _ _), Nat.add_sub_cancel_left]

end Stop

/-- What holds of the objects of a tree, wherever they stand, is said of its shapes. -/
theorem Node.forall_mem_objects_iff {node : Node} (place : Pointer) (motive : ObjectNode → Prop) :
    (∀ placed ∈ node.objects place, motive placed.2) ↔ ∀ shape ∈ node.shapes, motive shape := by
  rw [← node.objects_map_snd place, List.forall_mem_map]

/-- The change of one object renames its properties if their names are acceptable, and otherwise
renames some of them and fails. -/
structure StopsObjects (change : ObjectChange SchemaError Nat) (name : String → String)
    (acceptable : List String → Prop) (weight : List String → Nat)
    (partly : List String → String → String) (error : Pointer → List String → SchemaError) :
    Prop extends RenamesObjects change name acceptable weight where
  stops : ∀ (pointer : Pointer) (shape : ObjectNode) (count : Nat), shape.names.Nodup →
    ¬ acceptable shape.names →
      change pointer shape count =
        (shape.renamed (partly shape.names), .error (error pointer shape.names))

section Halting

variable {change : ObjectChange SchemaError Nat} {name : String → String}
variable {acceptable : List String → Prop} {weight : List String → Nat}
variable {partly : List String → String → String} {error : Pointer → List String → SchemaError}

/-- A visit of a tree with an object that is not acceptable fails at the first one. The objects before
it are renamed, it has a part of the renaming and stands at the place of the error, and those after
it are as they were. -/
def HaltsTree (acceptable : List String → Prop) (name : String → String)
    (partly : List String → String → String) (error : Pointer → List String → SchemaError)
    (visit : NodeChange SchemaError Nat) (node : Node) : Prop :=
  ∀ (origin place : Pointer) (count : Nat), ¬ AllAcceptable acceptable node.shapes →
    ∃ (stop : Stop acceptable (node.objects origin)) (left : Node) (pointer : Pointer),
      visit place node count = (left, .error (error pointer stop.shape.names)) ∧
      (left.objects place)[stop.earlier.length]? =
        some (pointer, stop.shape.renamed (partly stop.shape.names)) ∧
      ∀ turn, stop.Follows name partly turn → left = node.renamedAt turn origin

/-- The same for a forest whose trees stood at other places before. -/
theorem visitForest_halts {visit : NodeChange SchemaError Nat} {sources forest : List PlacedNode}
    (same : sources.map (·.2) = forest.map (·.2))
    (each : ∀ tree ∈ forest, RenamesTree acceptable weight name visit tree.2 ∧
      HaltsTree acceptable name partly error visit tree.2)
    (bad : ∃ tree ∈ forest, ¬ AllAcceptable acceptable tree.2.shapes) (count : Nat) :
    ∃ (stop : Stop acceptable (forestObjects sources)) (nodes : List Node) (pointer : Pointer),
      visitForest visit forest count = (nodes, .error (error pointer stop.shape.names)) ∧
      (forestObjects (refill forest nodes))[stop.earlier.length]? =
        some (pointer, stop.shape.renamed (partly stop.shape.names)) ∧
      ∀ turn, stop.Follows name partly turn →
        nodes = sources.map fun tree => tree.2.renamedAt turn tree.1 := by
  induction forest generalizing sources count with
  | nil =>
    obtain ⟨tree, member, _⟩ := bad
    contradiction
  | cons tree rest inductionHypothesis =>
    cases sources with
    | nil => contradiction
    | cons source sources =>
      obtain ⟨place, node⟩ := tree
      obtain ⟨origin, before⟩ := source
      obtain ⟨rfl, others⟩ := List.cons.inj same
      obtain ⟨⟨renames, halts⟩, after⟩ := List.forall_mem_cons.mp each
      rw [forestObjects_cons, visitForest]
      by_cases good : AllAcceptable acceptable before.shapes
      · obtain ⟨stop, nodes, pointer, ended, listed, turned⟩ := inductionHypothesis others after
          (by simpa [good] using bad) (count + tally weight before.shapes)
        have front := (Node.forall_mem_objects_iff origin _).mpr good
        have length : ((before.renamed name).objects place).length =
            (before.objects origin).length := by
          rw [← List.length_map (·.2), Node.objects_map_snd, Node.shapes_renamed, List.length_map,
            ← before.objects_map_snd origin, List.length_map]
        refine ⟨stop.behind front, before.renamed name :: nodes, pointer, ?_, ?_, ?_⟩
        · rw [(renames place count).1 good]
          simp only [ended]
          rfl
        · rw [refill_cons, forestObjects_cons]
          exact (stop.getElem?_behind length _).trans listed
        · intro turn follows
          obtain ⟨whole, behind⟩ := follows.of_behind
          rw [List.map_cons, Node.renamedAt_of_all whole, turned turn behind]
      · obtain ⟨stop, left, pointer, ended, listed, turned⟩ := halts origin place count good
        refine ⟨stop.inFirst _, left :: rest.map (·.2), pointer, ?_, ?_, ?_⟩
        · rw [ended]
          rfl
        · rw [refill_cons, forestObjects_cons]
          exact (List.getElem?_append_left (List.getElem?_eq_some_iff.mp listed).1).trans listed
        · intro turn follows
          obtain ⟨inside, untouched⟩ := follows.of_inFirst
          rw [List.map_cons, ← turned turn inside, Node.map_renamedAt_of_none untouched, others]

/-- If the top of a tree is acceptable and the tree is not, then one of the trees below is not. -/
theorem exists_not_acceptable {node : Node} (top : ∀ shape ∈ node.own, acceptable shape.names)
    (bad : ¬ AllAcceptable acceptable node.shapes) :
    ∃ child ∈ node.children, ¬ AllAcceptable acceptable child.shapes := by
  by_contra none
  rw [Node.shapes_eq, allAcceptable_append] at bad
  refine bad ⟨top, fun shape listed => ?_⟩
  obtain ⟨child, member, inner⟩ := List.mem_flatMap.mp listed
  have good : AllAcceptable acceptable child.shapes :=
    not_not.mp fun worse => none ⟨child, member, worse⟩
  exact good shape inner

/-- An acceptable top of a tree is renamed. -/
theorem changedTop_renames (renames : RenamesObjects change name acceptable weight) {node : Node}
    (distinct : ∀ shape ∈ node.own, shape.names.Nodup)
    (top : ∀ shape ∈ node.own, acceptable shape.names) (place : Pointer) (count : Nat) :
    ∃ next, node.changedTop change place count = (node.topRenamed name, .ok next) := by
  cases node with
  | object shape =>
    have renamed := renames.succeeds place shape count (distinct shape List.mem_cons_self)
      (top shape List.mem_cons_self)
    refine ⟨count + weight shape.names, ?_⟩
    rw [Node.changedTop, renamed]
    rfl
  | _ => exact ⟨count, rfl⟩

/-- A visit of an object that is not acceptable halts there. -/
theorem visitWithin_halts_at_top (stops : StopsObjects change name acceptable weight partly error)
    {shape : ObjectNode} (distinct : shape.names.Nodup) (bad : ¬ acceptable shape.names)
    (layers : Nat) :
    HaltsTree acceptable name partly error (Node.visitWithin change (layers + 1))
      (.object shape) := by
  intro origin place count _
  let below := forestObjects ((Node.object shape).placed origin)
  have first : (Node.object shape).objects origin = (origin, shape) :: below := Node.objects_eq _ _
  rw [first]
  let stop : Stop acceptable ((origin, shape) :: below) :=
    ⟨[], origin, shape, below, rfl, by simp, bad⟩
  refine ⟨stop, .object (shape.renamed (partly shape.names)), place, ?_, ?_, ?_⟩
  · rw [Node.visitWithin_succ, Node.changedTop, stops.stops place shape count distinct bad]
    rfl
  · rw [Node.objects_eq]
    rfl
  · intro turn follows
    have here : turn origin = partly shape.names := follows.here
    rw [Node.renamedAt_eq, Node.map_renamedAt_of_none follows.later, Node.placed_map_snd, here,
      ← Node.children_topRenamed (partly shape.names), Node.refilled_children]
    rfl

/-- A visit that reaches down to the height of a tree halts at the first object that is not
acceptable, if the change of objects stops there.

The induction is on the number of layers that are visited. If the top is acceptable, then the trees
that stand below it after its change are those that stood there before, but at other places. -/
theorem visitWithin_halts (stops : StopsObjects change name acceptable weight partly error)
    {layers : Nat} {node : Node} (reached : node.height ≤ layers) (distinct : node.Distinct) :
    HaltsTree acceptable name partly error (Node.visitWithin change layers) node := by
  induction layers generalizing node with
  | zero =>
    have positive := node.height_pos
    omega
  | succ layers inductionHypothesis =>
    obtain ⟨own, inside⟩ := node.distinct_iff.mp distinct
    by_cases top : ∀ shape ∈ node.own, acceptable shape.names
    case neg =>
      cases node with
      | object shape =>
        exact visitWithin_halts_at_top stops (own shape List.mem_cons_self)
          (by simpa [Node.own] using top) layers
      | _ => exact absurd (by simp [Node.own]) top
    case pos =>
      intro origin place count bad
      obtain ⟨next, changed⟩ :=
        changedTop_renames stops.toRenamesObjects own top place count
      have nodes : ((node.topRenamed name).placed place).map (·.2) = node.children := by
        rw [Node.placed_map_snd, Node.children_topRenamed]
      have each : ∀ tree ∈ (node.topRenamed name).placed place,
          RenamesTree acceptable weight name (Node.visitWithin change layers) tree.2 ∧
            HaltsTree acceptable name partly error (Node.visitWithin change layers) tree.2 := by
        intro tree member
        have child : tree.2 ∈ node.children := nodes ▸ List.mem_map_of_mem member
        have low := (node.height_le_succ_iff layers).mp reached tree.2 child
        exact ⟨visitWithin_renames stops.toRenamesObjects layers tree.2 low (inside _ child),
          inductionHypothesis low (inside _ child)⟩
      have worse : ∃ tree ∈ (node.topRenamed name).placed place,
          ¬ AllAcceptable acceptable tree.2.shapes := by
        obtain ⟨child, member, worse⟩ := exists_not_acceptable top bad
        obtain ⟨tree, present, rfl⟩ := List.mem_map.mp (nodes ▸ member)
        exact ⟨tree, present, worse⟩
      obtain ⟨stop, left, pointer, ended, listed, turned⟩ :=
        visitForest_halts ((node.placed_map_snd origin).trans nodes.symm) each worse next
      have front : ∀ placed ∈ node.own.map (fun shape => (origin, shape)),
          acceptable placed.2.names := List.forall_mem_map.mpr top
      have fits : left.length = (node.topRenamed name).children.length := by
        rw [← congrArg (fun visited => visited.1.length) ended]
        simp
      rw [Node.objects_eq, Node.visitWithin_succ, changed]
      refine ⟨stop.behind front, (node.topRenamed name).refilled left, pointer, ?_, ?_, ?_⟩
      · simp only [ended]
        rfl
      · have tops : (((node.topRenamed name).refilled left).own.map fun shape =>
            (place, shape)).length = (node.own.map fun shape => (origin, shape)).length := by
          rw [List.length_map, List.length_map, Node.length_own_refilled]
          cases node <;> rfl
        rw [Node.objects_eq, Node.placed_refilled fits]
        exact (stop.getElem?_behind tops _).trans listed
      · intro turn follows
        obtain ⟨own, behind⟩ := follows.of_behind
        have here : node.topRenamed (turn origin) = node.topRenamed name := by
          cases node with
          | object shape => rw [own (origin, shape) List.mem_cons_self]
          | _ => rfl
        rw [Node.renamedAt_eq, here, turned turn behind]

end Halting

namespace Schema

/-- Rename the properties of every object of a schema as the place of the object says. -/
def renamedAt (name : Pointer → String → String) (schema : Schema) : Schema :=
  { schema with
    root := schema.root.renamedAt name .root
    definitions := Node.tableRenamedAt name (Pointer.root.child schema.definitionsKey.text)
      schema.definitions }

/-- A schema is renamed by renaming each of its trees. -/
theorem renamedAt_eq (name : Pointer → String → String) (schema : Schema) :
    schema.renamedAt name =
      schema.refilled (schema.forest.map fun tree => tree.2.renamedAt name tree.1) := by
  have table := refill_map schema.definitions
    (fun entry => entry.2.renamedAt name
      ((Pointer.root.child schema.definitionsKey.text).child entry.1)) []
  rw [List.append_nil] at table
  simp only [renamedAt, refilled, forest, Node.tableRenamedAt_eq, List.map_cons, List.map_map,
    List.headD_cons, List.tail_cons, ← table]
  rfl

variable {change : ObjectChange SchemaError Nat} {name : String → String}
variable {acceptable : List String → Prop} {weight : List String → Nat}
variable {partly : List String → String → String} {error : Pointer → List String → SchemaError}

/-- A pass over a schema halts at the first object that is not acceptable, if the change of objects
stops there. -/
theorem visit_halts (stops : StopsObjects change name acceptable weight partly error)
    {schema : Schema} (distinct : schema.Distinct)
    (bad : ¬ AllAcceptable acceptable schema.shapes) (count : Nat) :
    ∃ (stop : Stop acceptable schema.objects) (left : Schema) (pointer : Pointer),
      schema.visit change count = (left, .error (error pointer stop.shape.names)) ∧
      left.objects[stop.earlier.length]? =
        some (pointer, stop.shape.renamed (partly stop.shape.names)) ∧
      ∀ turn, stop.Follows name partly turn → left = schema.renamedAt turn := by
  have each : ∀ tree ∈ schema.forest,
      RenamesTree acceptable weight name (Node.visitWithin change schema.height) tree.2 ∧
        HaltsTree acceptable name partly error (Node.visitWithin change schema.height) tree.2 := by
    intro tree member
    have low := (schema.height_le_iff _).mp (Nat.le_refl _) tree member
    have apart : tree.2.Distinct := by
      rcases List.mem_cons.mp member with rfl | member
      · exact distinct.root
      · obtain ⟨entry, present, rfl⟩ := List.mem_map.mp member
        exact distinct.definition entry present
    exact ⟨visitWithin_renames stops.toRenamesObjects _ tree.2 low apart,
      visitWithin_halts stops low apart⟩
  have worse : ∃ tree ∈ schema.forest, ¬ AllAcceptable acceptable tree.2.shapes := by
    by_contra none
    refine bad fun shape listed => ?_
    obtain ⟨placed, member, rfl⟩ := List.mem_map.mp listed
    rw [objects_eq] at member
    obtain ⟨tree, present, inner⟩ := List.mem_flatMap.mp member
    have good : AllAcceptable acceptable tree.2.shapes :=
      not_not.mp fun worse => none ⟨tree, present, worse⟩
    exact (Node.forall_mem_objects_iff tree.1 _).mpr good placed inner
  obtain ⟨stop, nodes, pointer, ended, listed, turned⟩ := visitForest_halts rfl each worse count
  have fits : nodes.length = schema.forest.length := by
    rw [← congrArg (fun visited => visited.1.length) ended, length_visitForest]
  rw [objects_eq, visit, visitWithin_eq, ended]
  refine ⟨stop, schema.refilled nodes, pointer, rfl, ?_, ?_⟩
  · rw [objects_eq, forest_refilled _ fits]
    exact listed
  · intro turn follows
    rw [renamedAt_eq, turned turn follows]

end Schema

end SchemaBindings
