import SchemaBindings.Proofs.Reading
import SchemaBindings.Proofs.Resolution

/-!
# Visits of forests

Below a node stand trees, each at a place that a step from the node leads to. All that
a visit does with a node, whatever its kind, is to change its top if that is an object,
to visit the trees that then stand below it, one after the other, and to put the results
in their places. The same holds of a schema, whose trees are its top level and its
definitions. So a law of visits is proved for the list of trees that are visited in turn,
a forest, and for one layer of nodes; the kinds of nodes are taken apart only here.
-/
namespace SchemaBindings

/-- A tree and the place where it stands. -/
abbrev PlacedNode := Pointer × Node

/-- The objects of the trees of a forest in the order of visits. -/
def forestObjects (forest : List PlacedNode) : List PlacedObject :=
  forest.flatMap fun tree => tree.2.objects tree.1

/-- The objects of a forest are those of its first tree, and then those of the others. -/
theorem forestObjects_cons (tree : PlacedNode) (rest : List PlacedNode) :
    forestObjects (tree :: rest) = tree.2.objects tree.1 ++ forestObjects rest :=
  List.flatMap_cons

/-- Entries with other values behind the same keys. -/
def refill {κ α : Type} (entries : List (κ × α)) (values : List α) : List (κ × α) :=
  entries.zipWith (fun entry value => (entry.1, value)) values

section Refilling

variable {κ α : Type}

/-- The first value goes to the first key. -/
@[simp] theorem refill_cons (entry : κ × α) (rest : List (κ × α)) (value : α)
    (values : List α) :
    refill (entry :: rest) (value :: values) = (entry.1, value) :: refill rest values := rfl

/-- The values are those that were put in, if there is one for every key. -/
theorem map_snd_refill {entries : List (κ × α)} {values : List α}
    (fits : values.length = entries.length) : (refill entries values).map (·.2) = values := by
  induction entries generalizing values with
  | nil =>
    obtain rfl := List.eq_nil_of_length_eq_zero fits
    rfl
  | cons entry rest inductionHypothesis =>
    cases values with
    | nil => contradiction
    | cons value values => exact congrArg (value :: ·) (inductionHypothesis (Nat.succ.inj fits))

/-- The keys are those that were there, if there is a value for every one of them. -/
theorem map_fst_refill {entries : List (κ × α)} {values : List α}
    (fits : entries.length ≤ values.length) :
    (refill entries values).map (·.1) = entries.map (·.1) := by
  induction entries generalizing values with
  | nil => rfl
  | cons entry rest inductionHypothesis =>
    cases values with
    | nil => contradiction
    | cons value values =>
      exact congrArg (entry.1 :: ·) (inductionHypothesis (Nat.le_of_succ_le_succ fits))

/-- A value that is made of every entry replaces the one that the entry has; more values are not put
in. -/
theorem refill_map (entries : List (κ × α)) (value : κ × α → α) (others : List α) :
    refill entries (entries.map value ++ others) =
      entries.map fun entry => (entry.1, value entry) := by
  induction entries with
  | nil => rfl
  | cons entry rest inductionHypothesis =>
    exact congrArg ((entry.1, value entry) :: ·) inductionHypothesis

/-- The values that are there, and more, change nothing. -/
theorem refill_map_snd (entries : List (κ × α)) (others : List α) :
    refill entries (entries.map (·.2) ++ others) = entries := by
  simp [refill_map]

/-- The values that are there change nothing. -/
@[simp] theorem refill_same (entries : List (κ × α)) :
    refill entries (entries.map (·.2)) = entries := by
  simpa using refill_map_snd entries []

/-- Two lists of keys are filled one after the other; the second one gets the values that are left.
-/
theorem refill_append (first second : List (κ × α)) (values : List α) :
    refill (first ++ second) values =
      refill first values ++ refill second (values.drop first.length) := by
  induction first generalizing values with
  | nil => rfl
  | cons entry rest inductionHypothesis =>
    cases values with
    | nil => simp [refill]
    | cons value values => exact congrArg ((entry.1, value) :: ·) (inductionHypothesis values)

/-- Values beyond the last key are not put in. -/
theorem refill_left {entries : List (κ × α)} {values : List α}
    (fits : values.length = entries.length) (others : List α) :
    refill entries (values ++ others) = refill entries values := by
  induction entries generalizing values with
  | nil => rfl
  | cons entry rest inductionHypothesis =>
    cases values with
    | nil => contradiction
    | cons value values =>
      exact congrArg ((entry.1, value) :: ·) (inductionHypothesis (Nat.succ.inj fits))

/-- Keys that depend on the old keys alone can be given before or after. -/
theorem map_refill {κ' : Type} (key : κ → κ') (entries : List (κ × α)) (values : List α) :
    (refill entries values).map (fun entry => (key entry.1, entry.2)) =
      refill (entries.map fun entry => (key entry.1, entry.2)) values := by
  simp [refill, List.map_zipWith, List.zipWith_map_left]

/-- Values with their indices as keys are other values behind the same indices. -/
theorem zipIdx_refill {values others : List α} (fits : others.length = values.length)
    (key : Nat → κ) (start : Nat) :
    ((others.zipIdx start).map fun (value, index) => (key index, value)) =
      refill ((values.zipIdx start).map fun (value, index) => (key index, value)) others := by
  induction values generalizing others start with
  | nil =>
    obtain rfl := List.eq_nil_of_length_eq_zero fits
    rfl
  | cons value values inductionHypothesis =>
    cases others with
    | nil => contradiction
    | cons other others =>
      exact congrArg ((key start, other) :: ·)
        (inductionHypothesis (Nat.succ.inj fits) (start + 1))

end Refilling

/-- Another schema in the place of the one that is there. -/
def Additional.refilled {α : Type} : Additional α → List α → Additional α
  | .schema node, nodes => .schema (nodes.headD node)
  | .allowed value, _ => .allowed value
  | .absent, _ => .absent

namespace Node

/-- The nodes directly below a node, in the order of visits, with the steps that lead to them. -/
def steps : Node → List (Descent × Node)
  | .object shape =>
    shape.properties.map (fun entry => (.property entry.1, entry.2))
      ++ shape.additional.nodes.map fun node => (.additional, node)
  | .array (.single item) _ => [(.single, item)]
  | .array (.tuple items) _ => items.zipIdx.map fun (item, index) => (.item index, item)
  | .composition kind branches _ =>
    branches.zipIdx.map fun (branch, index) => (.branch kind index, branch)
  | _ => []

/-- The trees directly below a node that stands at some place. -/
def placed (node : Node) (place : Pointer) : List PlacedNode :=
  node.steps.map fun step => (place.follow step.1.tokens, step.2)

/-- The steps from a node lead to its children, in the order of visits and to each of them once. -/
@[simp] theorem steps_map_snd (node : Node) : node.steps.map (·.2) = node.children := by
  cases node with
  | object shape => simp [steps, children, ObjectShape.nodes, Function.comp_def]
  | array items extra => cases items <;> simp [steps, children, Items.nodes, Function.comp_def]
  | composition kind branches extra => simp [steps, children, Function.comp_def]
  | reference target extra => rfl
  | scalar extra => rfl
  | bool value => rfl

/-- The trees below a node are its children; only their places are added. -/
@[simp] theorem placed_map_snd (node : Node) (place : Pointer) :
    (node.placed place).map (·.2) = node.children := by
  rw [placed, List.map_map, ← steps_map_snd]
  rfl

/-- There are as many trees below a node as it has children. -/
@[simp] theorem length_placed (node : Node) (place : Pointer) :
    (node.placed place).length = node.children.length := by
  rw [← node.placed_map_snd place, List.length_map]

/-- What a step leads to is a child. -/
theorem mem_children_of_mem_steps {node : Node} {step : Descent × Node}
    (member : step ∈ node.steps) : step.2 ∈ node.children := by
  rw [← node.steps_map_snd]
  exact List.mem_map_of_mem member

/-- A tree below a node is one of its children. -/
theorem mem_children_of_mem_placed {node : Node} {place : Pointer} {tree : PlacedNode}
    (member : tree ∈ node.placed place) : tree.2 ∈ node.children := by
  obtain ⟨step, present, rfl⟩ := List.mem_map.mp member
  exact mem_children_of_mem_steps present

/-- The trees of a table stand at its keys. -/
theorem tableObjects_eq (place : Pointer) (table : Table Node) :
    tableObjects place table =
      forestObjects (table.map fun entry => (place.child entry.1, entry.2)) := by
  induction table with
  | nil => rfl
  | cons entry rest inductionHypothesis =>
    rw [tableObjects, inductionHypothesis]
    rfl

/-- The trees of a list stand at its indices. -/
theorem listObjects_eq (place : Pointer) (start : Nat) (nodes : List Node) :
    listObjects place start nodes =
      forestObjects ((nodes.zipIdx start).map fun (node, index) => (place.item index, node)) := by
  induction nodes generalizing start with
  | nil => rfl
  | cons node rest inductionHypothesis =>
    rw [listObjects, inductionHypothesis]
    rfl

/-- The objects of a tree are its top, if that is an object, and those of the trees below. -/
theorem objects_eq (node : Node) (place : Pointer) :
    node.objects place =
      node.own.map (fun shape => (place, shape)) ++ forestObjects (node.placed place) := by
  cases node with
  | object shape =>
    have below : forestObjects ((Node.object shape).placed place) =
        tableObjects (place.child "properties") shape.properties
          ++ additionalObjects place shape.additional := by
      rw [tableObjects_eq, placed, steps, forestObjects, List.map_append, List.flatMap_append]
      cases shape.additional <;> simp [forestObjects, additionalObjects, Additional.nodes,
        List.flatMap_map, Descent.tokens, Pointer.follow]
    rw [objects_object, below]
    rfl
  | array items extra =>
    cases items with
    | absent => rfl
    | single item => simp [objects, own, forestObjects, placed, steps, Descent.tokens, Pointer.follow]
    | tuple items =>
      rw [objects, listObjects_eq, placed, steps, List.map_map]
      rfl
  | composition kind branches extra =>
    rw [objects, listObjects_eq, placed, steps, List.map_map]
    rfl
  | reference target extra => rfl
  | scalar extra => rfl
  | bool value => rfl

/-- A node with other trees below it, in the places of those that it has. -/
def refilled : Node → List Node → Node
  | .object ⟨properties, declared, required, additional, extra⟩, nodes =>
    .object ⟨refill properties nodes, declared, required,
      additional.refilled (nodes.drop properties.length), extra⟩
  | .array (.single item) extra, nodes => .array (.single (nodes.headD item)) extra
  | .array (.tuple _) extra, nodes => .array (.tuple nodes) extra
  | .composition kind _ extra, nodes => .composition kind nodes extra
  | node, _ => node

section Refilling

variable {node : Node} {nodes : List Node}

/-- The places below a node do not depend on the trees that stand there. -/
theorem placed_refilled (fits : nodes.length = node.children.length) (place : Pointer) :
    (node.refilled nodes).placed place = refill (node.placed place) nodes := by
  cases node with
  | object shape =>
    obtain ⟨properties, declared, required, additional, extra⟩ := shape
    rw [placed, placed, refilled, steps, steps, List.map_append, List.map_append,
      refill_append]
    congr 1
    · simp only [List.map_map, Function.comp_def]
      exact map_refill (fun name => place.follow (Descent.property name).tokens) _ _
    · cases additional with
      | schema child =>
        have length : nodes.length = properties.length + 1 := by
          simpa [children, ObjectShape.nodes, Additional.nodes] using fits
        obtain ⟨last, rest⟩ : ∃ last, nodes.drop properties.length = [last] := by
          rw [← List.length_eq_one_iff, List.length_drop]
          omega
        simp [Additional.refilled, Additional.nodes, refill, rest]
      | absent => rfl
      | allowed value => rfl
  | array items extra =>
    cases items with
    | absent => rfl
    | single item =>
      obtain ⟨child, rfl⟩ := List.length_eq_one_iff.mp fits
      rfl
    | tuple items =>
      simp only [placed, steps, refilled, List.map_map]
      exact zipIdx_refill fits (fun index => place.follow (Descent.item index).tokens) 0
  | composition kind branches extra =>
    simp only [placed, steps, refilled, List.map_map]
    exact zipIdx_refill fits (fun index => place.follow (Descent.branch kind index).tokens) 0
  | reference target extra => rfl
  | scalar extra => rfl
  | bool value => rfl

/-- The trees put below a node are those that stand there then. -/
theorem children_refilled (fits : nodes.length = node.children.length) :
    (node.refilled nodes).children = nodes := by
  rw [← placed_map_snd _ .root, placed_refilled fits, map_snd_refill]
  rw [fits, length_placed]

/-- A node is an object or none, whatever trees stand below it. -/
theorem map_own_refilled {β : Type} (node : Node) (value : β) (nodes : List Node) :
    (node.refilled nodes).own.map (fun _ => value) = node.own.map fun _ => value := by
  cases node with
  | array items extra => cases items <;> rfl
  | _ => rfl

/-- A node that gets other children is an object afterwards if it was one before. -/
theorem length_own_refilled (node : Node) (nodes : List Node) :
    (node.refilled nodes).own.length = node.own.length := by
  simpa using congrArg List.length (node.map_own_refilled () nodes)

/-- A node with its own trees below it is the node. -/
theorem refilled_children (node : Node) : node.refilled node.children = node := by
  cases node with
  | object shape =>
    obtain ⟨properties, declared, required, additional, extra⟩ := shape
    cases additional <;>
      simp [refilled, Additional.refilled, children, ObjectShape.nodes, Additional.nodes,
        refill_map_snd]
  | array items extra => cases items <;> rfl
  | composition kind branches extra => rfl
  | reference target extra => rfl
  | scalar extra => rfl
  | bool value => rfl

end Refilling

/-- A table is as high as its highest tree. -/
theorem tableHeight_le_iff (table : Table Node) (layers : Nat) :
    tableHeight table ≤ layers ↔ ∀ entry ∈ table, entry.2.height ≤ layers := by
  induction table with
  | nil => simp [tableHeight]
  | cons entry rest inductionHypothesis =>
    rw [tableHeight, Nat.max_le, inductionHypothesis, List.forall_mem_cons]

/-- A list is as high as its highest tree. -/
theorem listHeight_le_iff (nodes : List Node) (layers : Nat) :
    listHeight nodes ≤ layers ↔ ∀ node ∈ nodes, node.height ≤ layers := by
  induction nodes with
  | nil => simp [listHeight]
  | cons node rest inductionHypothesis =>
    rw [listHeight, Nat.max_le, inductionHypothesis, List.forall_mem_cons]

/-- A tree is one layer higher than the highest tree below its top. -/
theorem height_le_succ_iff (node : Node) (layers : Nat) :
    node.height ≤ layers + 1 ↔ ∀ child ∈ node.children, child.height ≤ layers := by
  cases node with
  | object shape =>
    obtain ⟨properties, declared, required, additional, extra⟩ := shape
    rw [children, ObjectShape.nodes, List.forall_mem_append, List.forall_mem_map,
      ← tableHeight_le_iff]
    cases additional with
    | absent => simp [height, Additional.nodes]
    | allowed value => simp [height, Additional.nodes]
    | schema node =>
      rw [height, Additional.nodes, List.forall_mem_singleton, Nat.add_le_add_iff_right,
        Nat.max_le]
  | array items extra =>
    cases items <;> simp [height, children, Items.nodes, listHeight_le_iff]
  | composition kind branches extra => simp [height, children, listHeight_le_iff]
  | reference target extra => simp [height, children]
  | scalar extra => simp [height, children]
  | bool value => simp [height, children]

end Node

section Visiting

variable {ε σ : Type}

/-- Change the trees of a forest in order, up to the first error. -/
def visitForest (visit : NodeChange ε σ) : List PlacedNode → σ → Visited ε σ (List Node)
  | [], state => ([], .ok state)
  | (place, node) :: rest, state =>
    match visit place node state with
    | (node, .error error) => (node :: rest.map (·.2), .error error)
    | (node, .ok state) =>
      let (nodes, outcome) := visitForest visit rest state
      (node :: nodes, outcome)

variable (visit : NodeChange ε σ)

/-- A visit leaves as many trees as there were, also if it stops in the midst of them. -/
@[simp] theorem length_visitForest (forest : List PlacedNode) (state : σ) :
    (visitForest visit forest state).1.length = forest.length := by
  induction forest generalizing state with
  | nil => rfl
  | cons tree rest inductionHypothesis =>
    rw [visitForest]
    split
    · simp
    · simp [inductionHypothesis]

/-- A forest is visited by visiting its first part and then, if that has not failed, the rest. -/
theorem visitForest_append (first second : List PlacedNode) (state : σ) :
    visitForest visit (first ++ second) state =
      match visitForest visit first state with
      | (nodes, .error error) => (nodes ++ second.map (·.2), .error error)
      | (nodes, .ok state) =>
        Prod.map (nodes ++ ·) id (visitForest visit second state) := by
  induction first generalizing state with
  | nil => rfl
  | cons tree rest inductionHypothesis =>
    obtain ⟨place, node⟩ := tree
    rw [List.cons_append, visitForest, visitForest]
    cases visit place node state with
    | mk node outcome =>
      cases outcome with
      | error error => simp
      | ok next =>
        simp only [inductionHypothesis]
        cases visitForest visit rest next with
        | mk nodes outcome => cases outcome <;> rfl

/-- The trees of a table are a forest. -/
theorem visitTable_eq (place : Pointer) (table : Table Node) (state : σ) :
    visitTable visit place table state =
      Prod.map (refill table) id
        (visitForest visit (table.map fun entry => (place.child entry.1, entry.2)) state) := by
  induction table generalizing state with
  | nil => rfl
  | cons entry rest inductionHypothesis =>
    obtain ⟨name, node⟩ := entry
    rw [visitTable, List.map_cons, visitForest]
    cases visit (place.child name) node state with
    | mk node outcome =>
      cases outcome with
      | error error =>
        simp [Function.comp_def]
      | ok next => simp [inductionHypothesis]

/-- The trees of a list are a forest. -/
theorem visitList_eq (place : Pointer) (start : Nat) (nodes : List Node) (state : σ) :
    visitList visit place start nodes state =
      visitForest visit ((nodes.zipIdx start).map fun (node, index) => (place.item index, node))
        state := by
  induction nodes generalizing start state with
  | nil => rfl
  | cons node rest inductionHypothesis =>
    rw [visitList, List.zipIdx_cons, List.map_cons, visitForest]
    cases visit (place.item start) node state with
    | mk node outcome =>
      cases outcome with
      | error error => simp [Function.comp_def]
      | ok next => simp [inductionHypothesis]

namespace Node

/-- The trees below an object are a forest. -/
theorem visitBelow_eq (place : Pointer) (shape : ObjectNode) (state : σ) :
    Prod.map Node.object id (visitBelow visit place shape state) =
      Prod.map (Node.object shape).refilled id
        (visitForest visit ((Node.object shape).placed place) state) := by
  obtain ⟨properties, declared, required, additional, extra⟩ := shape
  let front : List PlacedNode :=
    properties.map fun entry => ((place.child "properties").child entry.1, entry.2)
  have split : (Node.object ⟨properties, declared, required, additional, extra⟩).placed place =
      front ++ additional.nodes.map fun node => (place.child "additionalProperties", node) := by
    simp only [placed, steps, List.map_append, List.map_map]
    rfl
  have length : (visitForest visit front state).1.length = properties.length := by
    simp [front]
  rw [visitBelow, visitTable_eq, split, visitForest_append]
  cases visited : visitForest visit front state with
  | mk nodes outcome =>
    rw [visited] at length
    have filled (others : List Node) :
        (Node.object ⟨properties, declared, required, additional, extra⟩).refilled
          (nodes ++ others) = .object ⟨refill properties nodes, declared, required,
            additional.refilled others, extra⟩ := by
      rw [refilled, List.drop_left' length, refill_left length]
    cases outcome with
    | error error =>
      simp only [Prod.map, filled]
      cases additional <;> rfl
    | ok next =>
      simp only [Prod.map, filled]
      cases additional with
      | schema node =>
        simp only [Additional.nodes, List.map_cons, List.map_nil, visitForest]
        cases below : visit (place.child "additionalProperties") node next with
        | mk other outcome => cases outcome <;> simp [below, Additional.refilled]
      | absent => rfl
      | allowed value => rfl

/-- What a change makes of a node: if it is an object, that is changed. -/
def changedTop (change : ObjectChange ε σ) (place : Pointer) : Node → σ → Visited ε σ Node
  | .object shape, state => Prod.map .object id (change place shape state)
  | node, state => (node, .ok state)

/-- A layer of a visit: the top is changed, and then the trees that stand below it are visited. -/
theorem visitWithin_succ (change : ObjectChange ε σ) (layers : Nat) (place : Pointer) (node : Node)
    (state : σ) :
    visitWithin change (layers + 1) place node state =
      match node.changedTop change place state with
      | (top, .error error) => (top, .error error)
      | (top, .ok state) =>
        Prod.map top.refilled id
          (visitForest (visitWithin change layers) (top.placed place) state) := by
  cases node with
  | object shape =>
    rw [visitWithin, changedTop]
    cases change place shape state with
    | mk next outcome =>
      cases outcome with
      | error error => rfl
      | ok state => exact visitBelow_eq (visitWithin change layers) place next state
  | array items extra =>
    cases items with
    | absent => rfl
    | single item =>
      simp only [visitWithin, changedTop, placed, steps, List.map_cons, List.map_nil, visitForest,
        Descent.tokens, Pointer.follow, List.foldl_cons, List.foldl_nil]
      cases visitWithin change layers (place.child "items") item state with
      | mk item outcome => cases outcome <;> rfl
    | tuple items =>
      rw [visitWithin, visitList_eq]
      simp only [changedTop, placed, steps, List.map_map]
      rfl
  | composition kind branches extra =>
    rw [visitWithin, visitList_eq]
    simp only [changedTop, placed, steps, List.map_map]
    rfl
  | reference target extra => rfl
  | scalar extra => rfl
  | bool value => rfl

end Node

namespace Schema

/-- The trees of a schema: its top level and its definitions. -/
def forest (schema : Schema) : List PlacedNode :=
  (.root, schema.root) :: schema.definitions.map fun entry =>
    ((Pointer.root.child schema.definitionsKey.text).child entry.1, entry.2)

/-- A schema with other trees in the places of those that it has. -/
def refilled (schema : Schema) (nodes : List Node) : Schema :=
  { schema with
    root := nodes.headD schema.root
    definitions := refill schema.definitions nodes.tail }

/-- The objects of a schema are those of its trees. -/
theorem objects_eq (schema : Schema) : schema.objects = forestObjects schema.forest := by
  rw [objects, Node.tableObjects_eq]
  rfl

/-- A schema with its own trees is the schema. -/
theorem refilled_same (schema : Schema) : schema.refilled (schema.forest.map (·.2)) = schema := by
  have definitions : schema.definitions.map (·.2) = (schema.forest.map (·.2)).tail := by
    simp [forest, Function.comp_def]
  rw [refilled, ← definitions, refill_same]
  rfl

/-- The places of the trees of a schema do not depend on the trees. -/
theorem forest_refilled (schema : Schema) {nodes : List Node}
    (fits : nodes.length = schema.forest.length) :
    (schema.refilled nodes).forest = refill schema.forest nodes := by
  cases nodes with
  | nil => simp [forest] at fits
  | cons node nodes =>
    rw [forest, forest, refill_cons, ← map_refill]
    rfl

/-- A schema is visited by visiting its trees. -/
theorem visitWithin_eq (change : ObjectChange ε σ) (layers : Nat) (schema : Schema) (state : σ) :
    schema.visitWithin change layers state =
      Prod.map schema.refilled id
        (visitForest (Node.visitWithin change layers) schema.forest state) := by
  rw [visitWithin, forest, visitForest]
  cases Node.visitWithin change layers .root schema.root state with
  | mk root outcome =>
    cases outcome with
    | error error => simp [refilled, Function.comp_def]
    | ok next =>
      simp only [visitTable_eq]
      rfl

/-- A schema is as high as its highest tree. -/
theorem height_le_iff (schema : Schema) (layers : Nat) :
    schema.height ≤ layers ↔ ∀ tree ∈ schema.forest, tree.2.height ≤ layers := by
  rw [height, Nat.max_le, Node.tableHeight_le_iff, forest, List.forall_mem_cons,
    List.forall_mem_map]

end Schema

end Visiting

end SchemaBindings
