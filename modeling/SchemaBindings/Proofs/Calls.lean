import SchemaBindings.Proofs.Looks

/-!
# The calls of a changing pass

A pass that changes objects hands each of them to a function of its own, and goes on with
the nodes that stand below the object then. The function may put anything in the place of
the object, also more objects below it, so the pass need not come to an end. If it does,
a certain number of layers is enough for it, and it is the same with more of them.

The walk of such a pass is another one than that of a pass that only looks. Still both go
the same way: where the function never fails, it is called at the places at which a look
at the schema that is left is made, in the same order, and where it changes nothing, it is
called as a look is, even up to a failure.
-/
namespace SchemaBindings

section Ending

variable {ε σ : Type}

/-- A forest is visited alike by two visits that agree where the first leaves low trees. -/
theorem visitForest_congr {visit other : NodeChange ε σ} {layers : Nat}
    (agree : ∀ place node state, (visit place node state).1.height ≤ layers →
      other place node state = visit place node state)
    {forest : List PlacedNode} {state : σ}
    (low : ∀ node ∈ (visitForest visit forest state).1, node.height ≤ layers) :
    visitForest other forest state = visitForest visit forest state := by
  induction forest generalizing state with
  | nil => rfl
  | cons tree rest inductionHypothesis =>
    obtain ⟨place, node⟩ := tree
    rw [visitForest, visitForest]
    rw [visitForest] at low
    have first : other place node state = visit place node state := by
      refine agree place node state ?_
      cases visited : visit place node state with
      | mk left outcome =>
        rw [visited] at low
        cases outcome with
        | error error => exact low left List.mem_cons_self
        | ok next => exact low left List.mem_cons_self
    rw [first]
    cases visited : visit place node state with
    | mk left outcome =>
      rw [visited] at low
      cases outcome with
      | error error => rfl
      | ok next =>
        have later := inductionHypothesis fun node member =>
          low node (List.mem_cons_of_mem left member)
        simp only [later]

/-- A visit of a tree that leaves no more layers than it reaches is the same if it reaches
further. -/
theorem Node.visitWithin_of_le {change : ObjectChange ε σ} {layers more : Nat}
    (further : layers ≤ more) {place : Pointer} {node : Node} {state : σ}
    (low : (Node.visitWithin change layers place node state).1.height ≤ layers) :
    Node.visitWithin change more place node state =
      Node.visitWithin change layers place node state := by
  induction layers generalizing more place node state with
  | zero =>
    have positive := (Node.visitWithin change 0 place node state).1.height_pos
    omega
  | succ layers inductionHypothesis =>
    obtain ⟨more, rfl⟩ : ∃ others, more = others + 1 := ⟨more - 1, by omega⟩
    rw [Node.visitWithin_succ, Node.visitWithin_succ]
    rw [Node.visitWithin_succ] at low
    cases changed : node.changedTop change place state with
    | mk top outcome =>
      rw [changed] at low
      cases outcome with
      | error error => rfl
      | ok next =>
        have below := (Node.height_le_succ_iff _ layers).mp low
        rw [Prod.map_fst, Node.children_refilled (by simp)] at below
        have same : visitForest (Node.visitWithin change more) (top.placed place) next =
            visitForest (Node.visitWithin change layers) (top.placed place) next :=
          visitForest_congr (fun _ _ _ lower => inductionHypothesis (by omega) lower) below
        simp only [same]

namespace Schema

variable {change : ObjectChange ε σ} {schema after : Schema} {state : σ} {outcome : Except ε σ}

/-- A visit of a schema ends with what it leaves and with an outcome: it leaves no more layers than
it has reached. -/
def EndsVisit (change : ObjectChange ε σ) (schema : Schema) (state : σ) (after : Schema)
    (outcome : Except ε σ) : Prop :=
  ∃ layers, after.height ≤ layers ∧ schema.visitWithin change layers state = (after, outcome)

/-- What a visit leaves at the places of the trees of a schema. -/
theorem forest_visited (change : ObjectChange ε σ) (schema : Schema) (layers : Nat) (state : σ) :
    (schema.visitWithin change layers state).1.forest =
      refill schema.forest
        (visitForest (Node.visitWithin change layers) schema.forest state).1 := by
  rw [visitWithin_eq, Prod.map_fst, forest_refilled]
  simp

/-- The trees that a visit leaves are those that its visit of the forest does. -/
theorem visited_height_le_iff (layers bound : Nat) :
    (schema.visitWithin change layers state).1.height ≤ bound ↔
      ∀ node ∈ (visitForest (Node.visitWithin change layers) schema.forest state).1,
        node.height ≤ bound := by
  rw [height_le_iff, forest_visited]
  conv_rhs => rw [← map_snd_refill (length_visitForest _ schema.forest state)]
  rw [List.forall_mem_map]

/-- A visit that has ended ends the same way however far it may reach. -/
theorem EndsVisit.visitWithin_eq (ends : schema.EndsVisit change state after outcome) :
    ∃ layers, ∀ more, layers ≤ more →
      schema.visitWithin change more state = (after, outcome) := by
  obtain ⟨layers, low, visited⟩ := ends
  refine ⟨layers, fun more further => ?_⟩
  rw [← visited]
  have below : (schema.visitWithin change layers state).1.height ≤ layers := by rwa [visited]
  have same := visitForest_congr (fun _ _ _ lower => Node.visitWithin_of_le further lower)
    ((visited_height_le_iff layers layers).mp below)
  rw [Schema.visitWithin_eq, Schema.visitWithin_eq, same]

/-- A visit ends in one way only. -/
theorem EndsVisit.unique {other : Schema} {result : Except ε σ}
    (ends : schema.EndsVisit change state after outcome)
    (again : schema.EndsVisit change state other result) : after = other ∧ outcome = result := by
  obtain ⟨layers, same⟩ := ends.visitWithin_eq
  obtain ⟨more, met⟩ := again.visitWithin_eq
  exact Prod.mk.inj ((same _ (Nat.le_max_left layers more)).symm.trans
    (met _ (Nat.le_max_right layers more)))

end Schema

/-- The trees of a visited forest are no higher than those that stood in their places, if this is so
for each tree. -/
theorem visitForest_height_le {visit : NodeChange ε σ}
    (lower : ∀ place node state, (visit place node state).1.height ≤ node.height) {bound : Nat}
    {forest : List PlacedNode} (low : ∀ tree ∈ forest, tree.2.height ≤ bound) (state : σ) :
    ∀ node ∈ (visitForest visit forest state).1, node.height ≤ bound := by
  induction forest generalizing state with
  | nil => simp [visitForest]
  | cons tree rest inductionHypothesis =>
    obtain ⟨place, node⟩ := tree
    obtain ⟨first, others⟩ := List.forall_mem_cons.mp low
    have here := Nat.le_trans (lower place node state) first
    rw [visitForest]
    cases visited : visit place node state with
    | mk left outcome =>
      rw [visited] at here
      cases outcome with
      | error error => exact List.forall_mem_cons.mpr ⟨here, List.forall_mem_map.mpr others⟩
      | ok next => exact List.forall_mem_cons.mpr ⟨here, inductionHypothesis others next⟩

/-- A visit leaves a tree no higher than it was, if the change keeps the nodes below an object. -/
theorem Node.visitWithin_height_le {change : ObjectChange ε σ}
    (keeps : ∀ place shape state, (change place shape state).1.nodes = shape.nodes) (layers : Nat)
    (place : Pointer) (node : Node) (state : σ) :
    (Node.visitWithin change layers place node state).1.height ≤ node.height := by
  induction layers generalizing place node state with
  | zero => exact Nat.le_refl _
  | succ layers inductionHypothesis =>
    have same : (node.changedTop change place state).1.children = node.children := by
      cases node with
      | object shape => exact keeps place shape state
      | _ => rfl
    have low := (node.height_le_succ_iff (node.height - 1)).mp (by omega)
    have positive := node.height_pos
    rw [← Nat.sub_add_cancel positive, height_le_succ_iff, visitWithin_succ]
    cases changed : node.changedTop change place state with
    | mk top outcome =>
      rw [changed] at same
      cases outcome with
      | error error => rwa [same]
      | ok next =>
        rw [Prod.map_fst, children_refilled (by simp)]
        exact visitForest_height_le inductionHypothesis
          (fun tree member => low tree.2 (same ▸ mem_children_of_mem_placed member)) next

/-- A pass that keeps the nodes below an object comes to an end. -/
theorem Schema.visit_ends {change : ObjectChange ε σ}
    (keeps : ∀ place shape state, (change place shape state).1.nodes = shape.nodes)
    (schema : Schema) (state : σ) :
    schema.EndsVisit change state (schema.visit change state).1 (schema.visit change state).2 := by
  refine ⟨schema.height, ?_, rfl⟩
  rw [visit, visited_height_le_iff]
  exact visitForest_height_le (Node.visitWithin_height_le keeps schema.height)
    ((schema.height_le_iff _).mp (Nat.le_refl _)) state

end Ending

section Looking

variable {ε σ : Type}

/-- A change that only looks. -/
def ObjectLook.unchanging (look : ObjectLook ε σ) : ObjectChange ε σ :=
  fun place shape state => (shape, look place shape state)

variable (look : ObjectLook ε σ)

/-- A forest is visited as it is looked through, if this is so for each of its trees. -/
theorem visitForest_unchanging {visit : NodeChange ε σ} {forest : List PlacedNode}
    (each : ∀ tree ∈ forest, ∀ state,
      visit tree.1 tree.2 state = (tree.2, look.through (tree.2.objects tree.1) state))
    (state : σ) :
    visitForest visit forest state =
      (forest.map (·.2), look.through (forestObjects forest) state) := by
  induction forest generalizing state with
  | nil => rfl
  | cons tree rest inductionHypothesis =>
    have first := each tree List.mem_cons_self state
    obtain ⟨place, node⟩ := tree
    rw [visitForest, first, forestObjects_cons, ObjectLook.through_append]
    cases looked : look.through (node.objects place) state with
    | error error => rfl
    | ok next =>
      have later := inductionHypothesis
        (fun tree member => each tree (List.mem_cons_of_mem _ member)) next
      simp only [later]
      rfl

/-- The top of a tree is left as it is. -/
theorem Node.changedTop_unchanging (node : Node) (place : Pointer) (state : σ) :
    node.changedTop look.unchanging place state =
      (node, look.through (node.own.map fun shape => (place, shape)) state) := by
  cases node with
  | object shape =>
    rw [changedTop, own, List.map_singleton, ObjectLook.through_cons]
    cases looked : look place shape state <;>
      simp [ObjectLook.unchanging, looked, Prod.map, bind, Except.bind]
  | _ => rfl

/-- A visit that only looks leaves a tree that it reaches the end of as it is, and is a look at its
objects. -/
theorem Node.visitWithin_unchanging {layers : Nat} {node : Node} (reached : node.height ≤ layers)
    (place : Pointer) (state : σ) :
    Node.visitWithin look.unchanging layers place node state =
      (node, look.through (node.objects place) state) := by
  induction layers generalizing node place state with
  | zero =>
    have positive := node.height_pos
    omega
  | succ layers inductionHypothesis =>
    have below : ∀ tree ∈ node.placed place, ∀ state,
        Node.visitWithin look.unchanging layers tree.1 tree.2 state =
          (tree.2, look.through (tree.2.objects tree.1) state) := by
      intro tree member state
      have child := Node.mem_children_of_mem_placed member
      have low := (node.height_le_succ_iff layers).mp reached tree.2 child
      exact inductionHypothesis low tree.1 state
    have visited := visitForest_unchanging look below
    rw [Node.visitWithin_succ, Node.changedTop_unchanging, Node.objects_eq,
      ObjectLook.through_append]
    cases look.through (node.own.map fun shape => (place, shape)) state with
    | error error => rfl
    | ok next =>
      simp only [visited, Prod.map, Node.placed_map_snd, Node.refilled_children]
      rfl

/-- A visit that only looks ends with the schema as it was, and as the look does. -/
theorem Schema.endsVisit_unchanging (schema : Schema) (state : σ) :
    schema.EndsVisit look.unchanging state schema (schema.lookThrough look state) := by
  refine ⟨schema.height, Nat.le_refl _, ?_⟩
  have each : ∀ tree ∈ schema.forest, ∀ state,
      Node.visitWithin look.unchanging schema.height tree.1 tree.2 state =
        (tree.2, look.through (tree.2.objects tree.1) state) := by
    intro tree member state
    have low := (schema.height_le_iff schema.height).mp (Nat.le_refl _) tree member
    exact Node.visitWithin_unchanging look low tree.1 state
  rw [visitWithin_eq, visitForest_unchanging look each, lookThrough_eq, objects_eq, Prod.map,
    refilled_same]
  rfl

end Looking

section Noting

variable {ε σ : Type}

/-- A call of the function of a pass: the place of the object, the object that the function is given,
and the one that it leaves. -/
structure Call where
  place : Pointer
  given : ObjectNode
  left : ObjectNode

/-- The same change, which also notes its calls, up to the one where it fails. -/
def noted (change : ObjectChange ε σ) : ObjectChange (List Call × ε) (List Call × σ) :=
  fun place given state =>
    match change place given state.2 with
    | (left, .ok next) => (left, .ok (state.1 ++ [⟨place, given, left⟩], next))
    | (left, .error error) => (left, .error (state.1 ++ [⟨place, given, left⟩], error))

/-- What some calls have made of a tree. An object is what a call for it has left, over what the calls
have made of the nodes below that; any other node is as it was, over what they have made of those
below it. -/
inductive Node.Turned (calls : List Call) : Pointer → Node → Node → Prop
  | object {place : Pointer} {given left : ObjectNode} {nodes : List Node}
    (called : ⟨place, given, left⟩ ∈ calls)
    (below : List.Forall₂ (fun tree node => Node.Turned calls tree.1 tree.2 node)
      ((Node.object left).placed place) nodes) :
    Turned calls place (.object given) ((Node.object left).refilled nodes)
  | other {place : Pointer} {node : Node} {nodes : List Node} (plain : node.own = [])
    (below : List.Forall₂ (fun tree node => Node.Turned calls tree.1 tree.2 node)
      (node.placed place) nodes) :
    Turned calls place node (node.refilled nodes)

/-- What some calls have made of a schema: each of its trees is what they have made of it, and its
keys are as they were. -/
def Schema.Turned (calls : List Call) (schema after : Schema) : Prop :=
  ∃ nodes, List.Forall₂ (fun tree node => Node.Turned calls tree.1 tree.2 node) schema.forest nodes ∧
    after = schema.refilled nodes

/-- A visit of low trees that goes on from some calls adds those for the objects of the tree that it
leaves, at their places, and the tree is what the calls have made of it. -/
def Notes (visit : NodeChange (List Call × ε) (List Call × σ)) (layers : Nat) : Prop :=
  ∀ place node calls state, (visit place node (calls, state)).1.height ≤ layers →
    ∃ made last, (visit place node (calls, state)).2 = .ok (calls ++ made, last) ∧
      made.map (·.place) = ((visit place node (calls, state)).1.objects place).map (·.1) ∧
      ∀ all, made ⊆ all → Node.Turned all place node (visit place node (calls, state)).1

/-- The same for a forest. -/
theorem Notes.visitForest {visit : NodeChange (List Call × ε) (List Call × σ)} {layers : Nat}
    (notes : Notes visit layers) (forest : List PlacedNode) (calls : List Call) (state : σ)
    (low : ∀ node ∈ (visitForest visit forest (calls, state)).1, node.height ≤ layers) :
    ∃ made last, (SchemaBindings.visitForest visit forest (calls, state)).2 =
        .ok (calls ++ made, last) ∧
      made.map (·.place) =
        (forestObjects (refill forest
          (SchemaBindings.visitForest visit forest (calls, state)).1)).map (·.1) ∧
      ∀ all, made ⊆ all → List.Forall₂ (fun tree node => Node.Turned all tree.1 tree.2 node) forest
        (SchemaBindings.visitForest visit forest (calls, state)).1 := by
  induction forest generalizing calls state with
  | nil => exact ⟨[], state, by simp [SchemaBindings.visitForest], rfl, fun _ _ => .nil⟩
  | cons tree rest inductionHypothesis =>
    obtain ⟨place, node⟩ := tree
    have first := notes place node calls state
    rw [SchemaBindings.visitForest] at low ⊢
    cases visited : visit place node (calls, state) with
    | mk left outcome =>
      rw [visited] at first low
      have lowest : left.height ≤ layers := by
        cases outcome with
        | error error => exact low left List.mem_cons_self
        | ok next => exact low left List.mem_cons_self
      obtain ⟨made, last, rfl, places, turned⟩ := first lowest
      obtain ⟨others, final, ended, below, later⟩ := inductionHypothesis (calls ++ made) last
        fun node member => low node (List.mem_cons_of_mem left member)
      refine ⟨made ++ others, final, ?_, ?_, ?_⟩
      · simp only [ended, List.append_assoc]
      · rw [List.map_append, places, below, refill_cons, forestObjects_cons, List.map_append]
      · intro all held
        obtain ⟨here, there⟩ := List.append_subset.mp held
        exact .cons (turned all here) (later all there)

variable {change : ObjectChange ε σ}

/-- A change that never fails notes a call at the place of the top of a tree, if that is an
object. -/
theorem Node.changedTop_noted
    (total : ∀ place shape state, ∃ next, (change place shape state).2 = .ok next)
    (node : Node) (place : Pointer) (calls : List Call) (state : σ) :
    ∃ top made next, node.changedTop (noted change) place (calls, state) =
        (top, .ok (calls ++ made, next)) ∧
      made.map (·.place) = top.own.map (fun _ => place) ∧
      ∀ all nodes, made ⊆ all →
        List.Forall₂ (fun tree node => Node.Turned all tree.1 tree.2 node) (top.placed place) nodes →
          Node.Turned all place node (top.refilled nodes) := by
  cases node with
  | object given =>
    obtain ⟨next, ended⟩ := total place given state
    cases changed : change place given state with
    | mk left outcome =>
      rw [changed] at ended
      obtain rfl : outcome = .ok next := ended
      refine ⟨.object left, [⟨place, given, left⟩], next, ?_, rfl, ?_⟩
      · simp only [changedTop, noted, changed, Prod.map]
        rfl
      · intro all nodes held below
        exact .object (held List.mem_cons_self) below
  | _ =>
    refine ⟨_, [], state, by rw [List.append_nil]; rfl, rfl, ?_⟩
    intro all nodes _ below
    exact .other rfl below

/-- A visit by a change that never fails notes the objects of the trees that it leaves. -/
theorem Node.visitWithin_notes
    (total : ∀ place shape state, ∃ next, (change place shape state).2 = .ok next) (layers : Nat) :
    Notes (Node.visitWithin (noted change) layers) layers := by
  induction layers with
  | zero =>
    intro place node calls state low
    have positive := (Node.visitWithin (noted change) 0 place node (calls, state)).1.height_pos
    omega
  | succ layers inductionHypothesis =>
    intro place node calls state low
    obtain ⟨top, made, next, changed, places, turned⟩ :=
      node.changedTop_noted total place calls state
    rw [visitWithin_succ, changed] at low ⊢
    have fits : (visitForest (visitWithin (noted change) layers) (top.placed place)
        (calls ++ made, next)).1.length = top.children.length := by simp
    have below := (height_le_succ_iff _ layers).mp low
    rw [Prod.map_fst, children_refilled fits] at below
    obtain ⟨others, last, ended, listed, later⟩ :=
      inductionHypothesis.visitForest (top.placed place) (calls ++ made) next below
    refine ⟨made ++ others, last, ?_, ?_, ?_⟩
    · simp only [Prod.map, ended, id, List.append_assoc]
    · rw [Prod.map_fst, objects_eq, placed_refilled fits, List.map_append, List.map_append, places,
        listed, List.map_map]
      exact congrArg (· ++ _) (top.map_own_refilled place _).symm
    · intro all held
      obtain ⟨here, there⟩ := List.append_subset.mp held
      exact turned all _ here (later all there)

/-- A visit with a function that never fails calls it, if the visit comes to an end, at the places at
which a look at the schema that it leaves is made, in the same order; what is left is what the calls
have made of the schema, and nothing else is changed. A visit with a function that changes nothing
comes to an end, with the schema as it was, and calls the function as a look at the schema does, also
when the function fails. -/
theorem Schema.visit_calls (schema : Schema) (change : ObjectChange ε σ)
    (total : ∀ place shape state, ∃ next, (change place shape state).2 = .ok next) (state : σ) :
    (∀ after outcome, schema.EndsVisit (noted change) ([], state) after outcome →
      ∃ calls last seen, outcome = .ok (calls, last) ∧
        after.lookThrough ObjectLook.idle.noted ([], ()) = .ok (seen, ()) ∧
        calls.map (·.place) = seen.map (·.1) ∧ schema.Turned calls after) ∧
    ∀ (look : ObjectLook ε σ) (state : σ),
      schema.EndsVisit look.noted.unchanging ([], state) schema
        (schema.lookThrough look.noted ([], state)) := by
  constructor
  · rintro after outcome ⟨layers, low, visited⟩
    have below := (schema.visited_height_le_iff layers layers).mp (by rwa [visited])
    obtain ⟨calls, last, ended, places, turned⟩ :=
      (Node.visitWithin_notes total layers).visitForest schema.forest [] state below
    have left := schema.forest_visited (noted change) layers ([], state)
    rw [Schema.visitWithin_eq] at visited left
    obtain ⟨rfl, rfl⟩ := Prod.mk.inj visited
    refine ⟨calls, last, _, ended, lookThrough_idle _, ?_, _,
      turned calls (List.Subset.refl calls), rfl⟩
    rw [places, objects_eq, ← left]
    rfl
  · intro look state
    exact schema.endsVisit_unchanging look.noted ([], state)

/-- A change that puts a slash in front of all names of an object, and one more object below an object
with a single property. -/
def growing : ObjectChange Empty Nat := fun _ shape count =>
  let added : Table Node :=
    if shape.properties.length = 1 then [("added", .object ⟨[], true, none, .absent, []⟩)] else []
  (ObjectShape.renamed ("/" ++ ·) { shape with properties := shape.properties ++ added },
    .ok (count + 1))

/-- The calls of that change at the places where the objects stand after it. -/
theorem Schema.visit_calls_of_growing :
    (∀ place shape count, ∃ next, (growing place shape count).2 = .ok next) ∧
      ∃ after calls seen, Schema.nestedObjects.EndsVisit (noted growing) ([], 0) after
          (.ok (calls, 4)) ∧
        after.lookThrough ObjectLook.idle.noted ([], ()) = .ok (seen, ()) ∧
        calls.map (·.place) = seen.map (·.1) ∧
        seen.map (·.1.text) =
          ["/definitions/Cond", "/definitions/Cond/properties/~1else/items",
           "/definitions/Cond/properties/~1else/items/properties/~1added",
           "/definitions/Cond/additionalProperties"] := by
  have total : ∀ place shape count, ∃ next, (growing place shape count).2 = .ok next :=
    fun _ _ count => ⟨count + 1, rfl⟩
  have ends : Schema.nestedObjects.EndsVisit (noted growing) ([], 0)
      (Schema.nestedObjects.visitWithin (noted growing) 5 ([], 0)).1
      (Schema.nestedObjects.visitWithin (noted growing) 5 ([], 0)).2 := ⟨5, by decide, rfl⟩
  obtain ⟨calls, last, seen, ended, looked, places, _⟩ :=
    (Schema.nestedObjects.visit_calls growing total 0).1 _ _ ends
  have counted : (Schema.nestedObjects.visitWithin (noted growing) 5 ([], 0)).2.map Prod.snd =
      .ok 4 := rfl
  rw [ended] at ends counted
  obtain rfl : last = 4 := Except.ok.inj counted
  obtain rfl : Schema.objects _ = seen :=
    congrArg Prod.fst (Except.ok.inj ((Schema.lookThrough_idle _).symm.trans looked))
  exact ⟨total, _, calls, _, ends, looked, places, by decide +kernel⟩

end Noting

end SchemaBindings
