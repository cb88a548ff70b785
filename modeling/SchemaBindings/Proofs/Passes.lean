import Mathlib.Algebra.GroupWithZero.Nat
import SchemaBindings.Proofs.Succession

/-!
# Passes that rename

A pass changes the objects of a schema from the top, each before those below it, and
goes on with what it has put in their place. If the change of one object is a renaming
whenever the names of the object are acceptable, and an error otherwise, then the whole
pass is a renaming of the schema whenever all objects have acceptable names, and an
error otherwise. Two things make this more than the same statement about one object:
the objects below are visited under new keys, and the visit goes only to a certain
depth, which the height of the schema has to keep within.
-/
namespace SchemaBindings

/-- Steps one after the other succeed exactly if each of them does. -/
theorem bind_ok_iff {ε α β : Type} (first : Except ε α) (next : α → Except ε β) (result : β) :
    (first >>= next) = .ok result ↔ ∃ value, first = .ok value ∧ next value = .ok result := by
  cases first <;> simp [bind, Except.bind]

/-- What is left of an outcome without its error is its result. -/
theorem toOption_eq_some_iff {ε α : Type} (outcome : Except ε α) (result : α) :
    outcome.toOption = some result ↔ outcome = .ok result := by
  cases outcome <;> simp [Except.toOption]

/-- A walk over a list that stops at an error reaches the end exactly if no part has one. -/
theorem forM_ok_iff {α ε : Type} (check : α → Except ε Unit) (parts : List α) :
    parts.forM check = .ok () ↔ ∀ part ∈ parts, check part = .ok () := by
  induction parts with
  | nil => simp [pure, Except.pure]
  | cons part rest inductionHypothesis =>
    rw [List.forM, List.forall_mem_cons, ← inductionHypothesis]
    cases checked : check part with
    | error error => simp [bind, Except.bind]
    | ok => simp [bind, Except.bind]

/-- The change of one object gives its properties their new names and adds the weight of its names
to the count if the names are acceptable, and fails otherwise. -/
structure RenamesObjects (change : ObjectChange SchemaError Nat) (name : String → String)
    (acceptable : List String → Prop) (weight : List String → Nat) : Prop where
  succeeds : ∀ (pointer : Pointer) (shape : ObjectNode) (count : Nat), shape.names.Nodup →
    acceptable shape.names →
      change pointer shape count = (shape.renamed name, .ok (count + weight shape.names))
  fails : ∀ (pointer : Pointer) (shape : ObjectNode) (count : Nat), shape.names.Nodup →
    ¬ acceptable shape.names →
      ∃ (left : ObjectNode) (error : SchemaError), change pointer shape count = (left, .error error)

/-- All of some objects have acceptable names. -/
def AllAcceptable (acceptable : List String → Prop) (shapes : List ObjectNode) : Prop :=
  ∀ shape ∈ shapes, acceptable shape.names

/-- The weight of the names of some objects together. -/
def tally (weight : List String → Nat) (shapes : List ObjectNode) : Nat :=
  (shapes.map fun shape => weight shape.names).sum

/-- How the visit of a part of a schema ends that has certain objects: with the renamed part and
their weight added to the count if all of them are acceptable, and with an error otherwise. -/
def Renames {part : Type} (acceptable : List String → Prop) (weight : List String → Nat)
    (shapes : List ObjectNode) (count : Nat) (after : part)
    (visited : Visited SchemaError Nat part) : Prop :=
  (AllAcceptable acceptable shapes → visited = (after, .ok (count + tally weight shapes))) ∧
    (¬ AllAcceptable acceptable shapes →
      ∃ (left : part) (error : SchemaError), visited = (left, .error error))

/-- A change that renames some of the names of an object in turn, each to its target, renames
objects: the names are acceptable if the succession is admitted, and those that change are
counted. -/
theorem RenamesObjects.of_turns {change : ObjectChange SchemaError Nat} (chosen : String → Bool)
    (target : String → String) (refusal : Pointer → String → SchemaError)
    (turned : ∀ (pointer : Pointer) (shape : ObjectNode) (count : Nat),
      change pointer shape count =
        shape.renameNames target (refusal pointer) (shape.names.filter chosen) count) :
    RenamesObjects change (fun name => if chosen name then target name else name)
      (fun names => Admits target (names.filter chosen) names)
      (fun names => (names.filter chosen).countP fun name => target name ≠ name) := by
  constructor
  · intro pointer shape count distinct admitted
    have names : shape.renamed (within (shape.names.filter chosen) target) =
        shape.renamed fun name => if chosen name then target name else name :=
      ObjectShape.renamed_congr _ _ shape fun name => within_filter target chosen
    rw [turned, ObjectShape.renameNames_of_admits _ (distinct.filter _)
      (List.filter_subset_self _) admitted, names]
  · intro pointer shape count distinct refused
    obtain ⟨before, name, after, _, _, _, _, ended⟩ :=
      ObjectShape.renameNames_of_not_admits (refusal pointer) (distinct.filter _)
        (List.filter_subset_self _) refused count
    exact ⟨_, _, (turned pointer shape count).trans ended⟩

section Parts

variable {acceptable : List String → Prop} {weight : List String → Nat}
variable {part whole : Type} {first second : List ObjectNode} {count : Nat}

/-- All objects of two lists are acceptable if those of each are. -/
theorem allAcceptable_append :
    AllAcceptable acceptable (first ++ second) ↔
      AllAcceptable acceptable first ∧ AllAcceptable acceptable second := by
  simp only [AllAcceptable, List.mem_append, or_imp, forall_and]

/-- Weights are added up over both lists. -/
theorem tally_append :
    tally weight (first ++ second) = tally weight first + tally weight second := by
  simp [tally]

namespace Renames

/-- A part without objects is visited without a change. -/
theorem empty (unchanged : part) :
    Renames acceptable weight [] count unchanged (unchanged, .ok count) := by
  simp [Renames, AllAcceptable, tally]

/-- A part may be seen within a whole. -/
theorem within {after : part} {visited : Visited SchemaError Nat part} (embed : part → whole)
    (renames : Renames acceptable weight first count after visited) :
    Renames acceptable weight first count (embed after) (embed visited.1, visited.2) := by
  constructor
  · intro good
    rw [renames.1 good]
  · intro bad
    obtain ⟨left, error, ended⟩ := renames.2 bad
    exact ⟨embed left, error, by rw [ended]⟩

/-- After acceptable objects the visit goes on with their weight counted. -/
theorem goesOn {after : part} {visited : Visited SchemaError Nat part}
    (good : AllAcceptable acceptable first)
    (renames : Renames acceptable weight second (count + tally weight first) after visited) :
    Renames acceptable weight (first ++ second) count after visited := by
  constructor
  · intro all
    rw [renames.1 (allAcceptable_append.mp all).2, tally_append, Nat.add_assoc]
  · intro bad
    exact renames.2 fun rest => bad (allAcceptable_append.mpr ⟨good, rest⟩)

/-- After an object that is not acceptable the visit has ended. -/
theorem stops {after left : part} {error : SchemaError} (bad : ¬ AllAcceptable acceptable first) :
    Renames acceptable weight (first ++ second) count after (left, .error error) :=
  ⟨fun all => absurd (allAcceptable_append.mp all).1 bad, fun _ => ⟨left, error, rfl⟩⟩

/-- A visit that has not failed has met acceptable objects only, and leaves the renamed part. -/
theorem of_ok {after left : part} {total : Nat}
    (renames : Renames acceptable weight first count after (left, .ok total)) :
    AllAcceptable acceptable first ∧ left = after := by
  by_cases good : AllAcceptable acceptable first
  · exact ⟨good, congrArg Prod.fst (renames.1 good)⟩
  · obtain ⟨_, _, failed⟩ := renames.2 good
    have outcome := congrArg Prod.snd failed
    contradiction

end Renames

end Parts

section Visits

variable {change : ObjectChange SchemaError Nat} {name : String → String}
variable {acceptable : List String → Prop} {weight : List String → Nat}

/-- A visit of trees renames a tree, at any place and with any count so far. -/
def RenamesTree (acceptable : List String → Prop) (weight : List String → Nat)
    (name : String → String) (visit : NodeChange SchemaError Nat) (node : Node) : Prop :=
  ∀ (pointer : Pointer) (count : Nat),
    Renames acceptable weight node.shapes count (node.renamed name) (visit pointer node count)

/-- A visit that renames the trees of a table renames the table. -/
theorem visitTable_renames (visit : NodeChange SchemaError Nat) (table : Table Node)
    (each : ∀ entry ∈ table, RenamesTree acceptable weight name visit entry.2)
    (pointer : Pointer) (count : Nat) :
    Renames acceptable weight (table.flatMap fun entry => entry.2.shapes) count
      (Node.tableRenamed name table) (visitTable visit pointer table count) := by
  induction table generalizing count with
  | nil => exact Renames.empty []
  | cons entry rest inductionHypothesis =>
    obtain ⟨key, node⟩ := entry
    have top := each (key, node) List.mem_cons_self (pointer.child key) count
    have below := inductionHypothesis
      (fun other member => each other (List.mem_cons_of_mem (key, node) member))
    rw [List.flatMap_cons, Node.tableRenamed, visitTable]
    by_cases good : AllAcceptable acceptable node.shapes
    · rw [top.1 good]
      exact Renames.goesOn good ((below (count + tally weight node.shapes)).within
        fun rest => (key, node.renamed name) :: rest)
    · obtain ⟨left, error, ended⟩ := top.2 good
      rw [ended]
      exact Renames.stops good

/-- A visit that renames the trees of a list renames the list. -/
theorem visitList_renames (visit : NodeChange SchemaError Nat) (nodes : List Node)
    (each : ∀ node ∈ nodes, RenamesTree acceptable weight name visit node)
    (pointer : Pointer) (index count : Nat) :
    Renames acceptable weight (nodes.flatMap Node.shapes) count
      (Node.listRenamed name nodes) (visitList visit pointer index nodes count) := by
  induction nodes generalizing index count with
  | nil => exact Renames.empty []
  | cons node rest inductionHypothesis =>
    have top := each node List.mem_cons_self (pointer.item index) count
    have below := inductionHypothesis
      (fun other member => each other (List.mem_cons_of_mem node member))
    rw [List.flatMap_cons, Node.listRenamed, visitList]
    by_cases good : AllAcceptable acceptable node.shapes
    · rw [top.1 good]
      exact Renames.goesOn good ((below (index + 1) (count + tally weight node.shapes)).within
        fun rest => node.renamed name :: rest)
    · obtain ⟨left, error, ended⟩ := top.2 good
      rw [ended]
      exact Renames.stops good

/-- A visit that renames the trees below an object leaves the object over the renamed trees. -/
theorem visitBelow_renames (visit : NodeChange SchemaError Nat) (shape : ObjectNode)
    (each : ∀ node ∈ shape.nodes, RenamesTree acceptable weight name visit node)
    (pointer : Pointer) (count : Nat) :
    Renames acceptable weight (shape.nodes.flatMap Node.shapes) count
      (shape.map (Node.renamed name)) (visitBelow visit pointer shape count) := by
  obtain ⟨properties, declared, required, additional, extra⟩ := shape
  have listed := visitTable_renames visit properties
    (fun entry member => each entry.2 (List.mem_append_left _ (List.mem_map_of_mem member)))
    (pointer.child "properties") count
  rw [ObjectShape.nodes, List.flatMap_append, List.flatMap_map, visitBelow]
  by_cases good : AllAcceptable acceptable (properties.flatMap fun entry => entry.2.shapes)
  · rw [listed.1 good]
    refine Renames.goesOn good ?_
    have whole (part : Additional Node) :
        (ObjectShape.map (Node.renamed name) ⟨properties, declared, required, part, extra⟩) =
          ⟨Node.tableRenamed name properties, declared, required, part.map (Node.renamed name),
            extra⟩ := by
      rw [Node.tableRenamed_eq]
      rfl
    cases additional with
    | schema node =>
      have other := each node (List.mem_append_right _ List.mem_cons_self)
        (pointer.child "additionalProperties")
        (count + tally weight (properties.flatMap fun entry => entry.2.shapes))
      rw [Additional.nodes, List.flatMap_singleton, whole]
      exact other.within fun node => ObjectShape.mk
        (Node.tableRenamed name properties) declared required (.schema node) extra
    | absent =>
      rw [whole]
      exact Renames.empty _
    | allowed value =>
      rw [whole]
      exact Renames.empty _
  · obtain ⟨left, error, ended⟩ := listed.2 good
    rw [ended]
    exact Renames.stops good

/-- A visit that reaches down to the height of a tree renames it, if the change renames objects.

The induction is on the number of layers that are visited. The change of the top leaves the trees
below it as they are, under new keys, and each of them is lower than the whole. -/
theorem visitWithin_renames (renames : RenamesObjects change name acceptable weight)
    (layers : Nat) (node : Node) (reached : node.height ≤ layers) (distinct : node.Distinct) :
    RenamesTree acceptable weight name (Node.visitWithin change layers) node := by
  induction layers generalizing node with
  | zero =>
    have positive : 0 < node.height := node.height_pos
    omega
  | succ layers inductionHypothesis =>
    have each : ∀ child ∈ node.children,
        RenamesTree acceptable weight name (Node.visitWithin change layers) child := by
      intro child member
      have lower := node.height_lt_of_mem_children child member
      exact inductionHypothesis child (by omega) fun shape listed =>
        distinct shape (node.shapes_subset_of_mem_children child member listed)
    intro pointer count
    rw [Node.shapes_eq, Node.renamed_eq]
    cases node with
    | object shape =>
      have own : shape.names.Nodup := distinct shape (Node.own_subset_shapes _ List.mem_cons_self)
      rw [Node.visitWithin]
      by_cases good : acceptable shape.names
      · rw [renames.succeeds pointer shape count own good]
        refine Renames.goesOn (by simpa [AllAcceptable, Node.own] using good) ?_
        have below := visitBelow_renames (Node.visitWithin change layers) (shape.renamed name)
          (by rwa [ObjectShape.nodes_renamed]) pointer (count + weight shape.names)
        rw [ObjectShape.nodes_renamed, ← ObjectShape.renamed_map] at below
        simpa [tally, Node.own, Node.children, Node.rebuilt] using below.within Node.object
      · obtain ⟨left, error, ended⟩ := renames.fails pointer shape count own good
        rw [ended]
        exact Renames.stops (by simpa [AllAcceptable, Node.own] using good)
    | array items extra =>
      cases items with
      | absent => exact Renames.empty _
      | single item =>
        have held := each item List.mem_cons_self (pointer.child "items") count
        simpa [Node.visitWithin, Node.own, Node.children, Items.nodes, Node.rebuilt, Items.map]
          using held.within fun item => Node.array (.single item) extra
      | tuple items =>
        have held := visitList_renames _ items each (pointer.child "items") 0 count
        rw [Node.listRenamed_eq] at held
        exact held.within fun items => Node.array (.tuple items) extra
    | composition kind branches extra =>
      have held := visitList_renames _ branches each (pointer.child kind.keyword) 0 count
      rw [Node.listRenamed_eq] at held
      exact held.within fun branches => Node.composition kind branches extra
    | reference target extra => exact Renames.empty _
    | scalar extra => exact Renames.empty _
    | bool value => exact Renames.empty _

/-- A pass whose change renames objects renames a schema with distinct keys, if all its objects are
acceptable, and fails otherwise. -/
theorem Schema.visit_renames (renames : RenamesObjects change name acceptable weight)
    (schema : Schema) (distinct : schema.Distinct) (count : Nat) :
    Renames acceptable weight schema.shapes count (schema.renamed name)
      (schema.visit change count) := by
  have top := visitWithin_renames renames schema.height schema.root (Nat.le_max_left _ _)
    distinct.root .root count
  have below (count : Nat) := visitTable_renames (Node.visitWithin change schema.height)
    schema.definitions
    (fun entry member => visitWithin_renames renames schema.height entry.2
      (Nat.le_trans (Node.height_le_tableHeight _ entry member) (Nat.le_max_right _ _))
      (distinct.definition entry member))
    (Pointer.root.child schema.definitionsKey.text) count
  rw [shapes_eq, visit, visitWithin]
  by_cases good : AllAcceptable acceptable schema.root.shapes
  · rw [top.1 good]
    exact Renames.goesOn good ((below (count + tally weight schema.root.shapes)).within
      fun definitions => { schema with root := schema.root.renamed name, definitions })
  · obtain ⟨left, error, ended⟩ := top.2 good
    rw [ended]
    exact Renames.stops good

end Visits

end SchemaBindings
