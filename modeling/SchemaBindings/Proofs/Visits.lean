import SchemaBindings.Proofs.Trees
import Std.Data.String.ToNat

/-!
# Which objects are visited at a place

A visit lists each object with the pointer to the place where it stands. The pointers
of what is visited below a node lead on from its own by one of the keywords that hold
schemas, so what stands below one child of a node is never visited at a place below
another one. The visits at a place below a child are therefore those that the child by
itself has there, and an object is visited once at its own place.
-/
namespace SchemaBindings

namespace Pointer

/-- Whether a target is reached from a place by further steps, or by none. -/
structure LeadsTo (place target : Pointer) : Prop where
  origin : place.origin = target.origin
  tokens : place.tokens <+: target.tokens

/-- A place leads to itself. -/
theorem leadsTo_refl (place : Pointer) : place.LeadsTo place :=
  ⟨rfl, List.prefix_rfl⟩

/-- A place leads to those one step further. -/
theorem leadsTo_child (place : Pointer) (token : String) : place.LeadsTo (place.child token) :=
  ⟨rfl, List.prefix_append _ _⟩

namespace LeadsTo

variable {place between target : Pointer} {token other : String}

/-- Where a place leads on, the place before it leads too. -/
theorem trans (first : place.LeadsTo between) (second : between.LeadsTo target) :
    place.LeadsTo target :=
  ⟨first.origin.trans second.origin, first.tokens.trans second.tokens⟩

/-- What is reached by a step and more is reached. -/
theorem of_child (leads : (place.child token).LeadsTo target) : place.LeadsTo target :=
  (place.leadsTo_child token).trans leads

/-- The first step to a target is determined by it. -/
theorem child_inj (left : (place.child token).LeadsTo target)
    (right : (place.child other).LeadsTo target) : token = other := by
  have shorter : place.tokens ++ [token] <+: place.tokens ++ [other] :=
    List.prefix_of_prefix_length_le left.tokens right.tokens (by simp)
  have same := shorter.eq_of_length (by simp)
  exact List.singleton_inj.mp (List.append_cancel_left same)

/-- A step never leads back. -/
theorem not_child_self : ¬ (place.child token).LeadsTo place := by
  intro leads
  have longer := leads.tokens.length_le
  rw [child, List.length_append] at longer
  exact absurd longer (by simp)

/-- The index of the first step to a target is determined by it. -/
theorem item_inj {left right : Nat} (first : (place.item left).LeadsTo target)
    (second : (place.item right).LeadsTo target) : left = right :=
  Nat.repr_inj.mp (first.child_inj second)

end LeadsTo

end Pointer

open Pointer

/-- The objects that a visit lists at a place. -/
def visitsAt (target : Pointer) (objects : List PlacedObject) : List ObjectNode :=
  (objects.filter fun placed => placed.1 = target).map (·.2)

section Lists

variable {target : Pointer} {first second objects : List PlacedObject}

/-- Visits of a place are counted in both halves of a list. -/
theorem visitsAt_append :
    visitsAt target (first ++ second) = visitsAt target first ++ visitsAt target second := by
  simp [visitsAt]

/-- Nothing is visited at a place where none of the objects stands. -/
theorem visitsAt_eq_nil (away : ∀ placed ∈ objects, placed.1 ≠ target) :
    visitsAt target objects = [] := by
  simpa [visitsAt] using away

variable {place : Pointer} {token other : String}

/-- Nothing is visited at a place below one key among what stands below another one. -/
theorem visitsAt_other (reached : ∀ placed ∈ objects, (place.child other).LeadsTo placed.1)
    (leads : (place.child token).LeadsTo target) (different : token ≠ other) :
    visitsAt target objects = [] :=
  visitsAt_eq_nil fun placed listed same =>
    different (leads.child_inj (same ▸ reached placed listed))

/-- An object is not visited at a place below it. -/
theorem visitsAt_above (shape : ObjectNode) (leads : (place.child token).LeadsTo target) :
    visitsAt target [(place, shape)] = [] := by
  refine visitsAt_eq_nil fun placed listed same => ?_
  obtain rfl := List.mem_singleton.mp listed
  subst same
  exact LeadsTo.not_child_self leads

end Lists

namespace Node

/-- The keywords that lead from a node to those below it. -/
def childKeywords : List String :=
  ["properties", "additionalProperties", "items", "anyOf", "oneOf", "allOf"]

/-- The keyword of a composition is one of those below which schemas stand. -/
theorem keyword_mem_childKeywords (kind : CompositionKind) : kind.keyword ∈ childKeywords := by
  cases kind <;> decide

/-- The objects that stand in a schema of additional properties. -/
def additionalObjects (place : Pointer) : Additional Node → List PlacedObject
  | .schema node => node.objects (place.child "additionalProperties")
  | _ => []

/-- An object is visited before its properties, and these before the schema of additional
properties. -/
theorem objects_object (place : Pointer) (shape : ObjectNode) :
    (Node.object shape).objects place = (place, shape) ::
      (tableObjects (place.child "properties") shape.properties
        ++ additionalObjects place shape.additional) := by
  obtain ⟨properties, declared, required, additional, extra⟩ := shape
  cases additional <;> simp [objects, additionalObjects]

section Leading

variable {place : Pointer}

/-- The objects of a table stand below its keys, if those of its trees stand below them. -/
theorem tableObjects_leads {table : Table Node}
    (below : ∀ entry ∈ table, ∀ place, ∀ placed ∈ entry.2.objects place, place.LeadsTo placed.1) :
    ∀ placed ∈ tableObjects place table, ∃ entry ∈ table,
      (place.child entry.1).LeadsTo placed.1 := by
  induction table with
  | nil => simp [tableObjects]
  | cons entry rest inductionHypothesis =>
    intro placed listed
    rw [tableObjects] at listed
    rcases List.mem_append.mp listed with listed | listed
    · exact ⟨entry, List.mem_cons_self, below entry List.mem_cons_self _ placed listed⟩
    · obtain ⟨other, member, leads⟩ := inductionHypothesis
        (fun entry member => below entry (List.mem_cons_of_mem _ member)) placed listed
      exact ⟨other, List.mem_cons_of_mem _ member, leads⟩

/-- The objects of a list stand below its indices, if those of its trees stand below them. -/
theorem listObjects_leads {nodes : List Node} {start : Nat}
    (below : ∀ node ∈ nodes, ∀ place, ∀ placed ∈ node.objects place, place.LeadsTo placed.1) :
    ∀ placed ∈ listObjects place start nodes, ∃ index, start ≤ index ∧
      (place.item index).LeadsTo placed.1 := by
  induction nodes generalizing start with
  | nil => simp [listObjects]
  | cons node rest inductionHypothesis =>
    intro placed listed
    rw [listObjects] at listed
    rcases List.mem_append.mp listed with listed | listed
    · exact ⟨start, Nat.le_refl start, below node List.mem_cons_self _ placed listed⟩
    · obtain ⟨index, later, leads⟩ := inductionHypothesis
        (fun node member => below node (List.mem_cons_of_mem _ member)) placed listed
      exact ⟨index, Nat.le_of_succ_le later, leads⟩

/-- The objects of a tree are that of its top, which stands at its place, and others which stand
below one of its keywords, if the objects of the trees below it stand below those. -/
theorem objects_leads_step {node : Node}
    (below : ∀ child ∈ node.children, ∀ place, ∀ placed ∈ child.objects place,
      place.LeadsTo placed.1) :
    ∀ placed ∈ node.objects place, placed.1 = place ∨
      ∃ keyword ∈ childKeywords, (place.child keyword).LeadsTo placed.1 := by
  intro placed listed
  have listLeads {keyword : String} {nodes : List Node} (one : keyword ∈ childKeywords)
      (inside : nodes ⊆ node.children)
      (listed : placed ∈ listObjects (place.child keyword) 0 nodes) :
      ∃ keyword ∈ childKeywords, (place.child keyword).LeadsTo placed.1 := by
    obtain ⟨_, _, leads⟩ := listObjects_leads
      (fun node member => below node (inside member)) placed listed
    exact ⟨keyword, one, leads.of_child⟩
  cases node with
  | object shape =>
    rw [objects_object] at listed
    rcases List.mem_cons.mp listed with rfl | listed
    · exact .inl rfl
    · rcases List.mem_append.mp listed with listed | listed
      · obtain ⟨_, _, leads⟩ := tableObjects_leads (fun entry member => below entry.2
          (List.mem_append_left _ (List.mem_map_of_mem member))) placed listed
        exact .inr ⟨"properties", by decide, leads.of_child⟩
      · cases held : shape.additional with
        | schema node =>
          rw [held] at listed
          have inside : node ∈ shape.additional.nodes := by simp [held, Additional.nodes]
          exact .inr ⟨"additionalProperties", by decide,
            below node (List.mem_append_right _ inside) _ placed listed⟩
        | absent => simp [held, additionalObjects] at listed
        | allowed value => simp [held, additionalObjects] at listed
  | array items extra =>
    cases items with
    | absent => contradiction
    | single item => exact .inr ⟨"items", by decide, below item List.mem_cons_self _ placed listed⟩
    | tuple items => exact .inr (listLeads (by decide) (List.Subset.refl items) listed)
  | composition kind branches extra =>
    exact .inr (listLeads (keyword_mem_childKeywords kind) (List.Subset.refl branches) listed)
  | reference target extra => contradiction
  | scalar extra => contradiction
  | bool value => contradiction

/-- The objects of a tree stand at its place or below it. -/
theorem objects_leads (node : Node) (place : Pointer) :
    ∀ placed ∈ node.objects place, place.LeadsTo placed.1 := by
  induction node using child_induction generalizing place with
  | step node inductionHypothesis =>
    intro placed listed
    rcases objects_leads_step inductionHypothesis placed listed with same | ⟨_, _, leads⟩
    · exact same ▸ leadsTo_refl place
    · exact leads.of_child

end Leading

/-- The objects in a schema of additional properties stand there or below. -/
theorem additionalObjects_leads (place : Pointer) (additional : Additional Node) :
    ∀ placed ∈ additionalObjects place additional,
      (place.child "additionalProperties").LeadsTo placed.1 := by
  cases additional with
  | schema node => exact node.objects_leads _
  | absent => simp [additionalObjects]
  | allowed value => simp [additionalObjects]

/-- The objects of a table stand below it. -/
theorem tableObjects_below (place : Pointer) (table : Table Node) :
    ∀ placed ∈ tableObjects place table, place.LeadsTo placed.1 := by
  intro placed listed
  obtain ⟨_, _, leads⟩ := tableObjects_leads (fun entry _ => entry.2.objects_leads) placed listed
  exact leads.of_child

section Visits

variable {place target : Pointer}

/-- Among the objects of a table, those below a key are those of the tree under that key. -/
theorem visitsAt_tableObjects {table : Table Node} (once : (Table.keys table).Nodup)
    {name : String} {node : Node} (member : (name, node) ∈ table)
    (leads : (place.child name).LeadsTo target) :
    visitsAt target (tableObjects place table) =
      visitsAt target (node.objects (place.child name)) := by
  induction table with
  | nil => contradiction
  | cons entry rest inductionHypothesis =>
    obtain ⟨absent, others⟩ := List.nodup_cons.mp once
    rw [tableObjects, visitsAt_append]
    rcases List.mem_cons.mp member with rfl | later
    · have away : visitsAt target (tableObjects place rest) = [] := by
        refine visitsAt_eq_nil fun placed listed same => ?_
        obtain ⟨other, present, reached⟩ :=
          tableObjects_leads (fun entry _ => entry.2.objects_leads) placed listed
        obtain rfl := leads.child_inj (same ▸ reached)
        exact absent (List.mem_map.mpr ⟨other, present, rfl⟩)
      rw [away, List.append_nil]
    · have away : visitsAt target (entry.2.objects (place.child entry.1)) = [] := by
        refine visitsAt_eq_nil fun placed listed same => ?_
        obtain rfl := leads.child_inj (same ▸ entry.2.objects_leads _ placed listed)
        exact absent (List.mem_map.mpr ⟨(entry.1, node), later, rfl⟩)
      rw [away, List.nil_append, inductionHypothesis others later]

/-- Among the objects of a list, those below an index are those of the tree at that index. -/
theorem visitsAt_listObjects {nodes : List Node} {start index : Nat} {node : Node}
    (found : nodes[index]? = some node) (leads : (place.item (start + index)).LeadsTo target) :
    visitsAt target (listObjects place start nodes) =
      visitsAt target (node.objects (place.item (start + index))) := by
  induction nodes generalizing start index with
  | nil => simp at found
  | cons first rest inductionHypothesis =>
    rw [listObjects, visitsAt_append]
    cases index with
    | zero =>
      obtain rfl := Option.some.inj found
      have away : visitsAt target (listObjects place (start + 1) rest) = [] := by
        refine visitsAt_eq_nil fun placed listed same => ?_
        obtain ⟨other, later, reached⟩ :=
          listObjects_leads (fun node _ => node.objects_leads) placed listed
        have met := leads.item_inj (same ▸ reached)
        omega
      rw [away, List.append_nil, Nat.add_zero]
    | succ index =>
      have away : visitsAt target (first.objects (place.item start)) = [] := by
        refine visitsAt_eq_nil fun placed listed same => ?_
        have met := leads.item_inj (same ▸ first.objects_leads _ placed listed)
        omega
      have shifted : start + (index + 1) = start + 1 + index := by omega
      rw [shifted] at leads ⊢
      rw [away, List.nil_append, inductionHypothesis found leads]

/-- A node that stands directly below another one, and its place. -/
inductive Below (place : Pointer) : Node → Pointer → Node → Prop
  | property {shape : ObjectNode} {name : String} {child : Node}
    (member : (name, child) ∈ shape.properties) :
    Below place (.object shape) ((place.child "properties").child name) child
  | additional {shape : ObjectNode} {child : Node} (held : shape.additional = .schema child) :
    Below place (.object shape) (place.child "additionalProperties") child
  | single {item : Node} {extra : Fields} :
    Below place (.array (.single item) extra) (place.child "items") item
  | tuple {items : List Node} {extra : Fields} {index : Nat} {child : Node}
    (found : items[index]? = some child) :
    Below place (.array (.tuple items) extra) ((place.child "items").item index) child
  | branch {kind : CompositionKind} {branches : List Node} {extra : Fields} {index : Nat}
    {child : Node} (found : branches[index]? = some child) :
    Below place (.composition kind branches extra) ((place.child kind.keyword).item index) child

/-- A node below another one is one of its children. -/
theorem Below.mem_children {node child : Node} {spot : Pointer} (below : Below place node spot child) :
    child ∈ node.children := by
  cases below with
  | property member => exact List.mem_append_left _ (List.mem_map_of_mem member)
  | additional held =>
    refine List.mem_append_right _ ?_
    simp [held, Additional.nodes]
  | single => exact List.mem_cons_self
  | tuple found => exact List.mem_of_getElem? found
  | branch found => exact List.mem_of_getElem? found

/-- What is visited at a place below a child of a node is what is visited there of the child. -/
theorem Below.visitsAt_eq {node child : Node} {spot : Pointer} (below : Below place node spot child)
    (distinct : node.Distinct) (leads : spot.LeadsTo target) :
    visitsAt target (node.objects place) = visitsAt target (child.objects spot) := by
  cases below with
  | @property shape name child member =>
    have once : (Table.keys shape.properties).Nodup :=
      distinct shape (own_subset_shapes _ List.mem_cons_self)
    have inner := leads.of_child
    rw [objects_object, ← List.singleton_append, visitsAt_append, visitsAt_append,
      visitsAt_above shape inner, visitsAt_tableObjects once member leads,
      visitsAt_other (additionalObjects_leads place _) inner (by decide), List.nil_append,
      List.append_nil]
  | @additional shape child held =>
    rw [objects_object, ← List.singleton_append, visitsAt_append, visitsAt_append,
      visitsAt_above shape leads, visitsAt_other (tableObjects_below _ _) leads (by decide), held,
      additionalObjects, List.nil_append, List.nil_append]
  | single => rfl
  | @tuple items extra index child found =>
    rw [← Nat.zero_add index] at leads ⊢
    exact visitsAt_listObjects found leads
  | @branch kind branches extra index child found =>
    rw [← Nat.zero_add index] at leads ⊢
    exact visitsAt_listObjects found leads

/-- An object is visited once at its own place. -/
theorem visitsAt_own (shape : ObjectNode) (place : Pointer) :
    visitsAt place ((Node.object shape).objects place) = [shape] := by
  have others : ∀ placed ∈ tableObjects (place.child "properties") shape.properties
      ++ additionalObjects place shape.additional, placed.1 ≠ place := by
    rintro placed listed rfl
    rcases List.mem_append.mp listed with listed | listed
    · exact LeadsTo.not_child_self (tableObjects_below _ _ placed listed)
    · exact LeadsTo.not_child_self (additionalObjects_leads _ _ placed listed)
  rw [objects_object, ← List.singleton_append, visitsAt_append, visitsAt_eq_nil others]
  simp [visitsAt]

end Visits

end Node

end SchemaBindings
