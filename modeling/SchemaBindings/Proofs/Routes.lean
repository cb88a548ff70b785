import SchemaBindings.Proofs.Forests
import SchemaBindings.Proofs.PointerTexts

/-!
# The way to every visited object

A visit lists the objects of a schema with the places where they stand. Each of them is
the end of exactly one way through the schema, its place is the pointer that writes this
way, and every way that ends at an object is there. Different ways are written as
different pointers, because the steps from one node never go on to the same place. An
object comes before those below it, and the tree of the top level before the
definitions. The pointer of an object leads, in the document that is written from the
schema, to what is written for the object.
-/
namespace SchemaBindings

open Pointer

namespace Node

section Steps

variable {node child : Node} {descent : Descent}

/-- A step finds the node to which it leads. -/
theorem Leads.below? (leads : Leads node descent child) : node.below? descent = some child := by
  cases leads with
  | property found => exact found
  | @additional shape child held =>
    obtain ⟨properties, declared, required, additional, extra⟩ := shape
    obtain rfl : additional = .schema child := held
    rfl
  | single => rfl
  | item found => exact found
  | branch found => simp [Node.below?, found]

/-- With distinct keys, the steps of a node are those that lead from it. -/
theorem mem_steps_iff (distinct : node.Distinct) :
    (descent, child) ∈ node.steps ↔ Leads node descent child := by
  constructor
  · intro member
    cases node with
    | object shape =>
      have once := (distinct_iff _).mp distinct |>.1 shape List.mem_cons_self
      rcases List.mem_append.mp member with member | member
      · obtain ⟨entry, listed, same⟩ := List.mem_map.mp member
        obtain ⟨rfl, rfl⟩ := Prod.mk.inj same
        exact .property ((Table.lookup_eq_some_iff_mem once _ _).mpr listed)
      · obtain ⟨below, held, same⟩ := List.mem_map.mp member
        obtain ⟨rfl, rfl⟩ := Prod.mk.inj same
        cases additional : shape.additional with
        | schema node =>
          rw [additional] at held
          obtain rfl := List.mem_singleton.mp held
          exact .additional additional
        | absent => simp [additional, Additional.nodes] at held
        | allowed value => simp [additional, Additional.nodes] at held
    | array items extra =>
      cases items with
      | absent => contradiction
      | single item =>
        obtain ⟨rfl, rfl⟩ := Prod.mk.inj (List.mem_singleton.mp member)
        exact .single
      | tuple items =>
        obtain ⟨⟨item, index⟩, listed, same⟩ := List.mem_map.mp member
        obtain ⟨rfl, rfl⟩ := Prod.mk.inj same
        exact .item (List.mem_zipIdx_iff_getElem?.mp listed)
    | composition kind branches extra =>
      obtain ⟨⟨branch, index⟩, listed, same⟩ := List.mem_map.mp member
      obtain ⟨rfl, rfl⟩ := Prod.mk.inj same
      exact .branch (List.mem_zipIdx_iff_getElem?.mp listed)
    | reference target extra => contradiction
    | scalar extra => contradiction
    | bool value => contradiction
  · intro leads
    cases leads with
    | property found =>
      exact List.mem_append_left _ (List.mem_map.mpr ⟨_, Table.mem_of_lookup found, rfl⟩)
    | additional held =>
      exact List.mem_append_right _ (by simp [held, Additional.nodes])
    | single => exact List.mem_cons_self
    | item found =>
      exact List.mem_map.mpr ⟨(child, _), List.mem_zipIdx_iff_getElem?.mpr found, rfl⟩
    | branch found =>
      exact List.mem_map.mpr ⟨(child, _), List.mem_zipIdx_iff_getElem?.mpr found, rfl⟩

/-- Steps from one node that go on to the same place are the same. -/
theorem Leads.eq_of_reached {other : Node} {second : Descent} {place target : Pointer}
    (leads : Leads node descent child) (again : Leads node second other)
    (reached : (place.follow descent.tokens).LeadsTo target)
    (met : (place.follow second.tokens).LeadsTo target) : descent = second := by
  cases leads with
  | property found =>
    cases again with
    | property present => exact congrArg Descent.property (reached.child_inj met)
    | additional held => exact absurd (reached.of_child.child_inj met) (by decide)
  | additional held =>
    cases again with
    | property present => exact absurd (met.of_child.child_inj reached) (by decide)
    | additional present => rfl
  | single =>
    cases again
    rfl
  | item found =>
    cases again with
    | item present => exact congrArg Descent.item (reached.item_inj met)
  | branch found =>
    cases again with
    | branch present => exact congrArg (Descent.branch _) (reached.item_inj met)

/-- What the indices of a list are made into differs, if different indices become different. -/
theorem nodup_map_zipIdx {α κ : Type} {key : Nat → κ} (injective : Function.Injective key)
    (values : List α) : (values.zipIdx.map fun entry => key entry.2).Nodup := by
  have indices : values.zipIdx.map (fun entry => key entry.2) =
      (List.range' 0 values.length).map key := by
    rw [← List.zipIdx_map_snd 0 values, List.map_map]
    rfl
  rw [indices]
  exact (List.nodup_range' 1).map injective

/-- The steps of a node differ from one another. -/
theorem nodup_steps (distinct : node.Distinct) : (node.steps.map (·.1)).Nodup := by
  cases node with
  | object shape =>
    have once := (distinct_iff _).mp distinct |>.1 shape List.mem_cons_self
    rw [steps, List.map_append, List.map_map, List.map_map, List.nodup_append]
    refine ⟨?_, ?_, ?_⟩
    · have named : ((fun step : Descent × Node => step.1) ∘ fun entry : String × Node =>
          (Descent.property entry.1, entry.2)) = Descent.property ∘ (·.1) := rfl
      rw [named, ← List.map_map]
      exact once.map fun _ _ same => Descent.property.inj same
    · cases shape.additional <;> simp [Additional.nodes]
    · intro first listed second other
      obtain ⟨_, _, rfl⟩ := List.mem_map.mp listed
      obtain ⟨_, _, rfl⟩ := List.mem_map.mp other
      exact Descent.noConfusion
  | array items extra =>
    cases items with
    | absent => exact List.nodup_nil
    | single item => exact List.nodup_singleton _
    | tuple items =>
      rw [steps, List.map_map]
      exact nodup_map_zipIdx (fun _ _ same => Descent.item.inj same) items
  | composition kind branches extra =>
    rw [steps, List.map_map]
    exact nodup_map_zipIdx (fun _ _ same => (Descent.branch.inj same).2) branches
  | reference target extra => exact List.nodup_nil
  | scalar extra => exact List.nodup_nil
  | bool value => exact List.nodup_nil

end Steps

section Visits

variable {node : Node} {place : Pointer}

/-- What is visited below a node is visited at a step from it. -/
theorem mem_forestObjects_placed {placed : PlacedObject} :
    placed ∈ forestObjects (node.placed place) ↔
      ∃ step ∈ node.steps, placed ∈ step.2.objects (place.follow step.1.tokens) := by
  rw [forestObjects, List.mem_flatMap, Node.placed]
  constructor
  · rintro ⟨tree, member, listed⟩
    obtain ⟨step, present, rfl⟩ := List.mem_map.mp member
    exact ⟨step, present, listed⟩
  · rintro ⟨step, present, listed⟩
    exact ⟨_, List.mem_map_of_mem present, listed⟩

/-- The objects of a tree are those at the ends of the ways through it, at the places that the ways
write. -/
theorem mem_objects_iff (distinct : node.Distinct) {placed : PlacedObject} :
    placed ∈ node.objects place ↔ ∃ descents, node.at? descents = some (.object placed.2) ∧
      placed.1 = place.follow (descents.flatMap Descent.tokens) := by
  constructor
  · intro listed
    induction node using child_induction generalizing place with
    | step node inductionHypothesis =>
      rw [objects_eq] at listed
      rcases List.mem_append.mp listed with top | below
      · obtain ⟨shape, own, rfl⟩ := List.mem_map.mp top
        cases node with
        | object present =>
          obtain rfl := List.mem_singleton.mp own
          exact ⟨[], rfl, rfl⟩
        | _ => contradiction
      · obtain ⟨⟨descent, child⟩, member, listed⟩ := mem_forestObjects_placed.mp below
        have inside := mem_children_of_mem_steps member
        obtain ⟨descents, found, written⟩ := inductionHypothesis child inside
          ((distinct_iff _).mp distinct |>.2 child inside) listed
        refine ⟨descent :: descents, ?_, ?_⟩
        · rw [at?_cons, ((mem_steps_iff distinct).mp member).below?, Option.bind_some, found]
        · rw [List.flatMap_cons, follow_append, written]
  · rintro ⟨descents, found, written⟩
    induction descents generalizing node place with
    | nil =>
      obtain rfl := Option.some.inj found
      obtain ⟨spot, shape⟩ := placed
      obtain rfl : spot = place := written
      rw [objects_eq]
      exact List.mem_cons_self
    | cons descent descents inductionHypothesis =>
      obtain ⟨child, first, rest⟩ := Option.bind_eq_some_iff.mp found
      have member := (mem_steps_iff distinct).mpr (leads_of_below? first)
      have inside := mem_children_of_mem_steps member
      rw [List.flatMap_cons, follow_append] at written
      have listed := inductionHypothesis ((distinct_iff _).mp distinct |>.2 child inside) rest
        written
      rw [objects_eq]
      exact List.mem_append_right _ (mem_forestObjects_placed.mpr ⟨_, member, listed⟩)

/-- What is visited below a step stands below a keyword of the node. -/
theorem keyword_leads {descent : Descent} {child : Node} {placed : PlacedObject}
    (listed : placed ∈ child.objects (place.follow descent.tokens)) :
    ∃ keyword ∈ childKeywords, (place.child keyword).LeadsTo placed.1 := by
  obtain ⟨keyword, one, others, written⟩ := descent.tokens_eq
  have leads := child.objects_leads _ placed listed
  rw [written, ← List.singleton_append, follow_append] at leads
  exact ⟨keyword, one, (leadsTo_follow _ others).trans leads⟩

/-- No object of a tree is visited after one that stands below it, and none is visited twice. -/
theorem objects_pairwise (distinct : node.Distinct) (place : Pointer) :
    (node.objects place).Pairwise fun earlier later => ¬ later.1.LeadsTo earlier.1 := by
  induction node using child_induction generalizing place with
  | step node inductionHypothesis =>
    rw [objects_eq, List.pairwise_append]
    refine ⟨?_, ?_, ?_⟩
    · cases node with
      | object shape => exact List.pairwise_singleton _ _
      | _ => exact List.Pairwise.nil
    · rw [forestObjects, List.pairwise_flatMap]
      constructor
      · intro tree member
        obtain ⟨step, present, rfl⟩ := List.mem_map.mp member
        have inside := mem_children_of_mem_steps present
        exact inductionHypothesis _ inside ((distinct_iff _).mp distinct |>.2 _ inside) _
      · have apart : node.steps.Pairwise fun first second => first.1 ≠ second.1 :=
          List.pairwise_map.mp (nodup_steps distinct)
        rw [Node.placed, List.pairwise_map]
        refine apart.imp_of_mem ?_
        intro first second firstMember secondMember different earlier listed later after leads
        -- The later object is reached by the second step, and goes on to the earlier one.
        have met := (second.2.objects_leads _ later after).trans leads
        exact different (((mem_steps_iff distinct).mp firstMember).eq_of_reached
          ((mem_steps_iff distinct).mp secondMember)
          (first.2.objects_leads _ earlier listed) met)
    · intro top own later below leads
      obtain ⟨shape, _, rfl⟩ := List.mem_map.mp own
      obtain ⟨_, _, listed⟩ := mem_forestObjects_placed.mp below
      obtain ⟨keyword, _, reached⟩ := keyword_leads listed
      exact LeadsTo.not_child_self (reached.trans leads)

/-- Ways through a tree that are written alike are the same. -/
theorem at?_inj {first second : Node} {descents others : List Descent}
    (found : node.at? descents = some first) (again : node.at? others = some second)
    (alike : descents.flatMap Descent.tokens = others.flatMap Descent.tokens) :
    descents = others := by
  have written (descent : Descent) : descent.tokens ≠ [] := by
    obtain ⟨_, _, _, written⟩ := descent.tokens_eq
    simp [written]
  induction descents generalizing node others with
  | nil =>
    cases others with
    | nil => rfl
    | cons other others =>
      rw [List.flatMap_nil, List.flatMap_cons] at alike
      exact absurd (List.append_eq_nil_iff.mp alike.symm).1 (written other)
  | cons descent descents inductionHypothesis =>
    cases others with
    | nil =>
      rw [List.flatMap_nil, List.flatMap_cons] at alike
      exact absurd (List.append_eq_nil_iff.mp alike).1 (written descent)
    | cons other others =>
      obtain ⟨child, step, rest⟩ := Option.bind_eq_some_iff.mp found
      obtain ⟨middle, next, after⟩ := Option.bind_eq_some_iff.mp again
      rw [List.flatMap_cons, List.flatMap_cons] at alike
      have reached := leadsTo_follow (root.follow descent.tokens) (descents.flatMap Descent.tokens)
      have met := leadsTo_follow (root.follow other.tokens) (others.flatMap Descent.tokens)
      rw [← follow_append] at reached met
      rw [← alike] at met
      obtain rfl := (leads_of_below? step).eq_of_reached (leads_of_below? next) reached met
      obtain rfl := Option.some.inj (step.symm.trans next)
      rw [inductionHypothesis rest after (List.append_cancel_left alike)]

end Visits

end Node

namespace Route

/-- The pointer that writes a way. -/
def pointer (key : DefinitionsKey) (route : Route) : Pointer := Pointer.root.follow (route.tokens key)

/-- The pointer of a route begins at the whole document. -/
theorem origin_pointer (key : DefinitionsKey) (route : Route) : (route.pointer key).origin = "" :=
  origin_follow _ _

/-- Its tokens are those of the route. -/
theorem tokens_pointer (key : DefinitionsKey) (route : Route) :
    (route.pointer key).tokens = route.tokens key := by
  rw [pointer, tokens_follow]
  rfl

/-- A way comes before another one if it stays in the tree of the top level and the other one does
not, or if the other one goes on from its end. -/
def Precedes (route other : Route) : Prop :=
  route.definition = none ∧ other.definition ≠ none ∨
    route.definition = other.definition ∧
      ∃ descents, descents ≠ [] ∧ other.descents = route.descents ++ descents

/-- Only the way that stays at the top level is written as the pointer to the whole document. -/
theorem pointer_ne_root {route : Route} (away : route ≠ .top) (key : DefinitionsKey) :
    route.pointer key ≠ .root := by
  intro same
  have tokens := congrArg Pointer.tokens same
  rw [tokens_pointer] at tokens
  obtain ⟨definition, descents⟩ := route
  cases definition with
  | some name => contradiction
  | none =>
    cases descents with
    | nil => exact away rfl
    | cons descent descents =>
      obtain ⟨_, _, _, written⟩ := descent.tokens_eq
      simp [Route.tokens, written, Pointer.root] at tokens

/-- A way that stays in the tree of the top level is not written with the key of the
definitions. -/
theorem descents_ne_key (key : DefinitionsKey) (descents : List Descent) (others : List String) :
    descents.flatMap Descent.tokens ≠ key.text :: others := by
  intro alike
  cases descents with
  | nil => contradiction
  | cons descent descents =>
    obtain ⟨keyword, one, rest, written⟩ := descent.tokens_eq
    rw [List.flatMap_cons, written, List.cons_append] at alike
    obtain rfl := (List.cons.inj alike).1
    exact Schema.not_mem_definitionsKeys one (Schema.mem_definitionsKeys key)

end Route

namespace Schema

variable {schema : Schema}

/-- The objects of a schema are those at the ends of the ways through it, at the places that the
ways write. -/
theorem mem_objects_iff (distinct : schema.Distinct) {placed : PlacedObject} :
    placed ∈ schema.objects ↔ ∃ route, schema.at? route = some (.object placed.2) ∧
      placed.1 = route.pointer schema.definitionsKey := by
  rw [objects_eq, forestObjects, List.mem_flatMap]
  constructor
  · rintro ⟨tree, member, listed⟩
    rcases List.mem_cons.mp member with rfl | member
    · obtain ⟨descents, found, written⟩ := (Node.mem_objects_iff distinct.root).mp listed
      exact ⟨⟨none, descents⟩, found, written⟩
    · obtain ⟨entry, present, rfl⟩ := List.mem_map.mp member
      obtain ⟨descents, found, written⟩ :=
        (Node.mem_objects_iff (distinct.definition entry present)).mp listed
      refine ⟨⟨some entry.1, descents⟩, ?_, written⟩
      have started := (Table.lookup_eq_some_iff_mem distinct.definitions entry.1 entry.2).mpr present
      rw [at?, start?, started, Option.bind_some, found]
  · rintro ⟨⟨definition, descents⟩, found, written⟩
    obtain ⟨node, started, reached⟩ := Option.bind_eq_some_iff.mp found
    cases definition with
    | none =>
      obtain rfl := Option.some.inj started
      exact ⟨_, List.mem_cons_self,
        (Node.mem_objects_iff distinct.root).mpr ⟨descents, reached, written⟩⟩
    | some name =>
      have present := Table.mem_of_lookup started
      exact ⟨_, List.mem_cons_of_mem _ (List.mem_map_of_mem present),
        (Node.mem_objects_iff (distinct.definition _ present)).mpr ⟨descents, reached, written⟩⟩

/-- Ways through a schema that are written alike are the same. -/
theorem at?_inj {first second : Node} {route other : Route}
    (found : schema.at? route = some first) (again : schema.at? other = some second)
    (alike : route.pointer schema.definitionsKey = other.pointer schema.definitionsKey) :
    route = other := by
  have tokens := congrArg Pointer.tokens alike
  rw [Route.tokens_pointer, Route.tokens_pointer] at tokens
  obtain ⟨definition, descents⟩ := route
  obtain ⟨another, others⟩ := other
  obtain ⟨node, started, reached⟩ := Option.bind_eq_some_iff.mp found
  obtain ⟨start, began, met⟩ := Option.bind_eq_some_iff.mp again
  cases definition with
  | none =>
    cases another with
    | none =>
      obtain rfl := Option.some.inj (started.symm.trans began)
      exact congrArg (Route.mk none) (Node.at?_inj reached met tokens)
    | some name => exact absurd tokens (Route.descents_ne_key _ _ _)
  | some name =>
    cases another with
    | none => exact absurd tokens.symm (Route.descents_ne_key _ _ _)
    | some present =>
      obtain ⟨rfl, rest⟩ := List.cons.inj (List.cons.inj tokens).2
      obtain rfl := Option.some.inj (started.symm.trans began)
      exact congrArg (Route.mk (some name)) (Node.at?_inj reached met rest)

/-- The objects of the top level do not stand among the definitions. -/
theorem root_objects_apart (schema : Schema) : ∀ placed ∈ schema.root.objects .root,
    ¬ (Pointer.root.child schema.definitionsKey.text).LeadsTo placed.1 := by
  intro placed listed leads
  rcases Node.objects_leads_step (fun child _ => child.objects_leads) placed listed with
    same | ⟨keyword, one, reached⟩
  · exact LeadsTo.not_child_self (same ▸ leads)
  · exact not_mem_definitionsKeys one (leads.child_inj reached ▸ mem_definitionsKeys _)

/-- No object of a schema is visited after one that stands below it, and none is visited twice. -/
theorem objects_pairwise (distinct : schema.Distinct) :
    schema.objects.Pairwise fun earlier later => ¬ later.1.LeadsTo earlier.1 := by
  rw [objects, List.pairwise_append]
  refine ⟨Node.objects_pairwise distinct.root .root, ?_, ?_⟩
  · rw [Node.tableObjects_eq, forestObjects, List.pairwise_flatMap, List.forall_mem_map,
      List.pairwise_map]
    constructor
    · intro entry member
      exact Node.objects_pairwise (distinct.definition entry member) _
    · have apart : schema.definitions.Pairwise fun first second => first.1 ≠ second.1 :=
        List.pairwise_map.mp distinct.definitions
      refine apart.imp ?_
      intro first second different earlier listed later after leads
      have met := (second.2.objects_leads _ later after).trans leads
      exact different ((first.2.objects_leads _ earlier listed).child_inj met)
  · intro earlier listed later after leads
    exact schema.root_objects_apart earlier listed
      ((Node.tableObjects_below _ _ later after).trans leads)

/-- The definitions are visited after the top level. -/
theorem objects_pairwise_definitions (schema : Schema) :
    schema.objects.Pairwise fun earlier later =>
      (Pointer.root.child schema.definitionsKey.text).LeadsTo earlier.1 →
        (Pointer.root.child schema.definitionsKey.text).LeadsTo later.1 := by
  rw [objects, List.pairwise_append]
  refine ⟨?_, ?_, ?_⟩
  · refine List.Pairwise.imp_of_mem ?_ (List.pairwise_of_forall fun _ _ => trivial)
    intro earlier later listed _ _ leads
    exact absurd leads (schema.root_objects_apart earlier listed)
  · refine List.Pairwise.imp_of_mem ?_ (List.pairwise_of_forall fun _ _ => trivial)
    intro earlier later _ after _ _
    exact Node.tableObjects_below _ _ later after
  · intro earlier listed later _ leads
    exact absurd leads (schema.root_objects_apart earlier listed)

/-- The pointers of the visited objects are pointers into the whole document. -/
theorem origin_of_mem (distinct : schema.Distinct) {placed : PlacedObject}
    (listed : placed ∈ schema.objects) : placed.1.origin = "" := by
  obtain ⟨route, _, written⟩ := (mem_objects_iff distinct).mp listed
  rw [written, Route.origin_pointer]

/-- No two objects are visited at the same place. -/
theorem nodup_pointers (distinct : schema.Distinct) : (schema.objects.map (·.1)).Nodup := by
  refine List.pairwise_map.mpr ((objects_pairwise distinct).imp ?_)
  intro earlier later apart same
  exact apart (same ▸ leadsTo_refl _)

/-- No two objects are visited at places with the same text. -/
theorem nodup_texts (distinct : schema.Distinct) : (schema.objects.map (·.1.text)).Nodup := by
  have pointers := List.pairwise_map.mp (nodup_pointers distinct)
  refine List.pairwise_map.mpr (pointers.imp_of_mem ?_)
  intro earlier later listed after different same
  exact different (text_inj (origin_of_mem distinct listed) (origin_of_mem distinct after) same)

/-- An object is visited before those at the ends of the ways that its own way comes before. -/
theorem index_lt_of_precedes (distinct : schema.Distinct) {route other : Route}
    {first second : ObjectNode} {earlier later : Nat}
    (found : schema.at? route = some (.object first))
    (again : schema.at? other = some (.object second)) (before : route.Precedes other)
    (listed : schema.objects[earlier]? = some (route.pointer schema.definitionsKey, first))
    (after : schema.objects[later]? = some (other.pointer schema.definitionsKey, second)) :
    earlier < later := by
  obtain ⟨bound, atEarlier⟩ := List.getElem?_eq_some_iff.mp listed
  obtain ⟨limit, atLater⟩ := List.getElem?_eq_some_iff.mp after
  rcases Nat.lt_trichotomy earlier later with less | same | greater
  · exact less
  · subst same
    obtain ⟨alike, _⟩ := Prod.mk.inj (atEarlier.symm.trans atLater)
    obtain rfl := at?_inj found again alike
    rcases before with ⟨top, below⟩ | ⟨_, descents, some, longer⟩
    · exact absurd top below
    · exact absurd (List.append_right_eq_self.mp longer.symm) some
  · rcases before with ⟨top, below⟩ | ⟨level, descents, _, longer⟩
    · have order := List.pairwise_iff_getElem.mp schema.objects_pairwise_definitions later earlier
        limit bound greater
      rw [atEarlier, atLater] at order
      obtain ⟨name, started⟩ := Option.ne_none_iff_exists'.mp below
      have inside : (Pointer.root.child schema.definitionsKey.text).LeadsTo
          (other.pointer schema.definitionsKey) := by
        rw [Route.pointer, Route.tokens, started]
        exact leadsTo_follow (Pointer.root.child schema.definitionsKey.text) _
      obtain ⟨others, written⟩ := (order inside).tokens
      rw [Route.tokens_pointer, Route.tokens, top] at written
      exact absurd written.symm (Route.descents_ne_key _ _ _)
    · have order := List.pairwise_iff_getElem.mp (objects_pairwise distinct) later earlier
        limit bound greater
      rw [atEarlier, atLater] at order
      refine absurd ?_ order
      rw [Route.pointer, Route.pointer, Route.tokens, Route.tokens, ← level, longer,
        List.flatMap_append, ← List.append_assoc, follow_append _ (_ ++ _)]
      exact leadsTo_follow _ _

/-- What stands in the written document at a pointer is what is written for an object. At the top of
the document the definitions are left aside. -/
def WrittenAt (schema : Schema) (pointer : Pointer) (shape : ObjectNode) : Prop :=
  ∃ fields own, schema.toJson.resolveText? pointer.text = some (.object fields) ∧
    (Node.object shape).toJson = .object own ∧
    if pointer = .root then
      Table.erase fields schema.definitionsKey.text = Table.erase own schema.definitionsKey.text
    else fields = own

/-- An object is written as an object. -/
theorem toJson_object (shape : ObjectNode) : ∃ own, (Node.object shape).toJson = .object own := by
  obtain ⟨properties, declared, required, additional, extra⟩ := shape
  cases additional <;> exact ⟨_, rfl⟩

/-- Beside the definitions the top level stands in the document as it is written by itself. -/
theorem toJson_root {own : Fields} (written : schema.root.toJson = .object own) :
    ∃ fields, schema.toJson = .object fields ∧
      Table.erase fields schema.definitionsKey.text =
        Table.erase own schema.definitionsKey.text := by
  have same : schema.rootFields = own := by rw [rootFields, written]
  rw [toJson, same]
  split
  · exact ⟨_, rfl, Table.erase_insert own _ _⟩
  · exact ⟨_, rfl, rfl⟩

/-- The object that is visited at the top of the document is the top level. -/
theorem root_of_mem (distinct : schema.Distinct) {placed : PlacedObject}
    (listed : placed ∈ schema.objects) (top : placed.1 = .root) :
    schema.root = .object placed.2 := by
  obtain ⟨route, found, place⟩ := (mem_objects_iff distinct).mp listed
  by_cases same : route = .top
  · rw [same] at found
    exact Option.some.inj found
  · exact absurd (place.symm.trans top) (Route.pointer_ne_root same _)

/-- Every visited object stands at its pointer in the written document. -/
theorem writtenAt_of_mem (distinct : schema.Distinct) {placed : PlacedObject}
    (listed : placed ∈ schema.objects) : schema.WrittenAt placed.1 placed.2 := by
  obtain ⟨own, written⟩ := toJson_object placed.2
  have named := Json.resolveText?_text schema.toJson (origin_of_mem distinct listed)
  by_cases top : placed.1 = .root
  · obtain ⟨fields, whole, beside⟩ := toJson_root (root_of_mem distinct listed top ▸ written)
    refine ⟨fields, own, ?_, written, ?_⟩
    · rw [named, top, whole]
      rfl
    · rw [if_pos top, beside]
  · obtain ⟨route, found, place⟩ := (mem_objects_iff distinct).mp listed
    have away : route ≠ .top := fun same => top (place.trans (congrArg _ same))
    refine ⟨own, own, ?_, written, ?_⟩
    · rw [named, place, Route.tokens_pointer, at?_resolve? found away, written]
    · rw [if_neg top]

end Schema

end SchemaBindings
