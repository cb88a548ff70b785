import SchemaBindings.Proofs.Fidelity
import SchemaBindings.Proofs.Routes

/-!
# Looking through a schema

A pass that only looks calls a function of its own at every object, in the order of
visits, with the text of the pointer to the place of the object. The function goes on
from a state to the next, or fails, and then the pass ends. The walk over the tree comes
to a fold over the list of the objects, so that what is known of the list says at which
objects the function is called: at each object of the schema once, at an object before
those below it, and at the objects of the top level before those of the definitions. The
texts of the pointers differ, and each of them names, in the document that is written,
what is written for the object.
-/
namespace SchemaBindings

/-- What is done at an object that stands at some place by a pass that changes nothing. -/
abbrev ObjectLook (ε σ : Type) := Pointer → ObjectNode → σ → Except ε σ

section Looking

variable {ε σ : Type}

mutual

/-- Look at the objects of a tree. -/
def Node.lookThrough (look : ObjectLook ε σ) (place : Pointer) : Node → σ → Except ε σ
  | .object ⟨properties, declared, required, additional, extra⟩, state => do
    let state ← look place ⟨properties, declared, required, additional, extra⟩ state
    let state ← Node.lookThroughTable look (place.child "properties") properties state
    match additional with
    | .schema node => node.lookThrough look (place.child "additionalProperties") state
    | _ => return state
  | .array (.single item) _, state => item.lookThrough look (place.child "items") state
  | .array (.tuple items) _, state => Node.lookThroughList look (place.child "items") 0 items state
  | .array .absent _, state => return state
  | .composition kind branches _, state =>
    Node.lookThroughList look (place.child kind.keyword) 0 branches state
  | .reference _ _, state => return state
  | .scalar _, state => return state
  | .bool _, state => return state

/-- Look at the objects of the trees of a table. -/
def Node.lookThroughTable (look : ObjectLook ε σ) (place : Pointer) :
    Table Node → σ → Except ε σ
  | [], state => return state
  | (name, node) :: rest, state => do
    let state ← node.lookThrough look (place.child name) state
    Node.lookThroughTable look place rest state

/-- Look at the objects of the trees of a list. -/
def Node.lookThroughList (look : ObjectLook ε σ) (place : Pointer) (index : Nat) :
    List Node → σ → Except ε σ
  | [], state => return state
  | node :: rest, state => do
    let state ← node.lookThrough look (place.item index) state
    Node.lookThroughList look place (index + 1) rest state

end

/-- Look at the objects of a schema: first at those of the top level, then at those of each
definition. -/
def Schema.lookThrough (look : ObjectLook ε σ) (schema : Schema) (state : σ) : Except ε σ := do
  let state ← schema.root.lookThrough look .root state
  Node.lookThroughTable look (Pointer.root.child schema.definitionsKey.text) schema.definitions
    state

namespace ObjectLook

/-- Look at some objects, one after the other. -/
def through (look : ObjectLook ε σ) (objects : List PlacedObject) (state : σ) : Except ε σ :=
  objects.foldlM (fun state placed => look placed.1 placed.2 state) state

variable (look : ObjectLook ε σ)

/-- Without objects, the state is the one to begin with. -/
@[simp] theorem through_nil (state : σ) : look.through [] state = .ok state := rfl

/-- The first object is looked at first, and a fault there is the fault of all. -/
theorem through_cons (placed : PlacedObject) (objects : List PlacedObject) (state : σ) :
    look.through (placed :: objects) state =
      look placed.1 placed.2 state >>= look.through objects :=
  List.foldlM_cons

/-- Two lists of objects can be looked at one after the other. -/
theorem through_append (first second : List PlacedObject) (state : σ) :
    look.through (first ++ second) state = look.through first state >>= look.through second :=
  List.foldlM_append

end ObjectLook

namespace Node

variable (look : ObjectLook ε σ)

/-- Looking through a table is looking at the objects of its trees, if this is so for each tree. -/
theorem lookThroughTable_eq {table : Table Node}
    (each : ∀ entry ∈ table, ∀ place state,
      entry.2.lookThrough look place state = look.through (entry.2.objects place) state)
    (place : Pointer) (state : σ) :
    lookThroughTable look place table state = look.through (tableObjects place table) state := by
  induction table generalizing state with
  | nil => rfl
  | cons entry rest inductionHypothesis =>
    obtain ⟨name, node⟩ := entry
    rw [lookThroughTable, tableObjects, ObjectLook.through_append,
      each (name, node) List.mem_cons_self]
    refine bind_congr fun next => ?_
    exact inductionHypothesis (fun other member => each other (List.mem_cons_of_mem _ member)) next

/-- Looking through a list is looking at the objects of its trees, if this is so for each tree. -/
theorem lookThroughList_eq {nodes : List Node}
    (each : ∀ node ∈ nodes, ∀ place state,
      node.lookThrough look place state = look.through (node.objects place) state)
    (place : Pointer) (index : Nat) (state : σ) :
    lookThroughList look place index nodes state =
      look.through (listObjects place index nodes) state := by
  induction nodes generalizing index state with
  | nil => rfl
  | cons node rest inductionHypothesis =>
    rw [lookThroughList, listObjects, ObjectLook.through_append, each node List.mem_cons_self]
    refine bind_congr fun next => ?_
    exact inductionHypothesis (fun other member => each other (List.mem_cons_of_mem _ member))
      (index + 1) next

/-- Looking through a tree is looking at its objects in the order of visits. -/
theorem lookThrough_eq (node : Node) (place : Pointer) (state : σ) :
    node.lookThrough look place state = look.through (node.objects place) state := by
  induction node using child_induction generalizing place state with
  | step node inductionHypothesis =>
    cases node with
    | object shape =>
      obtain ⟨properties, declared, required, additional, extra⟩ := shape
      have listed := lookThroughTable_eq look fun entry (member : entry ∈ properties) =>
        inductionHypothesis entry.2 (List.mem_append_left _ (List.mem_map_of_mem member))
      rw [lookThrough, objects_object, ObjectLook.through_cons]
      refine bind_congr fun between => ?_
      rw [ObjectLook.through_append, listed]
      refine bind_congr fun next => ?_
      cases additional with
      | schema child =>
        exact inductionHypothesis child (List.mem_append_right _ List.mem_cons_self) _ next
      | absent => rfl
      | allowed value => rfl
    | array items extra =>
      cases items with
      | absent => rfl
      | single item =>
        rw [lookThrough, objects]
        exact inductionHypothesis item List.mem_cons_self _ state
      | tuple items =>
        rw [lookThrough, objects]
        exact lookThroughList_eq look inductionHypothesis _ 0 state
    | composition kind branches extra =>
      rw [lookThrough, objects]
      exact lookThroughList_eq look inductionHypothesis _ 0 state
    | reference target extra => rfl
    | scalar extra => rfl
    | bool value => rfl

end Node

/-- Looking through a schema is looking at its objects in the order of visits. -/
theorem Schema.lookThrough_eq (look : ObjectLook ε σ) (schema : Schema) (state : σ) :
    schema.lookThrough look state = look.through schema.objects state := by
  rw [lookThrough, objects, ObjectLook.through_append, Node.lookThrough_eq]
  refine bind_congr fun next => ?_
  exact Node.lookThroughTable_eq look (fun entry _ => entry.2.lookThrough_eq look) _ next

end Looking

namespace Schema

/-- The check of what is restored looks through a schema, and keeps nothing in mind. -/
theorem checkRoundTrip_eq (reserved : ReservedWords) (rule : EscapeRule) (restoring : Rule)
    (schema : Schema) :
    schema.checkRoundTrip reserved rule restoring =
      schema.lookThrough
        (fun place shape _ => shape.checkRoundTrip reserved rule restoring place) () := by
  rw [lookThrough_eq, checkRoundTrip]
  generalize schema.objects = objects
  induction objects with
  | nil => rfl
  | cons placed rest inductionHypothesis =>
    rw [ObjectLook.through_cons]
    exact bind_congr fun _ => inductionHypothesis

/-- The violations are found by looking through a schema. -/
theorem violations_eq (schema : Schema) :
    schema.lookThrough (ε := Empty) (fun place shape found =>
      .ok (found ++ shape.undeclared.map (.requiredMismatch place))) [] =
        .ok schema.violations := by
  have gathered (objects : List PlacedObject) (found : List SchemaError) :
      ObjectLook.through (ε := Empty) (fun place shape found =>
        .ok (found ++ shape.undeclared.map (SchemaError.requiredMismatch place))) objects found =
          .ok (found ++ objects.flatMap fun placed =>
            placed.2.undeclared.map (.requiredMismatch placed.1)) := by
    induction objects generalizing found with
    | nil => simp
    | cons placed rest inductionHypothesis =>
      rw [ObjectLook.through_cons, List.flatMap_cons, ← List.append_assoc]
      exact inductionHypothesis _
  rw [lookThrough_eq]
  exact gathered schema.objects []

end Schema

section Noting

variable {ε σ : Type}

namespace ObjectLook

/-- The same look, which also notes at which objects it is made, up to the one where it fails. -/
def noted (look : ObjectLook ε σ) : ObjectLook (List PlacedObject × ε) (List PlacedObject × σ) :=
  fun place shape state =>
    match look place shape state.2 with
    | .ok next => .ok (state.1 ++ [(place, shape)], next)
    | .error error => .error (state.1 ++ [(place, shape)], error)

variable (look : ObjectLook ε σ)

/-- As long as a look does not fail, it is made at one object after the other. -/
theorem through_noted {objects : List PlacedObject} {state last : σ}
    (looked : look.through objects state = .ok last) (calls : List PlacedObject) :
    look.noted.through objects (calls, state) = .ok (calls ++ objects, last) := by
  induction objects generalizing calls state with
  | nil =>
    obtain rfl := Except.ok.inj looked
    simp
  | cons placed rest inductionHypothesis =>
    rw [through_cons] at looked ⊢
    obtain ⟨next, first, later⟩ := (bind_ok_iff _ _ _).mp looked
    have here : look.noted placed.1 placed.2 (calls, state) = .ok (calls ++ [placed], next) := by
      simp only [noted, first]
    rw [here]
    exact (inductionHypothesis later _).trans (by rw [List.append_assoc]; rfl)

/-- A look that fails at some object is made at those before it and at this one, and no more. -/
theorem through_noted_of_error {earlier later : List PlacedObject} {placed : PlacedObject}
    {state between : σ} {error : ε} (looked : look.through earlier state = .ok between)
    (failed : look placed.1 placed.2 between = .error error) :
    look.noted.through (earlier ++ placed :: later) ([], state) =
      .error (earlier ++ [placed], error) := by
  have here : look.noted placed.1 placed.2 (earlier, between) =
      .error (earlier ++ [placed], error) := by
    simp only [noted, failed]
  rw [through_append, through_noted look looked [], List.nil_append]
  change look.noted.through (placed :: later) (earlier, between) = _
  rw [through_cons, here]
  rfl

/-- A look that never fails comes to an end. -/
theorem through_of_total (total : ∀ place shape state, ∃ next, look place shape state = .ok next)
    (objects : List PlacedObject) (state : σ) : ∃ last, look.through objects state = .ok last := by
  induction objects generalizing state with
  | nil => exact ⟨state, rfl⟩
  | cons placed rest inductionHypothesis =>
    obtain ⟨next, first⟩ := total placed.1 placed.2 state
    obtain ⟨last, later⟩ := inductionHypothesis next
    refine ⟨last, ?_⟩
    rw [through_cons, first]
    exact later

/-- A look that pays no heed to what it sees. -/
def idle : ObjectLook Empty Unit := fun _ _ _ => .ok ()

end ObjectLook

/-- The objects of a schema are those at which even an idle look at it is made. -/
theorem Schema.lookThrough_idle (schema : Schema) :
    schema.lookThrough ObjectLook.idle.noted ([], ()) = .ok (schema.objects, ()) := by
  obtain ⟨last, looked⟩ :=
    ObjectLook.idle.through_of_total (fun _ _ _ => ⟨(), rfl⟩) schema.objects ()
  rw [lookThrough_eq, ObjectLook.through_noted _ looked, List.nil_append]

end Noting

namespace Schema

/-- What a list of calls has to do with the objects of a schema. -/
structure Lists (schema : Schema) (calls : List PlacedObject) : Prop where
  /-- Every object is there exactly once, with the pointer that writes the way to it. -/
  once : ∀ route shape, schema.at? route = some (.object shape) →
    ∃! index : Nat, calls[index]? = some (route.pointer schema.definitionsKey, shape)
  /-- Nothing else is there, and no call is for two objects. -/
  only : ∀ placed ∈ calls, ∃! route, schema.at? route = some (.object placed.2) ∧
    placed.1 = route.pointer schema.definitionsKey
  /-- The tree of the top level is before the definitions, and an object before those below it. -/
  ordered : ∀ (route other : Route) (first second : ObjectNode) (earlier later : Nat),
    schema.at? route = some (.object first) → schema.at? other = some (.object second) →
      route.Precedes other →
        calls[earlier]? = some (route.pointer schema.definitionsKey, first) →
          calls[later]? = some (other.pointer schema.definitionsKey, second) → earlier < later
  /-- The pointers have different texts. -/
  apart : (calls.map (·.1.text)).Nodup
  /-- Every text names what is written for the object; with an empty text, all that is written beside
  the definitions. -/
  written : ∀ placed ∈ calls, ∃ fields,
    schema.toJson.resolveText? placed.1.text = some (.object fields) ∧
      (Node.object placed.2).toJson =
        .object (if placed.1.text = "" then Table.erase fields schema.definitionsKey.text
          else fields)

/-- The visited objects of a schema that is faithful are its objects. -/
theorem lists_objects {schema : Schema} (distinct : schema.Distinct) (faithful : schema.Faithful) :
    schema.Lists schema.objects := by
  constructor
  · intro route shape found
    have member : (route.pointer schema.definitionsKey, shape) ∈ schema.objects :=
      (mem_objects_iff distinct).mpr ⟨route, found, rfl⟩
    obtain ⟨index, bound, here⟩ := List.mem_iff_getElem.mp member
    have listed := (List.getElem?_eq_getElem bound).trans (congrArg some here)
    refine ⟨index, listed, fun other again => ?_⟩
    have once := List.Nodup.of_map _ (nodup_pointers distinct)
    exact ((List.getElem?_inj bound once).mp (listed.trans again.symm)).symm
  · intro placed listed
    obtain ⟨route, found, written⟩ := (mem_objects_iff distinct).mp listed
    refine ⟨route, ⟨found, written⟩, ?_⟩
    rintro other ⟨again, alike⟩
    exact at?_inj again found (alike.symm.trans written)
  · intro route other first second earlier later found again before listed after
    exact index_lt_of_precedes distinct found again before listed after
  · exact nodup_texts distinct
  · intro placed listed
    obtain ⟨fields, own, resolved, written, beside⟩ := writtenAt_of_mem distinct listed
    have whole : placed.1.text = "" ↔ placed.1 = .root := by
      constructor
      · intro empty
        exact Pointer.text_inj (origin_of_mem distinct listed) rfl empty
      · intro top
        rw [top]
        rfl
    refine ⟨fields, resolved, ?_⟩
    rw [written]
    by_cases top : placed.1 = .root
    · rw [if_pos top] at beside
      have fields := faithful.rootFields_eq.1
      rw [root_of_mem distinct listed top, written] at fields
      rw [if_pos (whole.mpr top), beside, Table.erase_of_not_mem]
      rw [Json.object.inj fields, ← root_of_mem distinct listed top]
      exact faithful.apart schema.definitionsKey
    · rw [if_neg top] at beside
      rw [if_neg (mt whole.mp top), beside]

/-- A look that never fails is made at every object of a schema that has been read, exactly once and
in the order of visits, and one that fails at some object is not made at any later one: the pass ends
with its error. -/
theorem lookThrough_calls {document : Json} {schema : Schema} (read : ofJson document = .ok schema)
    (distinct : document.Distinct) :
    ∃ calls, schema.Lists calls ∧
      ∀ (ε σ : Type) (look : ObjectLook ε σ) (state : σ),
        ((∀ place shape state, ∃ next, look place shape state = .ok next) →
          ∃ last, schema.lookThrough look.noted ([], state) = .ok (calls, last)) ∧
        ∀ earlier placed later between error, calls = earlier ++ placed :: later →
          look.through earlier state = .ok between → look placed.1 placed.2 between = .error error →
            schema.lookThrough look.noted ([], state) = .error (earlier ++ [placed], error) := by
  refine ⟨schema.objects, lists_objects (ofJson_distinct read distinct)
    (faithful_of_ofJson read distinct), ?_⟩
  intro ε σ look state
  constructor
  · intro total
    obtain ⟨last, looked⟩ := look.through_of_total total schema.objects state
    refine ⟨last, ?_⟩
    rw [lookThrough_eq, look.through_noted looked, List.nil_append]
  · intro earlier placed later between error split looked failed
    rw [lookThrough_eq, split, look.through_noted_of_error looked failed]

end Schema

/-- A document with names that cannot stand in a pointer as they are, and with an empty one. -/
def Json.awkwardNames : Json :=
  .object
    [("properties", .object
      [("a/b", .object [("properties", .object [])]),
       ("", .object [("items", .array [.object [("required", .array [])]])])]),
     ("$defs", .object [("~", .object [("type", .string "object")])])]

/-- The schema of that document. -/
def Schema.awkwardNames : Schema where
  root := .object
    ⟨[("a/b", .object ⟨[], true, none, .absent, []⟩),
      ("", .array (.tuple [.object ⟨[], false, some [], .absent, []⟩]) [])], true, none, .absent, []⟩
  definitions := [("~", .object ⟨[], false, none, .absent, [("type", .string "object")]⟩)]
  writtenKey := some .defs

/-- The document is read as the schema, whose names need escapes in pointers. -/
theorem Schema.ofJson_awkwardNames : Schema.ofJson .awkwardNames = .ok .awkwardNames := by
  simp [Schema.ofJson, Json.awkwardNames, Schema.awkwardNames, Schema.definitionsOf,
    Node.tableOfJson, Node.listOfJson, Node.ofJson, Node.ofFields, Node.propertiesOf,
    Node.additionalOf, requiredOf, requiredNames, objectExtra, keywordFault, unsupportedKeywords,
    Table.has, Table.erase, List.lookup_cons, compositionsOf, CompositionKind.all,
    CompositionKind.keyword, hasObjectKeyword, typeIs, shapesOf, Pointer.isRoot, Pointer.root,
    Pointer.child, Pointer.item, DefinitionsKey.text]

/-- The calls for that document: all of them, and those up to the one for the property whose name has
a slash, if the look fails there. -/
theorem Schema.lookThrough_calls_at_awkwardNames :
    Schema.ofJson .awkwardNames = .ok .awkwardNames ∧ Json.awkwardNames.Distinct ∧
      ∃ calls, Schema.Lists .awkwardNames calls ∧
        calls.map (·.1.text) = ["", "/properties/a~1b", "/properties//items/0", "/$defs/~0"] ∧
        Schema.lookThrough (ε := List PlacedObject × String) (σ := List PlacedObject × Unit)
          (ObjectLook.noted fun place _ _ =>
            if place.text = "/properties/a~1b" then .error place.text else .ok ()) .awkwardNames
          ([], ()) = .error (calls.take 2, "/properties/a~1b") := by
  have distinct : Json.awkwardNames.Distinct := by decide
  obtain ⟨calls, lists, each⟩ := Schema.lookThrough_calls Schema.ofJson_awkwardNames distinct
  obtain ⟨last, looked⟩ := (each Empty Unit .idle ()).1 fun _ _ _ => ⟨(), rfl⟩
  obtain ⟨rfl, rfl⟩ :=
    Prod.mk.inj (Except.ok.inj (Schema.awkwardNames.lookThrough_idle.symm.trans looked))
  refine ⟨Schema.ofJson_awkwardNames, distinct, _, lists, by decide +kernel, ?_⟩
  refine (each String Unit _ ()).2 [_] _ _ () _ rfl ?_ ?_
  · decide +kernel
  · decide +kernel

end SchemaBindings
