import SchemaBindings.Proofs.Fidelity
import SchemaBindings.Proofs.Renaming
import SchemaBindings.Schema.Reserved

/-!
# What the passes leave faithful

A pass changes objects one after the other and may stop at any of them with an error.
Whatever is left then, each object has been changed by renaming its properties and in no
other way: it keeps its other keywords, the shape of its parts and the nodes below it.
That is enough for a tree to stay faithful, wherever the pass has stopped. A schema that
has been read stays faithful through any sequence of envelopes, passes and renamings, and
so it is written to a document that is read as just this schema.
-/
namespace SchemaBindings

namespace ObjectShape

/-- What renaming properties leaves as it is. -/
structure Keeps (before after : ObjectNode) : Prop where
  extra : after.extra = before.extra
  declared : after.declared = before.declared
  required : after.required.isSome = before.required.isSome
  additional : after.additional = before.additional
  properties : after.properties.map (·.2) = before.properties.map (·.2)

namespace Keeps

variable {shape before between after : ObjectNode}

/-- An object keeps what it has if nothing is done to it. -/
theorem refl (shape : ObjectNode) : shape.Keeps shape :=
  ⟨rfl, rfl, rfl, rfl, rfl⟩

/-- What is kept twice is kept. -/
theorem trans (first : before.Keeps between) (second : between.Keeps after) :
    before.Keeps after where
  extra := second.extra.trans first.extra
  declared := second.declared.trans first.declared
  required := second.required.trans first.required
  additional := second.additional.trans first.additional
  properties := second.properties.trans first.properties

/-- The nodes below an object stay the same. -/
theorem nodes_eq (keeps : before.Keeps after) : after.nodes = before.nodes := by
  rw [nodes, nodes, keeps.properties, keeps.additional]

/-- Renaming a property in place. -/
theorem of_rename? {old new : String} (renamed : before.rename? old new = some after) :
    before.Keeps after := by
  rw [rename?] at renamed
  split at renamed
  case isTrue => contradiction
  case isFalse =>
    obtain rfl := Option.some.inj renamed
    refine ⟨rfl, rfl, Option.isSome_map, rfl, ?_⟩
    simp only
    induction before.properties with
    | nil => rfl
    | cons entry rest inductionHypothesis =>
      exact congrArg (entry.2 :: ·) inductionHypothesis

/-- Renaming a property in place, or not if that is refused. -/
theorem of_renameOr (shape : ObjectNode) (old new : String) :
    shape.Keeps ((shape.rename? old new).getD shape) := by
  cases renamed : shape.rename? old new with
  | none => exact refl shape
  | some after => exact of_rename? renamed

/-- Marking some properties, up to the first that cannot be marked. -/
theorem of_escapeNames (rule : EscapeRule) (pointer : Pointer) (names : List String)
    (shape : ObjectNode) (count : Nat) :
    shape.Keeps (escapeNames rule pointer names shape count).1 := by
  induction names generalizing shape count with
  | nil => exact refl shape
  | cons name names inductionHypothesis =>
    rw [escapeNames]
    cases renamed : shape.rename? name (rule.escape name) with
    | none => exact refl shape
    | some next => exact (of_rename? renamed).trans (inductionHypothesis next (count + 1))

/-- Restoring some properties, up to the first that cannot be restored. -/
theorem of_restoreNames (restoring : Rule) (pointer : Pointer) (names : List String)
    (shape : ObjectNode) (count : Nat) :
    shape.Keeps (restoreNames restoring pointer names shape count).1 := by
  induction names generalizing shape count with
  | nil => exact refl shape
  | cons name names inductionHypothesis =>
    rw [restoreNames]
    split
    · exact inductionHypothesis shape count
    · cases renamed : shape.rename? name (restoring.apply name) with
      | none => exact refl shape
      | some next => exact (of_rename? renamed).trans (inductionHypothesis next (count + 1))

end Keeps

end ObjectShape

namespace Node

/-- Whether two nodes are written with the same keywords, apart from their values. -/
structure SameFrame (before after : Node) : Prop where
  kind : after.kind = before.kind
  extra : after.extra = before.extra
  keys : Table.keys after.held = Table.keys before.held
  spelled : before.Spelled → after.Spelled

namespace SameFrame

variable {before between after : Node}

/-- A node has its own frame. -/
theorem refl (node : Node) : node.SameFrame node :=
  ⟨rfl, rfl, rfl, id⟩

/-- A frame that stays twice stays. -/
theorem trans (first : before.SameFrame between) (second : between.SameFrame after) :
    before.SameFrame after where
  kind := second.kind.trans first.kind
  extra := second.extra.trans first.extra
  keys := second.keys.trans first.keys
  spelled := second.spelled ∘ first.spelled

/-- A node finds its type among the keywords that it keeps. -/
theorem lookup_type (node : Node) : node.fields.lookup "type" = node.extra.lookup "type" := by
  have missing : node.held.lookup "type" = none := by
    rw [Table.lookup_eq_none_iff_not_mem]
    intro listed
    cases of : node.kind with
    | none =>
      cases node with
      | bool value => contradiction
      | _ => contradiction
    | some kind => exact kind.type_not_mem_keywords (keys_held_subset of listed)
  rw [fields, List.lookup_append, missing, Option.or_none]

/-- Nodes that are written with the same keywords have the same marks. -/
theorem marks (frame : before.SameFrame after) : SameMarks after.fields before.fields where
  keys key := by
    rw [Bool.eq_iff_iff, Table.has_iff, Table.has_iff, fields, fields, Table.keys_append,
      Table.keys_append, frame.extra, frame.keys]
  type := by
    rw [lookup_type, lookup_type, frame.extra]

/-- Such nodes are sound together. -/
theorem sound {isRoot : Bool} (frame : before.SameFrame after) (sound : before.Sound isRoot) :
    after.Sound isRoot where
  apart kind of := by
    rw [frame.kind] at of
    rw [frame.extra]
    exact sound.apart kind of
  faultless := by rw [frame.marks.keywordFault_eq, sound.faultless]
  recognised kind of := by
    rw [frame.kind] at of
    rw [NodeKind.ofFields_eq frame.marks, sound.recognised kind of]
  spelled := frame.spelled sound.spelled

/-- What is written for additional properties has the same keys if the nodes there are of the same
kinds. -/
theorem keys_held_additional {left right : Additional Node}
    (alike : left.map Node.kind = right.map Node.kind) :
    Table.keys left.held = Table.keys right.held := by
  cases left <;> cases right <;> simp_all [Additional.map, Additional.held]

/-- A boolean stands among additional properties exactly where there was one. -/
theorem additional_ne_bool {left right : Additional Node}
    (alike : left.map Node.kind = right.map Node.kind) (other : ∀ value, right ≠ .schema (.bool value))
    (value : Bool) : left ≠ .schema (.bool value) := by
  rintro rfl
  cases right with
  | schema node =>
    have of : Node.kind (.bool value) = node.kind := Additional.schema.inj alike
    cases node with
    | bool value => exact other value rfl
    | _ => contradiction
  | absent => contradiction
  | allowed value => contradiction

/-- Objects have the same frame if their own parts have the same shape, and the nodes below them are
of the same kinds. -/
theorem of_object {before after : ObjectNode} (extra : after.extra = before.extra)
    (declared : after.declared = before.declared)
    (required : after.required.isSome = before.required.isSome)
    (additional : after.additional.map Node.kind = before.additional.map Node.kind)
    (properties : after.properties = [] ↔ before.properties = []) :
    (Node.object before).SameFrame (.object after) := by
  have empty : after.properties.isEmpty = before.properties.isEmpty := by
    rw [Bool.eq_iff_iff, List.isEmpty_iff, List.isEmpty_iff, properties]
  have demanded : Table.keys (requiredHeld after.required) =
      Table.keys (requiredHeld before.required) := by
    cases left : after.required <;> cases right : before.required <;>
      simp_all [requiredHeld]
  refine ⟨rfl, extra, ?_, fun spelled => ⟨fun some => ?_, ?_⟩⟩
  · simp only [held, ObjectShape.held, Table.keys_append, demanded, keys_held_additional additional,
      declared, empty]
    split <;> rfl
  · rw [declared]
    exact spelled.declared (mt properties.mpr some)
  · exact additional_ne_bool additional spelled.additional

/-- Renaming properties leaves an object its frame. -/
theorem of_keeps {before after : ObjectNode} (keeps : before.Keeps after) :
    (Node.object before).SameFrame (.object after) := by
  refine of_object keeps.extra keeps.declared keeps.required (by rw [keeps.additional]) ?_
  rw [← List.map_eq_nil_iff, keeps.properties, List.map_eq_nil_iff]

/-- An array with one schema for all items keeps its frame, whatever schema this is. -/
theorem of_single (item other : Node) (extra : Fields) :
    (Node.array (.single item) extra).SameFrame (.array (.single other) extra) :=
  ⟨rfl, rfl, rfl, id⟩

/-- An array with a schema for each item keeps its frame, whatever schemas these are. -/
theorem of_tuple (items others : List Node) (extra : Fields) :
    (Node.array (.tuple items) extra).SameFrame (.array (.tuple others) extra) :=
  ⟨rfl, rfl, rfl, id⟩

/-- A composition keeps its frame with other branches. -/
theorem of_composition (kind : CompositionKind) (branches others : List Node) (extra : Fields) :
    (Node.composition kind branches extra).SameFrame (.composition kind others extra) :=
  ⟨rfl, rfl, rfl, id⟩

end SameFrame

/-- A change of trees that keeps faithful trees faithful, and the frames of their tops. -/
def KeepsTrees {ε σ : Type} (visit : NodeChange ε σ) (isRoot : Bool) : Prop :=
  ∀ pointer node state, node.Faithful isRoot →
    (visit pointer node state).1.Faithful isRoot ∧ node.SameFrame (visit pointer node state).1

section Visits

variable {ε σ : Type} {visit : NodeChange ε σ} (keeps : KeepsTrees visit false)

include keeps in
/-- The trees of a table stay faithful, under their names. -/
theorem visitTable_keeps {table : Table Node} (faithful : ∀ entry ∈ table, entry.2.Faithful false)
    (pointer : Pointer) (state : σ) :
    (∀ entry ∈ (visitTable visit pointer table state).1, entry.2.Faithful false) ∧
      Table.keys (visitTable visit pointer table state).1 = Table.keys table := by
  induction table generalizing state with
  | nil => exact ⟨by simp [visitTable], rfl⟩
  | cons entry rest inductionHypothesis =>
    obtain ⟨name, node⟩ := entry
    obtain ⟨first, others⟩ := List.forall_mem_cons.mp faithful
    have kept := (keeps (pointer.child name) node state first).1
    rw [visitTable]
    split
    case h_1 after error visited =>
      rw [visited] at kept
      exact ⟨List.forall_mem_cons.mpr ⟨kept, others⟩, rfl⟩
    case h_2 after next visited =>
      rw [visited] at kept
      obtain ⟨later, names⟩ := inductionHypothesis others next
      exact ⟨List.forall_mem_cons.mpr ⟨kept, later⟩, congrArg (name :: ·) names⟩

include keeps in
/-- The trees of a list stay faithful. -/
theorem visitList_keeps {nodes : List Node} (faithful : ∀ node ∈ nodes, node.Faithful false)
    (pointer : Pointer) (index : Nat) (state : σ) :
    ∀ node ∈ (visitList visit pointer index nodes state).1, node.Faithful false := by
  induction nodes generalizing index state with
  | nil => simp [visitList]
  | cons node rest inductionHypothesis =>
    obtain ⟨first, others⟩ := List.forall_mem_cons.mp faithful
    have kept := (keeps (pointer.item index) node state first).1
    rw [visitList]
    split
    case h_1 after error visited =>
      rw [visited] at kept
      exact List.forall_mem_cons.mpr ⟨kept, others⟩
    case h_2 after next visited =>
      rw [visited] at kept
      exact List.forall_mem_cons.mpr ⟨kept, inductionHypothesis others (index + 1) next⟩

include keeps in
/-- An object whose nodes below it are changed keeps its frame, and the nodes stay faithful. -/
theorem visitBelow_keeps {shape : ObjectNode} (faithful : ∀ child ∈ shape.nodes, child.Faithful false)
    (pointer : Pointer) (state : σ) :
    (Node.object shape).SameFrame (.object (visitBelow visit pointer shape state).1) ∧
      ∀ child ∈ (visitBelow visit pointer shape state).1.nodes, child.Faithful false := by
  obtain ⟨listed, allowed⟩ := List.forall_mem_append.mp faithful
  obtain ⟨below, names⟩ := visitTable_keeps keeps (fun entry member =>
    listed entry.2 (List.mem_map_of_mem member)) (pointer.child "properties") state
  obtain ⟨table, declared, required, additional, extra⟩ := shape
  rw [visitBelow]
  cases visited : visitTable visit (pointer.child "properties") table state with
  | mk properties outcome =>
    rw [visited] at below names
    have empty : properties = [] ↔ table = [] := by
      rw [← List.map_eq_nil_iff, ← Table.keys, names, Table.keys, List.map_eq_nil_iff]
    have members : ∀ child ∈ properties.map (·.2), child.Faithful false :=
      List.forall_mem_map.mpr below
    cases outcome with
    | error error =>
      exact ⟨.of_object rfl rfl rfl rfl empty, List.forall_mem_append.mpr ⟨members, allowed⟩⟩
    | ok next =>
      cases additional with
      | schema node =>
        have kept := keeps (pointer.child "additionalProperties") node next
          (allowed node List.mem_cons_self)
        refine ⟨.of_object rfl rfl rfl (congrArg Additional.schema kept.2.kind) empty,
          List.forall_mem_append.mpr ⟨members, ?_⟩⟩
        simpa [Additional.nodes] using kept.1
      | absent =>
        exact ⟨.of_object rfl rfl rfl rfl empty, List.forall_mem_append.mpr ⟨members, allowed⟩⟩
      | allowed value =>
        exact ⟨.of_object rfl rfl rfl rfl empty, List.forall_mem_append.mpr ⟨members, allowed⟩⟩

end Visits

/-- A change of objects that only renames properties keeps faithful trees faithful, wherever it has
stopped. -/
theorem visitWithin_keeps {ε σ : Type} {change : ObjectChange ε σ}
    (keeps : ∀ pointer (shape : ObjectNode) state, shape.Keeps (change pointer shape state).1)
    (layers : Nat) (isRoot : Bool) : KeepsTrees (visitWithin change layers) isRoot := by
  induction layers generalizing isRoot with
  | zero => exact fun pointer node state faithful => ⟨faithful, .refl node⟩
  | succ layers inductionHypothesis =>
    intro pointer node state faithful
    have below := faithful.child
    cases node with
    | object shape =>
      have kept := keeps pointer shape state
      rw [visitWithin]
      cases changed : change pointer shape state with
      | mk next outcome =>
        rw [changed] at kept
        have frame := SameFrame.of_keeps kept
        have children : ∀ child ∈ next.nodes, child.Faithful false := kept.nodes_eq ▸ below
        cases outcome with
        | error error => exact ⟨.of (frame.sound faithful.sound) children, frame⟩
        | ok state =>
          obtain ⟨later, others⟩ :=
            visitBelow_keeps (inductionHypothesis false) children pointer state
          have whole := frame.trans later
          exact ⟨.of (whole.sound faithful.sound) others, whole⟩
    | array items extra =>
      cases items with
      | absent => exact ⟨faithful, .refl _⟩
      | single item =>
        have kept := inductionHypothesis false (pointer.child "items") item state
          (below item List.mem_cons_self)
        have frame := SameFrame.of_single item
          (visitWithin change layers (pointer.child "items") item state).1 extra
        rw [visitWithin]
        refine ⟨.of (frame.sound faithful.sound) fun child member => ?_, frame⟩
        exact List.mem_singleton.mp member ▸ kept.1
      | tuple items =>
        have kept := visitList_keeps (inductionHypothesis false) below (pointer.child "items") 0 state
        have frame := SameFrame.of_tuple items
          (visitList (visitWithin change layers) (pointer.child "items") 0 items state).1 extra
        rw [visitWithin]
        exact ⟨.of (frame.sound faithful.sound) kept, frame⟩
    | composition kind branches extra =>
      have kept := visitList_keeps (inductionHypothesis false) below (pointer.child kind.keyword) 0
        state
      have frame := SameFrame.of_composition kind branches
        (visitList (visitWithin change layers) (pointer.child kind.keyword) 0 branches state).1 extra
      rw [visitWithin]
      exact ⟨.of (frame.sound faithful.sound) kept, frame⟩
    | reference target extra => exact ⟨faithful, .refl _⟩
    | scalar extra => exact ⟨faithful, .refl _⟩
    | bool value => exact ⟨faithful, .refl _⟩

end Node

namespace Schema

/-- Rename a property of the object at some place, or not if that is refused. -/
def renameAt (place : Pointer) (old new : String) (schema : Schema) : Schema :=
  let change : ObjectChange SchemaError Unit := fun pointer shape state =>
    (if pointer = place then (shape.rename? old new).getD shape else shape, .ok state)
  (schema.visit change ()).1

/-- The schemas that come about by reading a document and then any envelopes, passes, finished or
not, and renamings. -/
inductive Reachable : Schema → Prop
  | read {value : Json} {schema : Schema} (distinct : value.Distinct)
    (found : ofJson value = .ok schema) : Reachable schema
  | enveloped {schema : Schema} (reached : Reachable schema) (envelope : Envelope) :
    Reachable (schema.enveloped envelope)
  | escape {schema : Schema} (reached : Reachable schema) (reserved : ReservedWords)
    (rule : EscapeRule) : Reachable (schema.escape reserved rule).1
  | restore {schema : Schema} (reached : Reachable schema) (rule : EscapeRule) (restoring : Rule) :
    Reachable (schema.restore rule restoring).1
  | renameAt {schema : Schema} (reached : Reachable schema) (place : Pointer) (old new : String) :
    Reachable (schema.renameAt place old new)

namespace Faithful

variable {schema : Schema}

/-- A change of objects that only renames properties keeps a schema faithful, wherever it has
stopped. -/
theorem visited {ε σ : Type} {change : ObjectChange ε σ} (faithful : schema.Faithful)
    (keeps : ∀ pointer (shape : ObjectNode) state, shape.Keeps (change pointer shape state).1)
    (state : σ) : (schema.visit change state).1.Faithful := by
  obtain ⟨root, frame⟩ :=
    Node.visitWithin_keeps keeps schema.height true .root schema.root state faithful.root
  have object : (Node.visitWithin change schema.height .root schema.root state).1.kind.isSome = true :=
    frame.kind ▸ faithful.object
  have apart (key : DefinitionsKey) : key.text ∉
      Table.keys (Node.visitWithin change schema.height .root schema.root state).1.fields := by
    rw [← Table.has_eq_false_iff, frame.marks.keys, Table.has_eq_false_iff]
    exact faithful.apart key
  rw [visit, visitWithin]
  cases visited : Node.visitWithin change schema.height .root schema.root state with
  | mk top outcome =>
    rw [visited] at root object apart
    cases outcome with
    | error error => exact ⟨root, object, apart, faithful.definitions, faithful.settled⟩
    | ok next =>
      obtain ⟨definitions, names⟩ := Node.visitTable_keeps
        (Node.visitWithin_keeps keeps schema.height false) faithful.definitions
        (Pointer.root.child schema.definitionsKey.text) next
      refine ⟨root, object, apart, definitions, fun unsettled => ?_⟩
      have empty : Table.keys schema.definitions = [] := by
        rw [faithful.settled unsettled, Table.keys_nil]
      exact List.map_eq_nil_iff.mp (names.trans empty)

/-- An enveloped schema is faithful: its top level is a reference, and its definitions have a
key. -/
theorem enveloped (faithful : schema.Faithful) (envelope : Envelope) :
    (schema.enveloped envelope).Faithful where
  root := by
    refine .of ⟨?_, ?_, ?_, trivial⟩ (by simp [Schema.enveloped, Node.children])
    · simp [Schema.enveloped, Node.kind, NodeKind.keywords, Node.extra]
    · simp [Schema.enveloped, Node.fields, Node.extra, Node.held, keywordFault, unsupportedKeywords,
        Table.has, List.lookup_cons, shapesOf, compositionsOf, hasObjectKeyword, CompositionKind.all,
        CompositionKind.keyword]
    · simp [Schema.enveloped, Node.kind, NodeKind.ofFields, Node.fields, Node.extra, Node.held,
        Table.has, List.lookup_cons]
  object := rfl
  apart key := by
    cases key <;> simp [Schema.enveloped, Node.fields, Node.extra, Node.held, DefinitionsKey.text]
  definitions := faithful.definitions
  settled := by simp [Schema.enveloped]

end Faithful

/-- Every schema that can be reached is faithful. -/
theorem Reachable.faithful {schema : Schema} (reached : schema.Reachable) : schema.Faithful := by
  induction reached with
  | read distinct found => exact faithful_of_ofJson found distinct
  | enveloped _ envelope inductionHypothesis => exact inductionHypothesis.enveloped envelope
  | @escape schema _ reserved rule inductionHypothesis =>
    rw [Schema.escape]
    split
    · exact inductionHypothesis
    · exact inductionHypothesis.visited
        (fun pointer shape count => .of_escapeNames rule pointer _ shape count) 0
  | restore _ rule restoring inductionHypothesis =>
    exact inductionHypothesis.visited
      (fun pointer shape count => .of_restoreNames restoring pointer _ shape count) 0
  | renameAt _ place old new inductionHypothesis =>
    refine inductionHypothesis.visited (fun pointer shape state => ?_) ()
    simp only
    split
    · exact .of_renameOr shape old new
    · exact .refl shape

/-- Every schema that can be reached is written to a document that is read as this schema. -/
theorem Reachable.represented {schema : Schema} (reached : schema.Reachable) :
    ofJson schema.toJson = .ok schema :=
  reached.faithful.ofJson_toJson

/-- An envelope around the scrambled schema, with a reserved property marked in it, is read back. -/
theorem Reachable.represented_at_scrambled :
    let schema := ((scrambled.enveloped ⟨"Title", "id", "draft", "Choice"⟩).escape ⟨["else"]⟩ {}).1
    schema.Reachable ∧ ofJson schema.toJson = .ok schema :=
  have reached : Reachable
      ((scrambled.enveloped ⟨"Title", "id", "draft", "Choice"⟩).escape ⟨["else"]⟩ {}).1 :=
    .escape (.enveloped (.read (by decide : Json.scrambled.Distinct) ofJson_scrambled) _) _ _
  ⟨reached, reached.represented⟩

end Schema

end SchemaBindings
