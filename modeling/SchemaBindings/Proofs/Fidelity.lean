import SchemaBindings.Proofs.Lossless

/-!
# Schemas that are read back as they are

Not every tree is read back as the tree that was written. A keyword of its kind among
the keywords that a node keeps would be lost, a kept `type` may speak for another kind
of node, and a boolean among the schemas of additional properties would come back as a
permission. A tree in which nothing of that kind is found is `Faithful`. Whatever has been
read is faithful, what is faithful is read back as it is, and renaming properties, to
whatever names and up to whatever error, keeps a tree faithful, because neither the
keywords of a node nor its kind change with the names of its properties.
-/
namespace SchemaBindings

/-- Whether the parts of an object are spelled out as reading would: a table of properties that has
entries is written, and a boolean for additional properties is a permission. -/
structure ObjectShape.Spelled (shape : ObjectNode) : Prop where
  declared : shape.properties ≠ [] → shape.declared = true
  additional : ∀ value, shape.additional ≠ .schema (.bool value)

namespace Node

open Json

/-- Whether the parts of a node are spelled out as reading would. -/
def Spelled : Node → Prop
  | .object shape => shape.Spelled
  | _ => True

/-- A node is sound if its keywords, when written, are read as a node of its kind with the same
parts. -/
structure Sound (isRoot : Bool) (node : Node) : Prop where
  apart : ∀ kind ∈ node.kind, ∀ keyword ∈ kind.keywords, keyword ∉ Table.keys node.extra
  faultless : keywordFault isRoot node.fields = none
  recognised : ∀ kind ∈ node.kind, NodeKind.ofFields node.fields = kind
  spelled : node.Spelled

/-- A tree is faithful if all its nodes are sound, where only its top may be the top level. -/
inductive Faithful : Bool → Node → Prop
  | of {isRoot : Bool} {node : Node} (top : node.Sound isRoot)
    (others : ∀ child ∈ node.children, Faithful false child) : Faithful isRoot node

namespace Faithful

variable {isRoot : Bool} {node : Node}

/-- A node that is faithful is sound itself. -/
theorem sound (faithful : Faithful isRoot node) : node.Sound isRoot := by
  cases faithful with
  | of top others => exact top

/-- So is each of its children, none of which is at the top level. -/
theorem child (faithful : Faithful isRoot node) : ∀ child ∈ node.children, Faithful false child := by
  cases faithful with
  | of top others => exact others

/-- A boolean is faithful at any place. -/
theorem bool (isRoot value : Bool) : Faithful isRoot (.bool value) := by
  have faultless : keywordFault isRoot [] = none := by
    cases isRoot <;> decide
  exact .of ⟨by simp [kind], faultless, by simp [kind], trivial⟩ (by simp [children])

end Faithful

/-! What has been read is faithful. -/

section Reading

variable {pointer : Pointer} {fields : Fields} {node : Node}

/-- No pointer that goes a step further is that of the whole document. -/
@[simp] theorem isRoot_child (pointer : Pointer) (token : String) :
    (pointer.child token).isRoot = false := by
  simp [Pointer.isRoot, Pointer.child]

/-- Nor is that of an item. -/
@[simp] theorem isRoot_item (pointer : Pointer) (index : Nat) :
    (pointer.item index).isRoot = false :=
  isRoot_child pointer _

/-- Each node of a table has been read from a value of the table, at its key. -/
theorem tableOfJson_from {table : Fields} {nodes : Table Node}
    (read : tableOfJson pointer table = .ok nodes) :
    ∀ entry ∈ nodes, ∃ field ∈ table, field.1 = entry.1 ∧
      ofJson (pointer.child field.1) field.2 = .ok entry.2 := by
  rw [tableOfJson_ok_iff] at read
  induction read with
  | nil => simp
  | @cons field entry table nodes held later inductionHypothesis =>
    intro other member
    rcases List.mem_cons.mp member with rfl | member
    · exact ⟨field, List.mem_cons_self, held⟩
    · obtain ⟨origin, present, below⟩ := inductionHypothesis other member
      exact ⟨origin, List.mem_cons_of_mem _ present, below⟩

/-- Each node of a list has been read from a value of the list, at its index. -/
theorem listOfJson_from {index : Nat} {values : List Json} {nodes : List Node}
    (read : listOfJson pointer index values = .ok nodes) :
    ∀ node ∈ nodes, ∃ place, ∃ value ∈ values, ofJson (pointer.item place) value = .ok node := by
  rw [listOfJson_ok_iff] at read
  induction values generalizing index nodes with
  | nil =>
    cases read
    simp
  | cons value rest inductionHypothesis =>
    rw [List.zipIdx_cons] at read
    cases read with
    | cons held later =>
      intro node member
      rcases List.mem_cons.mp member with rfl | member
      · exact ⟨index, value, List.mem_cons_self, held⟩
      · obtain ⟨place, origin, present, below⟩ := inductionHypothesis later node member
        exact ⟨place, origin, List.mem_cons_of_mem _ present, below⟩

/-- The properties that are read belong to a table that is spelled out, and each of them is read
from a value of the table. -/
theorem propertiesOf_from {properties : Table Node}
    (read : propertiesOf pointer fields = .ok properties) :
    properties = [] ∨ ∃ table, fields.lookup "properties" = some (.object table) ∧
      tableOfJson (pointer.child "properties") table = .ok properties := by
  rw [propertiesOf] at read
  split at read
  case h_1 => exact .inl (Except.ok.inj read).symm
  case h_2 table found => exact .inr ⟨table, found, read⟩
  case h_3 => contradiction

/-- A schema of additional properties is read from a value that is no boolean. -/
theorem additionalOf_from {additional : Additional Node}
    (read : additionalOf pointer fields = .ok additional) :
    ∀ child ∈ additional.nodes, ∃ value, fields.lookup "additionalProperties" = some value ∧
      (∀ allowed, value ≠ .bool allowed) ∧
        ofJson (pointer.child "additionalProperties") value = .ok child := by
  rw [additionalOf] at read
  split at read
  case h_1 =>
    obtain rfl := Except.ok.inj read
    simp [Additional.nodes]
  case h_2 =>
    obtain rfl := Except.ok.inj read
    simp [Additional.nodes]
  case h_3 value other found =>
    split at read
    case h_1 node below =>
      obtain rfl := Except.ok.inj read
      intro child member
      obtain rfl := List.mem_singleton.mp member
      exact ⟨value, found, fun allowed same => other allowed same, below⟩
    case h_2 => contradiction

/-- Every node below a node that is read has been read from a value inside of its fields, and not at
the top level. -/
theorem Read.child_from (read : Read pointer fields node)
    (distinct : ∀ field ∈ fields, field.2.Distinct) :
    ∀ child ∈ node.children, ∃ place value, place.isRoot = false ∧ value.Distinct ∧
      ofJson place value = .ok child := by
  have held {key : String} {value : Json} (found : fields.lookup key = some value) :
      value.Distinct := distinct _ (Table.mem_of_lookup found)
  intro child member
  cases read with
  | composition kind others values branches direct composed found below =>
    obtain ⟨index, value, present, read⟩ := listOfJson_from below child member
    exact ⟨_, value, isRoot_item _ _, (distinct_array values).mp (held found) value present, read⟩
  | object properties required additional direct simple asked listed demanded allowed =>
    rcases List.mem_append.mp member with member | member
    · obtain ⟨entry, present, rfl⟩ := List.mem_map.mp member
      rcases propertiesOf_from listed with rfl | ⟨table, found, below⟩
      · contradiction
      · obtain ⟨field, inside, _, read⟩ := tableOfJson_from below entry present
        exact ⟨_, field.2, isRoot_child _ _,
          ((distinct_object table).mp (held found)).2 field inside, read⟩
    · obtain ⟨value, found, _, read⟩ := additionalOf_from allowed child member
      exact ⟨_, value, isRoot_child _ _, held found, read⟩
  | tuple values items direct simple other found below =>
    obtain ⟨index, value, present, read⟩ := listOfJson_from below child member
    exact ⟨_, value, isRoot_item _ _, (distinct_array values).mp (held found) value present, read⟩
  | single value item direct simple other found alone below =>
    obtain rfl := List.mem_singleton.mp member
    exact ⟨_, value, isRoot_child _ _, held found, below⟩
  | reference | openArray | scalar => contradiction

/-- The parts of a node that is read are spelled out. -/
theorem Read.spelled (read : Read pointer fields node) : node.Spelled := by
  cases read with
  | object properties required additional direct simple asked listed demanded allowed =>
    constructor
    · intro some
      rcases propertiesOf_from listed with rfl | ⟨table, found, _⟩
      · contradiction
      · simp [Table.has, found]
    · rintro value rfl
      obtain ⟨origin, _, other, read⟩ := additionalOf_from allowed (.bool value) List.mem_cons_self
      cases origin with
      | bool allowed => exact other allowed rfl
      | object fields =>
        rw [ofJson] at read
        have of := (ofFields_read read).2.kind_eq
        contradiction
      | null => simp [ofJson] at read
      | number value => simp [ofJson] at read
      | string value => simp [ofJson] at read
      | array items => simp [ofJson] at read
  | _ => trivial

/-- A node that is read from fields is sound. -/
theorem Read.sound (read : Read pointer fields node) (once : (Table.keys fields).Nodup)
    (distinct : ∀ field ∈ fields, field.2.Distinct)
    (faultless : keywordFault pointer.isRoot fields = none) : node.Sound pointer.isRoot := by
  have written : node.fields = schemaFields fields :=
    read.fields_eq once distinct fun _ _ _ _ read distinct => toJson_of_ofJson read distinct
  have marks := schemaFields_sameMarks once
  refine ⟨?_, ?_, ?_, read.spelled⟩
  · rintro kind of keyword member
    obtain rfl : _ = kind := Option.some.inj (read.kind_eq.symm.trans of)
    exact read.extra_apart once keyword member
  · rw [written, marks.keywordFault_eq, faultless]
  · rintro kind of
    obtain rfl : _ = kind := Option.some.inj (read.kind_eq.symm.trans of)
    rw [written, NodeKind.ofFields_eq marks]

/-- Whatever is read from a value without repeated keys is faithful. -/
theorem faithful_of_ofJson {value : Json} (read : ofJson pointer value = .ok node)
    (distinct : value.Distinct) : Faithful pointer.isRoot node := by
  induction node using child_induction generalizing pointer value with
  | step node inductionHypothesis =>
    cases value with
    | object fields =>
      obtain ⟨once, each⟩ := (distinct_object fields).mp distinct
      rw [ofJson] at read
      obtain ⟨faultless, read⟩ := ofFields_read read
      refine .of (read.sound once each faultless) fun child member => ?_
      obtain ⟨place, value, inside, distinct, read⟩ := read.child_from each child member
      exact inside ▸ inductionHypothesis child member read distinct
    | bool value =>
      rw [ofJson] at read
      obtain rfl := Except.ok.inj read
      exact .bool _ value
    | null => simp [ofJson] at read
    | number value => simp [ofJson] at read
    | string value => simp [ofJson] at read
    | array items => simp [ofJson] at read

end Reading

/-! What is faithful is read back. -/

section ReadingBack

variable {pointer : Pointer} {extra held : Fields}

/-- What is found behind the kept keywords. -/
theorem lookup_behind {key : String} (apart : key ∉ Table.keys extra) :
    (extra ++ held).lookup key = held.lookup key := by
  rw [List.lookup_append, (Table.lookup_eq_none_iff_not_mem extra key).mpr apart, Option.none_or]

/-- What stands behind the kept keywords is found there. -/
theorem lookup_last {key : String} (apart : key ∉ Table.keys extra) (value : Json) :
    (extra ++ [(key, value)]).lookup key = some value := by
  rw [lookup_behind apart, List.lookup_cons_self]

/-- Without what stands behind them, the kept keywords are left. -/
theorem erase_last {key : String} (apart : key ∉ Table.keys extra) (value : Json) :
    Table.erase (extra ++ [(key, value)]) key = extra := by
  rw [Table.erase_append apart]
  simp [Table.erase]

/-- A table whose nodes are read back is read back. -/
theorem tableOfJson_written {table : Table Node}
    (below : ∀ entry ∈ table, ∀ place : Pointer, place.isRoot = false →
      ofJson place entry.2.toJson = .ok entry.2) :
    tableOfJson pointer (Table.mapValues toJson table) = .ok table := by
  rw [tableOfJson_ok_iff, Table.mapValues, List.forall₂_map_left_iff, List.forall₂_same]
  exact fun entry member => ⟨rfl, below entry member _ (isRoot_child _ _)⟩

/-- A list whose nodes are read back is read back. -/
theorem listOfJson_written {index : Nat} {nodes : List Node}
    (below : ∀ node ∈ nodes, ∀ place : Pointer, place.isRoot = false →
      ofJson place node.toJson = .ok node) :
    listOfJson pointer index (nodes.map toJson) = .ok nodes := by
  rw [listOfJson_ok_iff, List.zipIdx_map, List.forall₂_map_left_iff]
  induction nodes generalizing index with
  | nil => exact .nil
  | cons node rest inductionHypothesis =>
    rw [List.zipIdx_cons]
    exact .cons (below node List.mem_cons_self _ (isRoot_item _ _))
      (inductionHypothesis fun other member => below other (List.mem_cons_of_mem _ member))

/-- What is written for the properties of an object that is spelled out. -/
theorem lookup_held_properties {shape : ObjectNode} (spelled : shape.Spelled) :
    shape.held.lookup "properties" =
      if shape.declared then some (.object (Table.mapValues toJson shape.properties)) else none := by
  obtain ⟨properties, declared, required, additional, kept⟩ := shape
  have written : (declared || !properties.isEmpty) = declared := by
    cases properties with
    | nil => simp
    | cons entry rest =>
      have spelledOut : declared = true := spelled.declared (List.cons_ne_nil _ _)
      simp [spelledOut]
  simp only [ObjectShape.held, written, requiredHeld, Additional.held]
  cases declared <;> cases required <;> cases additional <;> rfl

/-- What is written for the required names of an object. -/
theorem lookup_held_required (shape : ObjectNode) :
    shape.held.lookup "required" = shape.required.map fun names => .array (names.map .string) := by
  obtain ⟨properties, declared, required, additional, kept⟩ := shape
  simp only [ObjectShape.held, requiredHeld, Additional.held]
  cases (declared || !properties.isEmpty) <;> cases required <;> cases additional <;> rfl

/-- What is written for what an object may have beyond its properties. -/
theorem lookup_held_additional (shape : ObjectNode) :
    shape.held.lookup "additionalProperties" =
      shape.additional.held.lookup "additionalProperties" := by
  obtain ⟨properties, declared, required, additional, kept⟩ := shape
  simp only [ObjectShape.held, requiredHeld, Additional.held]
  cases (declared || !properties.isEmpty) <;> cases required <;> cases additional <;> rfl

/-- An object keeps what it has kept when it is written and read back. -/
theorem objectExtra_fields {shape : ObjectNode}
    (apart : ∀ keyword ∈ NodeKind.object.keywords, keyword ∉ Table.keys shape.extra) :
    objectExtra (fields (.object shape)) = shape.extra := by
  obtain ⟨properties, declared, required, additional, kept⟩ := shape
  simp only [NodeKind.keywords, List.forall_mem_cons] at apart
  obtain ⟨noProperties, noRequired, noAdditional, _⟩ := apart
  simp only [fields, Node.extra, held, objectExtra]
  rw [Table.erase_append noProperties, Table.erase_append noRequired,
    Table.erase_append noAdditional]
  simp only [ObjectShape.held, requiredHeld, Additional.held]
  cases (declared || !properties.isEmpty) <;> cases required <;> cases additional <;>
    exact List.append_nil kept

section Object

variable {shape : ObjectNode} (spelled : shape.Spelled)
  (apart : ∀ keyword ∈ NodeKind.object.keywords, keyword ∉ Table.keys shape.extra)
  (below : ∀ child ∈ shape.nodes, ∀ place : Pointer, place.isRoot = false →
    ofJson place child.toJson = .ok child)

include spelled apart in
/-- The table of properties is found exactly if it was spelled out. -/
theorem lookup_properties_written :
    (fields (.object shape)).lookup "properties" =
      if shape.declared then some (.object (Table.mapValues toJson shape.properties)) else none :=
  (lookup_behind (apart "properties" (by decide))).trans (lookup_held_properties spelled)

include spelled apart below in
/-- The properties of an object are read back if all nodes below it are. -/
theorem propertiesOf_written :
    propertiesOf pointer (fields (.object shape)) = .ok shape.properties := by
  have found := lookup_properties_written spelled apart
  rw [propertiesOf]
  cases spelledOut : shape.declared with
  | false =>
    have none : shape.properties = [] := by
      by_contra some
      simp [spelled.declared some] at spelledOut
    rw [spelledOut] at found
    split
    case h_1 => rw [none]
    case h_2 present => simp [found] at present
    case h_3 present => simp [found] at present
  | true =>
    rw [spelledOut] at found
    split
    case h_1 absent => simp [found] at absent
    case h_2 table present =>
      obtain rfl := Json.object.inj (Option.some.inj (found.symm.trans present))
      refine tableOfJson_written fun entry member => below entry.2 ?_
      exact List.mem_append_left _ (List.mem_map_of_mem member)
    case h_3 other present => exact absurd (Option.some.inj (present.symm.trans found)) (other _)

include apart in
/-- The required names of an object are read back. -/
theorem requiredOf_written : requiredOf (fields (.object shape)) = .ok shape.required := by
  have found : (fields (.object shape)).lookup "required" = _ :=
    (lookup_behind (apart "required" (by decide))).trans (lookup_held_required shape)
  rw [requiredOf, found]
  cases shape.required with
  | none => rfl
  | some names =>
    have read := (requiredNames_ok_iff (names.map .string) names).mpr rfl
    simp [read]

include spelled apart below in
/-- What an object may have beyond its properties is read back if all nodes below it are. -/
theorem additionalOf_written :
    additionalOf pointer (fields (.object shape)) = .ok shape.additional := by
  have found : (fields (.object shape)).lookup "additionalProperties" = _ :=
    (lookup_behind (apart "additionalProperties" (by decide))).trans (lookup_held_additional shape)
  rw [additionalOf]
  cases allowed : shape.additional with
  | absent =>
    have missing : (fields (.object shape)).lookup "additionalProperties" = none := by
      rw [found, allowed, Additional.held, List.lookup_nil]
    split
    case h_1 => rfl
    case h_2 present => simp [missing] at present
    case h_3 present => simp [missing] at present
  | allowed value =>
    have written : (fields (.object shape)).lookup "additionalProperties" = some (.bool value) := by
      rw [found, allowed, Additional.held, List.lookup_cons_self]
    split
    case h_1 absent => simp [written] at absent
    case h_2 read present =>
      obtain rfl := Json.bool.inj (Option.some.inj (written.symm.trans present))
      rfl
    case h_3 other present => exact absurd (Option.some.inj (present.symm.trans written)) (other _)
  | schema node =>
    have written : (fields (.object shape)).lookup "additionalProperties" = some node.toJson := by
      rw [found, allowed, Additional.held, List.lookup_cons_self]
    have inside : node ∈ shape.nodes := by
      simp [ObjectShape.nodes, allowed, Additional.nodes]
    have read := below node inside (pointer.child "additionalProperties") (isRoot_child _ _)
    split
    case h_1 absent => simp [written] at absent
    case h_2 value present =>
      -- A boolean would be read as a permission, but no boolean stands here.
      rw [Option.some.inj (written.symm.trans present), ofJson] at read
      obtain rfl := Except.ok.inj read
      exact absurd allowed (spelled.additional value)
    case h_3 value _ present =>
      obtain rfl := Option.some.inj (written.symm.trans present)
      simp only [read]

include spelled apart below in
/-- A sound object is read back if all nodes below it are. -/
theorem read_object (asks : NodeKind.object.Asks (fields (.object shape))) :
    Read pointer (fields (.object shape)) (.object shape) := by
  obtain ⟨direct, simple, asked⟩ := asks
  have listed : propertiesOf pointer _ = _ := propertiesOf_written spelled apart below
  have demanded := requiredOf_written apart
  have allowed : additionalOf pointer _ = _ := additionalOf_written spelled apart below
  have whole := Read.object _ _ _ direct simple asked listed demanded allowed
  have declared : Table.has (fields (.object shape)) "properties" = shape.declared := by
    rw [Table.has, lookup_properties_written spelled apart]
    cases shape.declared <;> rfl
  rwa [declared, objectExtra_fields apart] at whole

end Object

/-- An array is read back if its items are. -/
theorem read_array {items : Items Node} (absent : "items" ∉ Table.keys extra)
    (below : ∀ child ∈ items.nodes, ∀ place : Pointer, place.isRoot = false →
      ofJson place child.toJson = .ok child)
    (asks : NodeKind.array.Asks (fields (.array items extra))) :
    Read pointer (fields (.array items extra)) (.array items extra) := by
  obtain ⟨direct, simple, other, asked⟩ := asks
  cases items with
  | absent =>
    have missing : (fields (.array .absent extra)).lookup "items" = none := lookup_behind absent
    rw [Table.has, missing] at asked
    simpa [fields, Node.extra, held] using Read.openArray direct simple other asked missing
  | single item =>
    have found := lookup_last absent item.toJson
    have kept : Table.erase (fields (.array (.single item) extra)) "items" = extra :=
      erase_last absent _
    have read := below item List.mem_cons_self (pointer.child "items") (isRoot_child _ _)
    have alone (values : List Json) : item.toJson ≠ .array values := by
      intro same
      simp [same, ofJson] at read
    have whole := Read.single item.toJson item direct simple other found alone read
    rwa [kept] at whole
  | tuple items =>
    have found := lookup_last absent (.array (items.map toJson))
    have kept : Table.erase (fields (.array (.tuple items) extra)) "items" = extra :=
      erase_last absent _
    have whole : Read pointer _ _ := .tuple _ items direct simple other found (listOfJson_written below)
    rwa [kept] at whole

/-- A sound node is read back if all nodes below it are. -/
theorem Sound.read_back {node : Node} (sound : node.Sound pointer.isRoot)
    (below : ∀ child ∈ node.children, ∀ place : Pointer, place.isRoot = false →
      ofJson place child.toJson = .ok child) :
    ofJson pointer node.toJson = .ok node := by
  cases of : node.kind with
  | none =>
    cases node with
    | bool value => rw [toJson, ofJson]
    | _ => contradiction
  | some kind =>
    have apart := sound.apart kind of
    have asks := NodeKind.asks_ofFields node.fields
    rw [sound.recognised kind of] at asks
    rw [toJson_eq_object of apart, ofJson, ofFields_ok_iff]
    refine ⟨sound.faultless, ?_⟩
    cases node with
    | object shape =>
      obtain rfl := Option.some.inj of
      exact read_object sound.spelled apart below asks
    | array items extra =>
      obtain rfl := Option.some.inj of
      exact read_array (apart "items" List.mem_cons_self) below asks
    | composition kind branches extra =>
      obtain rfl := Option.some.inj of
      have absent : kind.keyword ∉ Table.keys extra := apart kind.keyword List.mem_cons_self
      obtain ⟨direct, others, composed⟩ := asks
      have found := lookup_last absent (.array (branches.map toJson))
      have kept : Table.erase (fields (.composition kind branches extra)) kind.keyword = extra :=
        erase_last absent _
      have whole : Read pointer _ _ := .composition kind others _ branches direct composed found
        (listOfJson_written below)
      rwa [kept] at whole
    | reference target extra =>
      obtain rfl := Option.some.inj of
      have absent : "$ref" ∉ Table.keys extra := apart "$ref" List.mem_cons_self
      have kept : Table.erase (fields (.reference target extra)) "$ref" = extra :=
        erase_last absent _
      have found : (fields (.reference target extra)).lookup "$ref" = some (.string target) :=
        lookup_last absent _
      have whole : Read pointer _ _ := .reference target found
      rwa [kept] at whole
    | scalar extra =>
      obtain rfl := Option.some.inj of
      obtain ⟨direct, simple, other, flat⟩ := asks
      simpa [fields, Node.extra, held] using Read.scalar direct simple other flat
    | bool value => contradiction

end ReadingBack

/-- What is faithful is read back as it is. -/
theorem Faithful.ofJson_toJson {isRoot : Bool} {node : Node} (faithful : Faithful isRoot node)
    (pointer : Pointer) (place : pointer.isRoot = isRoot) :
    ofJson pointer node.toJson = .ok node := by
  induction faithful generalizing pointer with
  | of sound _ inductionHypothesis =>
    subst place
    exact sound.read_back inductionHypothesis

end Node

namespace Schema

open Json

/-- A schema is faithful if its trees are, its top level is an object without definitions of its
own, and there are no definitions without a key for them. -/
structure Faithful (schema : Schema) : Prop where
  root : schema.root.Faithful true
  object : schema.root.kind.isSome = true
  apart : ∀ key : DefinitionsKey, key.text ∉ Table.keys schema.root.fields
  definitions : ∀ entry ∈ schema.definitions, entry.2.Faithful false
  settled : schema.writtenKey = none → schema.definitions = []

/-- The fields of a faithful top level. -/
theorem Faithful.rootFields_eq {schema : Schema} (faithful : schema.Faithful) :
    schema.root.toJson = .object schema.root.fields ∧ schema.rootFields = schema.root.fields := by
  obtain ⟨kind, of⟩ := Option.isSome_iff_exists.mp faithful.object
  have written := Node.toJson_eq_object of (faithful.root.sound.apart kind of)
  exact ⟨written, by rw [rootFields, written]⟩

/-- Whatever is read from a value without repeated keys is faithful. -/
theorem faithful_of_ofJson {value : Json} {schema : Schema} (read : ofJson value = .ok schema)
    (distinct : value.Distinct) : schema.Faithful := by
  obtain ⟨fields, rfl, once, each, definitionsRead, rootRead⟩ := ofJson_read read distinct
  have topDistinct := distinct_topFields once each
  have root := Node.faithful_of_ofJson rootRead topDistinct
  obtain ⟨topOnce, topEach⟩ := (distinct_object _).mp topDistinct
  rw [Node.ofJson] at rootRead
  obtain ⟨_, top⟩ := Node.ofFields_read rootRead
  have written := top.fields_eq topOnce topEach fun _ _ _ _ read distinct =>
    Node.toJson_of_ofJson read distinct
  refine ⟨root, by simp [top.kind_eq], fun key => written ▸ definitionsKey_not_mem once key, ?_, ?_⟩
  · intro entry member
    rcases definitionsOf_read definitionsRead with ⟨none, _⟩ | ⟨chosen, table, _, found, tableRead⟩
    · simp [none] at member
    · obtain ⟨field, present, _, read⟩ := Node.tableOfJson_from tableRead entry member
      have tables := ((distinct_object table).mp (each _ (Table.mem_of_lookup found))).2
      simpa using Node.faithful_of_ofJson read (tables field present)
  · intro unsettled
    rcases definitionsOf_read definitionsRead with ⟨none, _⟩ | ⟨chosen, _, settled, _⟩
    · exact none
    · simp [unsettled] at settled

/-- Definitions are read back from behind the fields of the top level. -/
theorem definitionsOf_written {schema : Schema} (faithful : schema.Faithful)
    (chosen : DefinitionsKey) :
    definitionsOf (schema.root.fields
      ++ [(chosen.text, .object (Table.mapValues Node.toJson schema.definitions))]) =
        .ok (schema.definitions, some chosen) := by
  have absent (key : DefinitionsKey) : schema.root.fields.lookup key.text = none :=
    (Table.lookup_eq_none_iff_not_mem _ _).mpr (faithful.apart key)
  have first : schema.root.fields.lookup "definitions" = none := absent .definitions
  have second : schema.root.fields.lookup "$defs" = none := absent .defs
  have read : Node.tableOfJson (Pointer.root.child chosen.text)
      (Table.mapValues Node.toJson schema.definitions) = .ok schema.definitions :=
    Node.tableOfJson_written fun entry member place =>
      (faithful.definitions entry member).ofJson_toJson place
  cases chosen with
  | definitions =>
    rw [DefinitionsKey.text] at read ⊢
    simp [definitionsOf, List.lookup_append, List.lookup_cons, first, second, read,
      DefinitionsKey.text]
  | defs =>
    rw [DefinitionsKey.text] at read ⊢
    simp [definitionsOf, List.lookup_append, List.lookup_cons, first, second, read,
      DefinitionsKey.text]

/-- A schema is read as soon as its parts are. -/
theorem ofJson_of_parts {fields top : Fields} {schema : Schema}
    (definitionsRead : definitionsOf fields = .ok (schema.definitions, schema.writtenKey))
    (kept : Table.erase (Table.erase fields "definitions") "$defs" = top)
    (rootRead : Node.ofFields .root top = .ok schema.root) : ofJson (.object fields) = .ok schema := by
  rw [ofJson, definitionsRead, kept]
  simp only [rootRead]

/-- A faithful schema is read back as it is. -/
theorem Faithful.ofJson_toJson {schema : Schema} (faithful : schema.Faithful) :
    ofJson schema.toJson = .ok schema := by
  obtain ⟨top, fields⟩ := faithful.rootFields_eq
  have rootRead := faithful.root.ofJson_toJson .root rfl
  rw [top, Node.ofJson] at rootRead
  have first : "definitions" ∉ Table.keys schema.root.fields := faithful.apart .definitions
  have second : "$defs" ∉ Table.keys schema.root.fields := faithful.apart .defs
  cases settled : schema.writtenKey with
  | none =>
    have empty := faithful.settled settled
    have written : schema.toJson = .object schema.root.fields := by
      simp [toJson, settled, empty, fields]
    have definitionsRead : definitionsOf schema.root.fields =
        .ok (schema.definitions, schema.writtenKey) := by
      simp [definitionsOf, (Table.lookup_eq_none_iff_not_mem _ _).mpr first,
        (Table.lookup_eq_none_iff_not_mem _ _).mpr second, empty, settled]
    have kept : Table.erase (Table.erase schema.root.fields "definitions") "$defs" =
        schema.root.fields := by
      rw [Table.erase_of_not_mem first, Table.erase_of_not_mem second]
    rw [written, ofJson_of_parts definitionsRead kept rootRead]
  | some chosen =>
    have written : schema.toJson = .object (schema.root.fields
        ++ [(chosen.text, .object (Table.mapValues Node.toJson schema.definitions))]) := by
      simp [toJson, settled, fields, definitionsKey, Node.tableToJson_eq,
        Table.insert_of_not_mem (faithful.apart chosen)]
    have definitionsRead := definitionsOf_written faithful chosen
    rw [← settled] at definitionsRead
    have kept : Table.erase (Table.erase (schema.root.fields
        ++ [(chosen.text, .object (Table.mapValues Node.toJson schema.definitions))])
          "definitions") "$defs" = schema.root.fields := by
      rw [Table.erase_append first, Table.erase_append second]
      cases chosen <;> exact List.append_nil _
    rw [written, ofJson_of_parts definitionsRead kept rootRead]

end Schema

end SchemaBindings
