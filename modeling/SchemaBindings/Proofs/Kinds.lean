import SchemaBindings.Proofs.Reading

/-!
# Kinds of nodes

A document does not say which kind of node a schema in it is: reading decides on it by
the keywords that are present and by the type, and by nothing else. `NodeKind.ofFields`
is this decision alone. Two objects with the same keys and the same type are read as
nodes of one kind, whatever their values are, and this is what brings a node back that
has been written.

Each kind of node has keywords of its own, which it holds in typed parts. `held` is what
is written for these parts, and a node that does not keep such a keyword a second time
is written as what it keeps, followed by what it holds.
-/
namespace SchemaBindings

/-- The kinds of nodes that are read from objects. -/
inductive NodeKind where
  | reference
  | composition (kind : CompositionKind)
  | object
  | array
  | scalar
deriving DecidableEq, Repr

/-- Two objects have the same marks if they have the same keys and the same type. -/
structure SameMarks (left right : Fields) : Prop where
  keys : ∀ key, Table.has left key = Table.has right key
  type : left.lookup "type" = right.lookup "type"

namespace SameMarks

variable {left right : Fields}

/-- Fields with the same marks have the same compositions. -/
theorem compositionsOf_eq (same : SameMarks left right) :
    compositionsOf left = compositionsOf right := by
  simp only [compositionsOf, same.keys]

/-- They have keywords of objects both, or neither has. -/
theorem hasObjectKeyword_eq (same : SameMarks left right) :
    hasObjectKeyword left = hasObjectKeyword right := by
  simp only [hasObjectKeyword, same.keys]

/-- They say by their type that they are the same, or say nothing both. -/
theorem typeIs_eq (same : SameMarks left right) (name : String) :
    typeIs left name = typeIs right name := by
  simp only [typeIs, same.type]

/-- Objects with the same marks have the same fault. -/
theorem keywordFault_eq (same : SameMarks left right) (isRoot : Bool) :
    keywordFault isRoot left = keywordFault isRoot right := by
  simp only [keywordFault, shapesOf, same.keys, same.compositionsOf_eq, same.hasObjectKeyword_eq]
  rfl

end SameMarks

namespace NodeKind

/-- The keywords for which nodes of a kind have parts of their own, in the order in which they are
written. -/
def keywords : NodeKind → List String
  | .reference => ["$ref"]
  | .composition kind => [kind.keyword]
  | .object => ["properties", "required", "additionalProperties"]
  | .array => ["items"]
  | .scalar => []

/-- The kind of node that the keywords and the type of a schema decide on. -/
def ofFields (fields : Fields) : NodeKind :=
  if Table.has fields "$ref" then .reference
  else
    match compositionsOf fields with
    | kind :: _ => .composition kind
    | [] =>
      if hasObjectKeyword fields || typeIs fields "object" then .object
      else if Table.has fields "items" || typeIs fields "array" then .array
      else .scalar

/-- Objects with the same marks are read as nodes of one kind. -/
theorem ofFields_eq {left right : Fields} (same : SameMarks left right) :
    ofFields left = ofFields right := by
  simp only [ofFields, same.keys, same.compositionsOf_eq, same.hasObjectKeyword_eq, same.typeIs_eq]

/-- No kind of node has a part for the type, by which kinds are told apart. -/
theorem type_not_mem_keywords (kind : NodeKind) : "type" ∉ kind.keywords := by
  cases kind with
  | composition kind => cases kind <;> decide
  | _ => decide

/-- What has to hold of the keywords and the type of a schema that is read as a node of some kind. -/
def Asks (fields : Fields) : NodeKind → Prop
  | .reference => Table.has fields "$ref" = true
  | .composition kind =>
    fields.lookup "$ref" = none ∧ ∃ others, compositionsOf fields = kind :: others
  | .object =>
    fields.lookup "$ref" = none ∧ compositionsOf fields = [] ∧
      (hasObjectKeyword fields || typeIs fields "object") = true
  | .array =>
    fields.lookup "$ref" = none ∧ compositionsOf fields = [] ∧
      (hasObjectKeyword fields || typeIs fields "object") = false ∧
      (Table.has fields "items" || typeIs fields "array") = true
  | .scalar =>
    fields.lookup "$ref" = none ∧ compositionsOf fields = [] ∧
      (hasObjectKeyword fields || typeIs fields "object") = false ∧
      (Table.has fields "items" || typeIs fields "array") = false

/-- The kind that is decided on is the one whose demands are met. -/
theorem asks_ofFields (fields : Fields) : (ofFields fields).Asks fields := by
  unfold ofFields
  split
  case isTrue present => exact present
  case isFalse absent =>
    have direct : fields.lookup "$ref" = none := by
      rw [Table.lookup_eq_none_iff_not_mem, ← Table.has_iff]
      exact absent
    split
    case h_1 kind others composed => exact ⟨direct, others, composed⟩
    case h_2 simple =>
      split
      case isTrue asked => exact ⟨direct, simple, asked⟩
      case isFalse other =>
        rw [Bool.not_eq_true] at other
        split
        case isTrue asked => exact ⟨direct, simple, other, asked⟩
        case isFalse flat => exact ⟨direct, simple, other, by simpa using flat⟩

section Exclusion

variable {isRoot : Bool} {fields : Fields}

/-- Keywords that go together ask for one shape and for one composition at most. -/
theorem shapes_le_one (faultless : keywordFault isRoot fields = none) :
    (shapesOf fields).length ≤ 1 ∧ (compositionsOf fields).length ≤ 1 := by
  rw [keywordFault] at faultless
  split at faultless
  case h_1 => contradiction
  case h_2 =>
    split at faultless
    case isTrue => contradiction
    case isFalse =>
      simp only at faultless
      split at faultless
      case isTrue => contradiction
      case isFalse few => simpa [not_or] using few

/-- Each shape is asked for by keywords of its own. -/
theorem length_shapesOf (fields : Fields) :
    (shapesOf fields).length = (Table.has fields "$ref").toNat + (hasObjectKeyword fields).toNat
      + (Table.has fields "items").toNat + (!(compositionsOf fields).isEmpty).toNat := by
  simp only [shapesOf, List.length_append]
  cases Table.has fields "$ref" <;> cases hasObjectKeyword fields <;>
    cases Table.has fields "items" <;> cases (compositionsOf fields).isEmpty <;> rfl

/-- Keywords that go together ask for one shape alone, so that any two of four are not both asked
for. -/
theorem one_shape (faultless : keywordFault isRoot fields = none) :
    (Table.has fields "$ref").toNat + (hasObjectKeyword fields).toNat
      + (Table.has fields "items").toNat + (!(compositionsOf fields).isEmpty).toNat ≤ 1 :=
  length_shapesOf fields ▸ (shapes_le_one faultless).1

/-- An object keyword, where keywords go together, makes a node an object. -/
theorem ofFields_of_objectKeyword (faultless : keywordFault isRoot fields = none)
    (keyword : hasObjectKeyword fields = true) : ofFields fields = .object := by
  have one := one_shape faultless
  rw [keyword, Bool.toNat_true] at one
  have direct : Table.has fields "$ref" = false := Bool.toNat_eq_zero.mp (by omega)
  have empty : (!(compositionsOf fields).isEmpty) = false := Bool.toNat_eq_zero.mp (by omega)
  have simple : compositionsOf fields = [] := by simpa using empty
  simp [ofFields, direct, simple, keyword]

/-- A composition, where keywords go together, makes a node a composition. -/
theorem ofFields_of_composition (faultless : keywordFault isRoot fields = none)
    {kind : CompositionKind} (keyword : Table.has fields kind.keyword = true) :
    ofFields fields = .composition kind := by
  have one := one_shape faultless
  have member : kind ∈ compositionsOf fields := by
    rw [compositionsOf, List.mem_filter]
    exact ⟨by cases kind <;> decide, keyword⟩
  have alone : compositionsOf fields = [kind] := by
    obtain ⟨other, same⟩ := List.length_eq_one_iff.mp
      (Nat.le_antisymm (shapes_le_one faultless).2 (List.length_pos_of_mem member))
    rw [same] at member
    rw [same, List.mem_singleton.mp member]
  rw [alone, List.isEmpty_cons, Bool.not_false, Bool.toNat_true] at one
  have direct : Table.has fields "$ref" = false := Bool.toNat_eq_zero.mp (by omega)
  simp [ofFields, direct, alone]

/-- Items, where keywords go together, make a node an array, unless its type is that of objects. Then
it is an object without any keyword of objects. -/
theorem ofFields_of_items (faultless : keywordFault isRoot fields = none)
    (keyword : Table.has fields "items" = true) :
    hasObjectKeyword fields = false ∧
      ofFields fields = if typeIs fields "object" then .object else .array := by
  have one := one_shape faultless
  rw [keyword, Bool.toNat_true] at one
  have direct : Table.has fields "$ref" = false := Bool.toNat_eq_zero.mp (by omega)
  have other : hasObjectKeyword fields = false := Bool.toNat_eq_zero.mp (by omega)
  have empty : (!(compositionsOf fields).isEmpty) = false := Bool.toNat_eq_zero.mp (by omega)
  have simple : compositionsOf fields = [] := by simpa using empty
  rw [ofFields, direct, simple, other, keyword]
  simp

end Exclusion

end NodeKind

namespace Node

/-- The kind of a node; a boolean is no object and has none. -/
def kind : Node → Option NodeKind
  | .object _ => some .object
  | .array _ _ => some .array
  | .composition kind _ _ => some (.composition kind)
  | .reference _ _ => some .reference
  | .scalar _ => some .scalar
  | .bool _ => none

/-- The keywords that a node keeps as they are. -/
def extra : Node → Fields
  | .object shape => shape.extra
  | .array _ extra => extra
  | .composition _ _ extra => extra
  | .reference _ extra => extra
  | .scalar extra => extra
  | .bool _ => []

end Node

/-- What is written for required names. -/
def requiredHeld : Option (List String) → Fields
  | none => []
  | some names => [("required", .array (names.map .string))]

/-- What is written for what an object may have beyond its properties. -/
def Additional.held : Additional Node → Fields
  | .absent => []
  | .allowed value => [("additionalProperties", .bool value)]
  | .schema node => [("additionalProperties", node.toJson)]

/-- What is written for the parts of an object node. -/
def ObjectShape.held (shape : ObjectNode) : Fields :=
  (if shape.declared || !shape.properties.isEmpty then
    [("properties", .object (Table.mapValues Node.toJson shape.properties))] else [])
  ++ requiredHeld shape.required ++ shape.additional.held

namespace Node

/-- What is written for the typed parts of a node. -/
def held : Node → Fields
  | .object shape => shape.held
  | .array .absent _ => []
  | .array (.single item) _ => [("items", item.toJson)]
  | .array (.tuple items) _ => [("items", .array (items.map toJson))]
  | .composition kind branches _ => [(kind.keyword, .array (branches.map toJson))]
  | .reference target _ => [("$ref", .string target)]
  | .scalar _ => []
  | .bool _ => []

/-- All that is written for a node: what it keeps, and then what it holds. -/
def fields (node : Node) : Fields := node.extra ++ node.held

/-- The nodes of a list are written one by one. -/
theorem listToJson_eq (nodes : List Node) : listToJson nodes = nodes.map toJson := by
  induction nodes with
  | nil => rfl
  | cons node rest inductionHypothesis => simp [listToJson, inductionHypothesis]

/-- The nodes of a table are written one by one, under the same names. -/
theorem tableToJson_eq (table : Table Node) : tableToJson table = Table.mapValues toJson table := by
  induction table with
  | nil => rfl
  | cons entry rest inductionHypothesis =>
    simp [tableToJson, inductionHypothesis, Table.mapValues]

/-- What is written for the parts of a node stands under keywords of its kind. -/
theorem keys_held_subset {node : Node} {kind : NodeKind} (of : node.kind = some kind) :
    Table.keys node.held ⊆ kind.keywords := by
  cases node with
  | object shape =>
    obtain ⟨properties, declared, required, additional, extra⟩ := shape
    obtain rfl := Option.some.inj of
    simp only [held, ObjectShape.held, requiredHeld, Additional.held, NodeKind.keywords, Table.keys]
    cases required <;> cases additional <;> split <;> simp
  | array items extra =>
    obtain rfl := Option.some.inj of
    cases items <;> simp [held, NodeKind.keywords, Table.keys]
  | composition kind branches extra =>
    obtain rfl := Option.some.inj of
    simp [held, NodeKind.keywords, Table.keys]
  | reference target extra =>
    obtain rfl := Option.some.inj of
    simp [held, NodeKind.keywords, Table.keys]
  | scalar extra => simp [held, Table.keys]
  | bool value => contradiction

/-- A node that keeps no keyword of its kind is written as what it keeps, followed by what it
holds. -/
theorem toJson_eq_object {node : Node} {kind : NodeKind} (of : node.kind = some kind)
    (apart : ∀ keyword ∈ kind.keywords, keyword ∉ Table.keys node.extra) :
    node.toJson = .object node.fields := by
  cases node with
  | object shape =>
    obtain ⟨properties, declared, required, additional, extra⟩ := shape
    obtain rfl := Option.some.inj of
    simp only [NodeKind.keywords, List.forall_mem_cons] at apart
    obtain ⟨noProperties, noRequired, noAdditional, _⟩ := apart
    simp only [Node.extra] at noProperties noRequired noAdditional
    cases written : (declared || !properties.isEmpty) <;> cases required <;> cases additional <;>
      simp [toJson, fields, Node.extra, held, ObjectShape.held, requiredHeld, Additional.held,
        tableToJson_eq, written, Table.insert_of_not_mem, noProperties, noRequired, noAdditional]
  | array items extra =>
    obtain rfl := Option.some.inj of
    have absent : "items" ∉ Table.keys extra := apart "items" List.mem_cons_self
    cases items <;>
      simp [toJson, fields, Node.extra, held, listToJson_eq, Table.insert_of_not_mem absent]
  | composition kind branches extra =>
    obtain rfl := Option.some.inj of
    have absent : kind.keyword ∉ Table.keys extra := apart kind.keyword List.mem_cons_self
    simp [toJson, fields, Node.extra, held, listToJson_eq, Table.insert_of_not_mem absent]
  | reference target extra =>
    obtain rfl := Option.some.inj of
    have absent : "$ref" ∉ Table.keys extra := apart "$ref" List.mem_cons_self
    simp [toJson, fields, Node.extra, held, Table.insert_of_not_mem absent]
  | scalar extra => simp [toJson, fields, Node.extra, held]
  | bool value => contradiction

/-- Reading gives a node exactly if the fields have no fault and the node is read in one of the
ways. -/
theorem ofFields_ok_iff (pointer : Pointer) (fields : Fields) (node : Node) :
    ofFields pointer fields = .ok node ↔
      keywordFault pointer.isRoot fields = none ∧ Read pointer fields node := by
  refine ⟨ofFields_read, ?_⟩
  rintro ⟨faultless, read⟩
  cases read with
  | reference target found => simp [ofFields, faultless, found]
  | composition kind others values branches direct composed found below =>
    simp only [ofFields, faultless, direct, composed]
    split
    case h_1 read present =>
      obtain rfl := Json.array.inj (Option.some.inj (found.symm.trans present))
      simp only [below]
    case h_2 other => exact absurd found (other values)
  | object properties required additional direct simple asked listed demanded allowed =>
    simp [ofFields, faultless, direct, simple, asked, listed, demanded, allowed]
  | openArray direct simple other asked absent =>
    simp only [ofFields, faultless, direct, simple, other, asked, Bool.or_true, Bool.false_eq_true,
      if_false, if_true]
    split
    case h_1 => rfl
    case h_2 present => simp [absent] at present
    case h_3 present => simp [absent] at present
  | tuple values items direct simple other found below =>
    simp only [ofFields, faultless, direct, simple, other, Table.has, found, Option.isSome_some,
      Bool.true_or, Bool.false_eq_true, if_false, if_true]
    split
    case h_1 absent => simp [found] at absent
    case h_2 read present =>
      obtain rfl := Json.array.inj (Option.some.inj (found.symm.trans present))
      simp only [below]
    case h_3 read alone present => exact absurd (Option.some.inj (present.symm.trans found)) (alone values)
  | single value item direct simple other found alone below =>
    simp only [ofFields, faultless, direct, simple, other, Table.has, found, Option.isSome_some,
      Bool.true_or, Bool.false_eq_true, if_false, if_true]
    split
    case h_1 absent => simp [found] at absent
    case h_2 read present => exact absurd (Option.some.inj (found.symm.trans present)) (alone read)
    case h_3 read _ present =>
      obtain rfl := Option.some.inj (found.symm.trans present)
      simp only [below]
  | scalar direct simple other flat => simp [ofFields, faultless, direct, simple, other, flat]

/-- A node that is read is of the kind that its fields decide on. -/
theorem Read.kind_eq {pointer : Pointer} {fields : Fields} {node : Node}
    (read : Read pointer fields node) : node.kind = some (NodeKind.ofFields fields) := by
  cases read with
  | reference target found => simp [kind, NodeKind.ofFields, Table.has, found]
  | composition kind others values branches direct composed found below =>
    simp [Node.kind, NodeKind.ofFields, Table.has, direct, composed]
  | object properties required additional direct simple asked listed demanded allowed =>
    simp [kind, NodeKind.ofFields, Table.has, direct, simple, asked]
  | openArray direct simple other asked absent =>
    simp [kind, NodeKind.ofFields, Table.has, direct, simple, other, asked]
  | tuple values items direct simple other found below =>
    simp [kind, NodeKind.ofFields, Table.has, direct, simple, other, found]
  | single value item direct simple other found alone below =>
    simp [kind, NodeKind.ofFields, Table.has, direct, simple, other, found]
  | scalar direct simple other flat =>
    have direct : Table.has fields "$ref" = false := by simp [Table.has, direct]
    simp only [kind, NodeKind.ofFields, direct, simple, other, flat, Bool.false_eq_true, if_false]

/-- A table is read entry by entry, each under its key. -/
theorem tableOfJson_ok_iff (pointer : Pointer) (table : Fields) (nodes : Table Node) :
    tableOfJson pointer table = .ok nodes ↔
      List.Forall₂ (fun field entry => field.1 = entry.1 ∧
        ofJson (pointer.child field.1) field.2 = .ok entry.2) table nodes := by
  induction table generalizing nodes with
  | nil => cases nodes <;> simp [tableOfJson]
  | cons field rest inductionHypothesis =>
    obtain ⟨name, value⟩ := field
    simp only [List.forall₂_cons_left_iff, ← inductionHypothesis]
    rw [tableOfJson]
    cases first : ofJson (pointer.child name) value with
    | error error => simp
    | ok node =>
      cases below : tableOfJson pointer rest with
      | error error => simp
      | ok others => simp [eq_comm]

/-- A list is read item by item, each at its index. -/
theorem listOfJson_ok_iff (pointer : Pointer) (index : Nat) (values : List Json)
    (nodes : List Node) :
    listOfJson pointer index values = .ok nodes ↔
      List.Forall₂ (fun placed node => ofJson (pointer.item placed.2) placed.1 = .ok node)
        (values.zipIdx index) nodes := by
  induction values generalizing index nodes with
  | nil => cases nodes <;> simp [listOfJson]
  | cons value rest inductionHypothesis =>
    simp only [List.zipIdx_cons, List.forall₂_cons_left_iff, ← inductionHypothesis]
    rw [listOfJson]
    cases first : ofJson (pointer.item index) value with
    | error error => simp
    | ok node =>
      cases below : listOfJson pointer (index + 1) rest with
      | error error => simp
      | ok others => simp [eq_comm]

end Node

end SchemaBindings
