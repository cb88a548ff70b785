import SchemaBindings.Proofs.Trees
import SchemaBindings.Proofs.Values

/-!
# Reading keeps keys distinct

A node is read from the fields of an object in one of seven ways. `Node.Read` has them,
each with what it asks of the fields and which nodes it reads below, so that a fact
about reading is proved for each way by itself.

No object of a JSON value that a reader has built holds a key twice. The schema that is
read from such a value inherits this: the tables of its properties and its definitions
are objects of the value, key by key, and every node below is read from a value below.
This is where the passes get distinct keys from. An envelope around the schema leaves
it so.
-/
namespace SchemaBindings

namespace Node

/-- The ways in which a node is read from fields that can be a node. -/
inductive Read (pointer : Pointer) (fields : Fields) : Node → Prop
  | reference (target : String) (found : fields.lookup "$ref" = some (.string target)) :
    Read pointer fields (.reference target (Table.erase fields "$ref"))
  | composition (kind : CompositionKind) (others : List CompositionKind) (values : List Json)
    (branches : List Node) (direct : fields.lookup "$ref" = none)
    (composed : compositionsOf fields = kind :: others)
    (found : fields.lookup kind.keyword = some (.array values))
    (below : listOfJson (pointer.child kind.keyword) 0 values = .ok branches) :
    Read pointer fields (.composition kind branches (Table.erase fields kind.keyword))
  | object (properties : List (String × Node)) (required : Option (List String))
    (additional : Additional Node) (direct : fields.lookup "$ref" = none)
    (simple : compositionsOf fields = [])
    (asked : (hasObjectKeyword fields || typeIs fields "object") = true)
    (listed : propertiesOf pointer fields = .ok properties)
    (demanded : requiredOf fields = .ok required)
    (allowed : additionalOf pointer fields = .ok additional) :
    Read pointer fields (.object ⟨properties, Table.has fields "properties", required, additional,
      objectExtra fields⟩)
  | openArray (direct : fields.lookup "$ref" = none) (simple : compositionsOf fields = [])
    (other : (hasObjectKeyword fields || typeIs fields "object") = false)
    (asked : typeIs fields "array" = true) (absent : fields.lookup "items" = none) :
    Read pointer fields (.array .absent fields)
  | tuple (values : List Json) (items : List Node) (direct : fields.lookup "$ref" = none)
    (simple : compositionsOf fields = [])
    (other : (hasObjectKeyword fields || typeIs fields "object") = false)
    (found : fields.lookup "items" = some (.array values))
    (below : listOfJson (pointer.child "items") 0 values = .ok items) :
    Read pointer fields (.array (.tuple items) (Table.erase fields "items"))
  | single (value : Json) (item : Node) (direct : fields.lookup "$ref" = none)
    (simple : compositionsOf fields = [])
    (other : (hasObjectKeyword fields || typeIs fields "object") = false)
    (found : fields.lookup "items" = some value) (alone : ∀ values, value ≠ .array values)
    (below : ofJson (pointer.child "items") value = .ok item) :
    Read pointer fields (.array (.single item) (Table.erase fields "items"))
  | scalar (direct : fields.lookup "$ref" = none) (simple : compositionsOf fields = [])
    (other : (hasObjectKeyword fields || typeIs fields "object") = false)
    (flat : (Table.has fields "items" || typeIs fields "array") = false) :
    Read pointer fields (.scalar fields)

/-- A node that has been read has been read in one of these ways, from fields whose keywords go
together. -/
theorem ofFields_read {pointer : Pointer} {fields : Fields} {node : Node}
    (read : ofFields pointer fields = .ok node) :
    keywordFault pointer.isRoot fields = none ∧ Read pointer fields node := by
  rw [ofFields] at read
  split at read
  case h_1 => contradiction
  case h_2 sound =>
    refine ⟨sound, ?_⟩
    split at read
    case h_1 target found =>
      obtain rfl := Except.ok.inj read
      exact .reference target found
    case h_2 => contradiction
    case h_3 direct =>
      split at read
      case h_1 kind others composed =>
        split at read
        case h_1 values found =>
          split at read
          case h_1 branches below =>
            obtain rfl := Except.ok.inj read
            exact .composition kind others values branches direct composed found below
          case h_2 => contradiction
        case h_2 => contradiction
      case h_2 simple =>
        split at read
        case isTrue asked =>
          split at read
          case h_1 => contradiction
          case h_2 properties listed =>
            split at read
            case h_1 => contradiction
            case h_2 required demanded =>
              split at read
              case h_1 => contradiction
              case h_2 additional allowed =>
                obtain rfl := Except.ok.inj read
                exact .object properties required additional direct simple asked listed demanded
                  allowed
        case isFalse other =>
          rw [Bool.not_eq_true] at other
          split at read
          case isTrue asked =>
            split at read
            case h_1 absent =>
              obtain rfl := Except.ok.inj read
              refine .openArray direct simple other ?_ absent
              simpa [Table.has, absent] using asked
            case h_2 values found =>
              split at read
              case h_1 items below =>
                obtain rfl := Except.ok.inj read
                exact .tuple values items direct simple other found below
              case h_2 => contradiction
            case h_3 value alone found =>
              split at read
              case h_1 item below =>
                obtain rfl := Except.ok.inj read
                exact .single value item direct simple other found alone below
              case h_2 => contradiction
          case isFalse flat =>
            obtain rfl := Except.ok.inj read
            exact .scalar direct simple other (by simpa using flat)

/-- A tree has distinct keys exactly if its top and all trees below it do. -/
theorem distinct_iff (node : Node) :
    node.Distinct ↔ (∀ shape ∈ node.own, (Table.keys shape.properties).Nodup) ∧
      ∀ child ∈ node.children, child.Distinct := by
  rw [Distinct, shapes_eq]
  constructor
  · intro distinct
    refine ⟨fun shape member => distinct shape (List.mem_append_left _ member), ?_⟩
    intro child member shape listed
    exact distinct shape (List.mem_append_right _ (List.mem_flatMap.mpr ⟨child, member, listed⟩))
  · rintro ⟨top, below⟩ shape member
    rcases List.mem_append.mp member with member | member
    · exact top shape member
    · obtain ⟨child, present, listed⟩ := List.mem_flatMap.mp member
      exact below child present shape listed

/-- A tree without an object at its top is as distinct as the trees below it. -/
theorem distinct_of_children {node : Node} (none : node.own = [])
    (below : ∀ child ∈ node.children, child.Distinct) : node.Distinct :=
  node.distinct_iff.mpr ⟨by simp [none], below⟩

mutual

/-- A node that is read from a value without repeated keys has distinct keys. -/
theorem ofJson_distinct {pointer : Pointer} {node : Node} :
    {value : Json} → ofJson pointer value = .ok node → value.Distinct → node.Distinct
  | .bool value, read, _ => by
    rw [ofJson] at read
    obtain rfl := Except.ok.inj read
    exact distinct_of_children rfl (by simp [children])
  | .object fields, read, distinct => by
    rw [ofJson] at read
    exact ofFields_distinct read ((Json.distinct_object fields).mp distinct).2
  | .null, read, _ => by simp [ofJson] at read
  | .number value, read, _ => by simp [ofJson] at read
  | .string value, read, _ => by simp [ofJson] at read
  | .array items, read, _ => by simp [ofJson] at read
termination_by value => 2 * sizeOf value
decreasing_by
  simp only [Json.object.sizeOf_spec]
  omega

/-- The same for the fields of an object, which may be what is left of them. -/
theorem ofFields_distinct {pointer : Pointer} {fields : Fields} {node : Node}
    (read : ofFields pointer fields = .ok node) (distinct : ∀ field ∈ fields, field.2.Distinct) :
    node.Distinct := by
  obtain ⟨_, read⟩ := ofFields_read read
  cases read with
  | reference target found => exact distinct_of_children rfl (by simp [children])
  | composition kind others values branches direct composed found below =>
    exact distinct_of_children rfl (listOfJson_distinct below
      ((Json.distinct_array values).mp (distinct _ (Table.mem_of_lookup found))))
  | object properties required additional direct simple asked listed demanded allowed =>
    obtain ⟨once, below⟩ := propertiesOf_distinct listed distinct
    refine (distinct_iff _).mpr ⟨by simpa [own] using once, fun child member => ?_⟩
    rcases List.mem_append.mp member with member | member
    · obtain ⟨entry, listed, rfl⟩ := List.mem_map.mp member
      exact below entry listed
    · exact additionalOf_distinct allowed distinct child member
  | openArray direct simple other asked absent =>
    exact distinct_of_children rfl (by simp [children, Items.nodes])
  | tuple values items direct simple other found below =>
    exact distinct_of_children rfl (listOfJson_distinct below
      ((Json.distinct_array values).mp (distinct _ (Table.mem_of_lookup found))))
  | single value item direct simple other found alone below =>
    refine distinct_of_children rfl fun child member => ?_
    obtain rfl := List.mem_singleton.mp member
    exact ofJson_distinct below (distinct _ (Table.mem_of_lookup found))
  | scalar direct simple other flat => exact distinct_of_children rfl (by simp [children])
termination_by 2 * sizeOf fields + 1
decreasing_by
  all_goals first
    | omega
    | (have smaller := sizeOf_lookup found
       try simp only [Json.array.sizeOf_spec] at smaller
       omega)

/-- The properties that are read from fields stand under distinct keys. -/
theorem propertiesOf_distinct {pointer : Pointer} {fields : Fields} {properties : Table Node}
    (read : propertiesOf pointer fields = .ok properties)
    (distinct : ∀ field ∈ fields, field.2.Distinct) :
    (Table.keys properties).Nodup ∧ ∀ entry ∈ properties, entry.2.Distinct := by
  rw [propertiesOf] at read
  split at read
  case h_1 =>
    obtain rfl := Except.ok.inj read
    simp [Table.keys]
  case h_2 table found =>
    obtain ⟨once, each⟩ :=
      (Json.distinct_object table).mp (distinct _ (Table.mem_of_lookup found))
    have smaller : sizeOf table < sizeOf fields := by
      have bound := sizeOf_lookup found
      simp only [Json.object.sizeOf_spec] at bound
      omega
    obtain ⟨same, below⟩ := tableOfJson_distinct read each
    exact ⟨same ▸ once, below⟩
  case h_3 => contradiction
termination_by 2 * sizeOf fields
decreasing_by
  omega

/-- What is allowed beyond the properties has distinct keys. -/
theorem additionalOf_distinct {pointer : Pointer} {fields : Fields} {additional : Additional Node}
    (read : additionalOf pointer fields = .ok additional)
    (distinct : ∀ field ∈ fields, field.2.Distinct) :
    ∀ child ∈ additional.nodes, child.Distinct := by
  rw [additionalOf] at read
  split at read
  case h_1 =>
    obtain rfl := Except.ok.inj read
    simp [Additional.nodes]
  case h_2 =>
    obtain rfl := Except.ok.inj read
    simp [Additional.nodes]
  case h_3 value _ found =>
    have smaller : sizeOf value < sizeOf fields := sizeOf_lookup found
    split at read
    case h_1 node below =>
      have held : node.Distinct := ofJson_distinct below (distinct _ (Table.mem_of_lookup found))
      obtain rfl := Except.ok.inj read
      simpa [Additional.nodes] using held
    case h_2 => contradiction
termination_by 2 * sizeOf fields
decreasing_by
  omega

/-- The nodes of a table stand under the keys of the table. -/
theorem tableOfJson_distinct {pointer : Pointer} {nodes : Table Node} :
    {table : Fields} → tableOfJson pointer table = .ok nodes → (∀ field ∈ table, field.2.Distinct) →
      Table.keys nodes = Table.keys table ∧ ∀ entry ∈ nodes, entry.2.Distinct
  | [], read, _ => by
    rw [tableOfJson] at read
    obtain rfl := Except.ok.inj read
    simp [Table.keys]
  | (name, value) :: rest, read, distinct => by
    rw [tableOfJson] at read
    split at read
    case h_1 => contradiction
    case h_2 node first =>
      split at read
      case h_1 => contradiction
      case h_2 others below =>
        obtain rfl := Except.ok.inj read
        have held := ofJson_distinct first (distinct _ List.mem_cons_self)
        obtain ⟨same, later⟩ := tableOfJson_distinct below fun field member =>
          distinct field (List.mem_cons_of_mem _ member)
        exact ⟨congrArg (name :: ·) same, List.forall_mem_cons.mpr ⟨held, later⟩⟩
termination_by table => 2 * sizeOf table

/-- The nodes of a list have distinct keys. -/
theorem listOfJson_distinct {pointer : Pointer} {index : Nat} {nodes : List Node} :
    {values : List Json} → listOfJson pointer index values = .ok nodes →
      (∀ value ∈ values, value.Distinct) → ∀ node ∈ nodes, node.Distinct
  | [], read, _ => by
    rw [listOfJson] at read
    obtain rfl := Except.ok.inj read
    simp
  | value :: rest, read, distinct => by
    rw [listOfJson] at read
    split at read
    case h_1 => contradiction
    case h_2 node first =>
      split at read
      case h_1 => contradiction
      case h_2 others below =>
        obtain rfl := Except.ok.inj read
        have held := ofJson_distinct first (distinct _ List.mem_cons_self)
        have later := listOfJson_distinct below fun value member =>
          distinct value (List.mem_cons_of_mem _ member)
        exact List.forall_mem_cons.mpr ⟨held, later⟩
termination_by values => 2 * sizeOf values

end

end Node

namespace Schema

/-- Definitions are read from the one table that is there, and if there is none they are empty. -/
theorem definitionsOf_read {fields : Fields} {definitions : Table Node}
    {key : Option DefinitionsKey} (read : definitionsOf fields = .ok (definitions, key)) :
    (definitions = [] ∧ key = none ∧ fields.lookup "definitions" = none ∧
      fields.lookup "$defs" = none) ∨
    ∃ chosen table, key = some chosen ∧ fields.lookup chosen.text = some (.object table) ∧
      Node.tableOfJson (Pointer.root.child chosen.text) table = .ok definitions := by
  simp only [definitionsOf] at read
  split at read
  case h_1 => contradiction
  case h_2 value found _ =>
    split at read
    case h_1 table =>
      split at read
      case h_1 nodes below =>
        obtain ⟨rfl, rfl⟩ := Prod.mk.inj (Except.ok.inj read)
        exact .inr ⟨.definitions, table, rfl, found, below⟩
      case h_2 => contradiction
    case h_2 => contradiction
  case h_3 value _ found =>
    split at read
    case h_1 table =>
      split at read
      case h_1 nodes below =>
        obtain ⟨rfl, rfl⟩ := Prod.mk.inj (Except.ok.inj read)
        exact .inr ⟨.defs, table, rfl, found, below⟩
      case h_2 => contradiction
    case h_2 => contradiction
  case h_4 absent missing =>
    obtain ⟨rfl, rfl⟩ := Prod.mk.inj (Except.ok.inj read)
    exact .inl ⟨rfl, rfl, absent, missing⟩

/-- The definitions that are read from fields stand under distinct keys. -/
theorem definitionsOf_distinct {fields : Fields} {definitions : Table Node}
    {key : Option DefinitionsKey} (read : definitionsOf fields = .ok (definitions, key))
    (distinct : ∀ field ∈ fields, field.2.Distinct) :
    (Table.keys definitions).Nodup ∧ ∀ entry ∈ definitions, entry.2.Distinct := by
  rcases definitionsOf_read read with ⟨rfl, _⟩ | ⟨chosen, table, _, found, below⟩
  · simp [Table.keys]
  · obtain ⟨once, each⟩ :=
      (Json.distinct_object table).mp (distinct _ (Table.mem_of_lookup found))
    obtain ⟨same, below⟩ := Node.tableOfJson_distinct below each
    exact ⟨same ▸ once, below⟩

/-- A schema has distinct keys exactly if its table of definitions and all its trees do. -/
theorem distinct_iff (schema : Schema) :
    schema.Distinct ↔ (Table.keys schema.definitions).Nodup ∧ schema.root.Distinct ∧
      ∀ entry ∈ schema.definitions, entry.2.Distinct := by
  constructor
  · intro distinct
    exact ⟨distinct.definitions, distinct.root, distinct.definition⟩
  · rintro ⟨definitions, root, each⟩
    refine ⟨definitions, fun shape member => ?_⟩
    rw [shapes_eq] at member
    rcases List.mem_append.mp member with member | member
    · exact root shape member
    · obtain ⟨entry, present, listed⟩ := List.mem_flatMap.mp member
      exact each entry present shape listed

/-- A schema that is read from a value without repeated keys has distinct keys. -/
theorem ofJson_distinct {value : Json} {schema : Schema} (read : ofJson value = .ok schema)
    (distinct : value.Distinct) : schema.Distinct := by
  cases value with
  | object fields =>
    have held := ((Json.distinct_object fields).mp distinct).2
    rw [ofJson] at read
    split at read
    case h_1 => contradiction
    case h_2 definitions key table =>
      split at read
      case h_1 root top =>
        obtain rfl := Except.ok.inj read
        obtain ⟨once, each⟩ := definitionsOf_distinct table held
        have above := Node.ofFields_distinct top fun field member =>
          held field (Table.mem_of_mem_erase (Table.mem_of_mem_erase member))
        exact (distinct_iff _).mpr ⟨once, above, each⟩
      case h_2 => contradiction
  | null => simp [ofJson] at read
  | bool value => simp [ofJson] at read
  | number value => simp [ofJson] at read
  | string value => simp [ofJson] at read
  | array items => simp [ofJson] at read

/-- An enveloped schema has distinct keys as well. -/
theorem Distinct.enveloped {schema : Schema} (distinct : schema.Distinct) (envelope : Envelope) :
    (schema.enveloped envelope).Distinct :=
  (distinct_iff _).mpr
    ⟨distinct.definitions, Node.distinct_of_children rfl (by simp [Schema.enveloped, Node.children]),
      distinct.definition⟩

end Schema

end SchemaBindings
