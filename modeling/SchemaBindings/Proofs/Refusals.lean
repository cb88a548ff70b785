import SchemaBindings.Proofs.PointerTexts

/-!
# Where a document is refused

Reading refuses a document with a pointer and a fault. Here the document is looked at
without reading it: which values of it are expected to be schemas, and which rules the
keywords of such a value can break. A document is refused exactly if one of its values
is at fault, and then the pointer of the refusal, read from its text, names in the
document itself a value that has the reported fault by its own keywords. This holds at
any depth and for any names of properties, although reading has taken away keywords
before it looks at a part, and builds the pointer on the way down.

One kind of schema hides a part of itself: if its type is that of objects, its items are
not read, and no schema is expected there.
-/
namespace SchemaBindings

open Pointer

/-- One of the keywords of a kind of nodes is present. -/
def NodeKind.Marked (fields : Fields) (kind : NodeKind) : Prop :=
  ∃ keyword ∈ kind.keywords, Table.has fields keyword = true

namespace Json

/-- The rules for schemas that the fields of an object break, each with its fault. Only the top
level may have definitions. -/
inductive Breaks (top : Bool) (fields : Fields) : ShapeFault → Prop
  | unsupported {keyword : String} (one : keyword ∈ unsupportedKeywords)
    (present : Table.has fields keyword = true) : Breaks top fields (.unsupportedKeyword keyword)
  | nested {key : DefinitionsKey} (below : top = false)
    (present : Table.has fields key.text = true) : Breaks top fields .nestedDefinitions
  | mixed {first second : NodeKind} (different : first ≠ second) (one : first.Marked fields)
    (other : second.Marked fields) :
    Breaks top fields (.mixes (shapesOf fields ++ (compositionsOf fields).map (·.keyword)))
  | reference {value : Json} (found : fields.lookup "$ref" = some value)
    (wrong : ∀ target, value ≠ .string target) : Breaks top fields .referenceNotString
  | composition {kind : CompositionKind} {value : Json}
    (found : fields.lookup kind.keyword = some value) (wrong : ∀ values, value ≠ .array values) :
    Breaks top fields (.compositionNotArray kind.keyword)
  | properties {value : Json} (found : fields.lookup "properties" = some value)
    (wrong : ∀ table, value ≠ .object table) : Breaks top fields .propertiesNotObject
  | required {value : Json} (found : fields.lookup "required" = some value)
    (wrong : ∀ values, value ≠ .array values) : Breaks top fields .requiredNotArray
  | requiredName {values : List Json} {value : Json}
    (found : fields.lookup "required" = some (.array values)) (listed : value ∈ values)
    (wrong : ∀ name, value ≠ .string name) : Breaks top fields .requiredNotStrings

/-- A value that is expected to be a schema directly below fields, and the place where it stands. -/
inductive Expects (fields : Fields) (place : Pointer) : Pointer → Json → Prop
  | property {table : Fields} {name : String} {value : Json}
    (found : fields.lookup "properties" = some (.object table)) (member : (name, value) ∈ table) :
    Expects fields place ((place.child "properties").child name) value
  | additional {value : Json} (found : fields.lookup "additionalProperties" = some value) :
    Expects fields place (place.child "additionalProperties") value
  | single {value : Json} (plain : typeIs fields "object" = false)
    (found : fields.lookup "items" = some value) (alone : ∀ values, value ≠ .array values) :
    Expects fields place (place.child "items") value
  | tuple {values : List Json} {index : Nat} {value : Json} (plain : typeIs fields "object" = false)
    (found : fields.lookup "items" = some (.array values)) (listed : values[index]? = some value) :
    Expects fields place ((place.child "items").item index) value
  | branch {kind : CompositionKind} {values : List Json} {index : Nat} {value : Json}
    (found : fields.lookup kind.keyword = some (.array values))
    (listed : values[index]? = some value) :
    Expects fields place ((place.child kind.keyword).item index) value

/-- The values of a document that are expected to be schemas: its fields, its definitions, and what
is expected below those of them that are objects. -/
inductive Expected (document : Json) : Pointer → Json → Prop
  | top {fields : Fields} (whole : document = .object fields) : Expected document .root document
  | definition {fields table : Fields} {key : DefinitionsKey} {name : String} {value : Json}
    (whole : document = .object fields) (found : fields.lookup key.text = some (.object table))
    (member : (name, value) ∈ table) :
    Expected document ((Pointer.root.child key.text).child name) value
  | step {place target : Pointer} {fields : Fields} {value : Json}
    (above : Expected document place (.object fields)) (next : Expects fields place target value) :
    Expected document target value

/-- The values of a document that are at fault, with their places. -/
inductive Faulty (document : Json) : Pointer → Json → ShapeFault → Prop
  | topLevel (wrong : ∀ fields, document ≠ .object fields) :
    Faulty document .root document .topLevelNotObject
  | bothTables {fields : Fields} (whole : document = .object fields)
    (both : ∀ key : DefinitionsKey, Table.has fields key.text = true) :
    Faulty document .root document .bothDefinitionTables
  | table {fields : Fields} {key : DefinitionsKey} {value : Json} (whole : document = .object fields)
    (found : fields.lookup key.text = some value) (wrong : ∀ table, value ≠ .object table) :
    Faulty document (Pointer.root.child key.text) value .definitionsNotObject
  | notSchema {place : Pointer} {value : Json} (expected : Expected document place value)
    (noBool : ∀ flag, value ≠ .bool flag) (noObject : ∀ fields, value ≠ .object fields) :
    Faulty document place value (.notASchema value.kindText)
  | keywords {place : Pointer} {fields : Fields} {fault : ShapeFault}
    (expected : Expected document place (.object fields))
    (broken : Breaks place.isRoot fields fault) : Faulty document place (.object fields) fault

end Json

/-! ## Rules about keywords -/

section Keywords

open NodeKind

variable {isRoot : Bool} {fields : Fields}

/-- A node is marked as a reference by the keyword alone. -/
@[simp] theorem marked_reference_iff :
    NodeKind.reference.Marked fields ↔ Table.has fields "$ref" = true := by
  simp [Marked, keywords]

/-- One of three keywords marks an object, and the type does not. -/
@[simp] theorem marked_object_iff :
    NodeKind.object.Marked fields ↔ hasObjectKeyword fields = true := by
  simp [Marked, keywords, hasObjectKeyword, or_assoc]

/-- An array is marked by its items, and the type does not mark one. -/
@[simp] theorem marked_array_iff :
    NodeKind.array.Marked fields ↔ Table.has fields "items" = true := by
  simp [Marked, keywords]

/-- A composition is marked by the keyword of its kind. -/
@[simp] theorem marked_composition_iff (kind : CompositionKind) :
    (NodeKind.composition kind).Marked fields ↔ kind ∈ compositionsOf fields := by
  have listed : kind ∈ CompositionKind.all := by cases kind <;> decide
  simp [Marked, keywords, compositionsOf, listed]

/-- A scalar has no mark: it is what remains without one. -/
@[simp] theorem not_marked_scalar : ¬ NodeKind.scalar.Marked fields := by
  simp [Marked, keywords]

/-- If the keywords that are present are all of one kind of nodes, they ask for one shape and one
composition at most. -/
theorem shapes_le_one_of_marked
    (alone : ∀ first second : NodeKind, first.Marked fields → second.Marked fields →
      first = second) :
    (shapesOf fields).length ≤ 1 ∧ (compositionsOf fields).length ≤ 1 := by
  have once : (compositionsOf fields).Nodup :=
    (by decide : CompositionKind.all.Nodup).filter _
  have few : (compositionsOf fields).length ≤ 1 := by
    rcases listed : compositionsOf fields with _ | ⟨kind, _ | ⟨other, others⟩⟩
    · exact Nat.zero_le 1
    · exact Nat.le_refl 1
    · have same := alone (.composition kind) (.composition other) (by simp [listed])
        (by simp [listed])
      rw [listed, NodeKind.composition.inj same] at once
      simp at once
  refine ⟨?_, few⟩
  rw [length_shapesOf]
  have referenceObject := alone .reference .object
  have referenceArray := alone .reference .array
  have objectArray := alone .object .array
  rcases listed : compositionsOf fields with _ | ⟨kind, others⟩
  · cases reference : Table.has fields "$ref" <;> cases object : hasObjectKeyword fields <;>
      cases items : Table.has fields "items" <;> simp_all
  · have compositionReference := alone (.composition kind) .reference
    have compositionObject := alone (.composition kind) .object
    have compositionArray := alone (.composition kind) .array
    cases reference : Table.has fields "$ref" <;> cases object : hasObjectKeyword fields <;>
      cases items : Table.has fields "items" <;> simp_all

/-- A keyword of a kind, where keywords go together, makes a node one of that kind, if it is not for
arrays. -/
theorem ofFields_of_marked (faultless : keywordFault isRoot fields = none) {kind : NodeKind}
    (marked : kind.Marked fields) (other : kind ≠ .array) : NodeKind.ofFields fields = kind := by
  cases kind with
  | reference => simp [ofFields, marked_reference_iff.mp marked]
  | composition kind =>
    obtain ⟨keyword, member, present⟩ := marked
    rw [List.mem_singleton.mp member] at present
    exact ofFields_of_composition faultless present
  | object => exact ofFields_of_objectKeyword faultless (marked_object_iff.mp marked)
  | array => contradiction
  | scalar => exact absurd marked not_marked_scalar

/-- A keyword of arrays, where keywords go together, is the only one for a kind of nodes. -/
theorem eq_array_of_marked (faultless : keywordFault isRoot fields = none)
    (items : NodeKind.array.Marked fields) {kind : NodeKind} (marked : kind.Marked fields) :
    kind = .array := by
  obtain ⟨bare, of⟩ := ofFields_of_items faultless (marked_array_iff.mp items)
  by_contra other
  rw [ofFields_of_marked faultless marked other] at of
  split at of
  case isTrue =>
    subst of
    simp [marked_object_iff.mp marked] at bare
  case isFalse => exact other of

/-- Keywords that go together are all of one kind of nodes. -/
theorem eq_of_marked (faultless : keywordFault isRoot fields = none) {first second : NodeKind}
    (one : first.Marked fields) (other : second.Marked fields) : first = second := by
  by_cases left : first = .array
  · subst left
    exact (eq_array_of_marked faultless one other).symm
  · by_cases right : second = .array
    · subst right
      exact eq_array_of_marked faultless other one
    · rw [← ofFields_of_marked faultless one left, ← ofFields_of_marked faultless other right]

/-- What keywords make impossible is a broken rule. -/
theorem breaks_of_keywordFault {fault : ShapeFault}
    (found : keywordFault isRoot fields = some fault) :
    Json.Breaks isRoot fields fault := by
  rw [keywordFault] at found
  split at found
  case h_1 keyword first =>
    obtain rfl := Option.some.inj found
    exact .unsupported (List.mem_of_find?_eq_some first) (by simpa using List.find?_some first)
  case h_2 =>
    split at found
    case isTrue nested =>
      obtain rfl := Option.some.inj found
      simp only [Bool.and_eq_true, Bool.not_eq_true', Bool.or_eq_true] at nested
      obtain ⟨below, present | present⟩ := nested
      · have written : Table.has fields DefinitionsKey.definitions.text = true := present
        exact .nested below written
      · have written : Table.has fields DefinitionsKey.defs.text = true := present
        exact .nested below written
    case isFalse =>
      simp only at found
      split at found
      case isTrue several =>
        obtain rfl := Option.some.inj found
        by_contra unbroken
        have few := shapes_le_one_of_marked fun first second one other => by
          by_contra different
          exact unbroken (.mixed different one other)
        rw [Bool.or_eq_true, decide_eq_true_eq, decide_eq_true_eq] at several
        omega
      case isFalse => contradiction

/-- Keywords that break a rule by themselves do not go together. -/
theorem not_breaks_keywords (faultless : keywordFault isRoot fields = none) :
    (∀ keyword ∈ unsupportedKeywords, Table.has fields keyword = false) ∧
      (isRoot = false → ∀ key : DefinitionsKey, Table.has fields key.text = false) := by
  rw [keywordFault] at faultless
  split at faultless
  case h_1 => contradiction
  case h_2 absent =>
    split at faultless
    case isTrue => contradiction
    case isFalse flat =>
      refine ⟨by simpa using absent, fun below key => ?_⟩
      subst below
      simp only [Bool.not_false, Bool.true_and, Bool.or_eq_true, not_or, Bool.not_eq_true] at flat
      cases key with
      | definitions => exact flat.1
      | defs => exact flat.2

end Keywords

/-! ## Refusals below a node -/

namespace Node

open Json

variable {pointer : Pointer} {fields : Fields} {error : SchemaError}

/-- A table is refused for one of its values, at the key of the value. -/
theorem tableOfJson_refused {table : Fields} (refused : tableOfJson pointer table = .error error) :
    ∃ name value, (name, value) ∈ table ∧ ofJson (pointer.child name) value = .error error := by
  induction table with
  | nil => simp [tableOfJson] at refused
  | cons field rest inductionHypothesis =>
    obtain ⟨name, value⟩ := field
    rw [tableOfJson] at refused
    split at refused
    case h_1 first =>
      obtain rfl := Except.error.inj refused
      exact ⟨name, value, List.mem_cons_self, first⟩
    case h_2 =>
      split at refused
      case h_1 later =>
        obtain rfl := Except.error.inj refused
        obtain ⟨name, value, member, found⟩ := inductionHypothesis later
        exact ⟨name, value, List.mem_cons_of_mem _ member, found⟩
      case h_2 => contradiction

/-- A list is refused for one of its values, at the index of the value. -/
theorem listOfJson_refused {values : List Json} {start : Nat}
    (refused : listOfJson pointer start values = .error error) :
    ∃ index value, values[index]? = some value ∧
      ofJson (pointer.item (start + index)) value = .error error := by
  induction values generalizing start with
  | nil => simp [listOfJson] at refused
  | cons first rest inductionHypothesis =>
    rw [listOfJson] at refused
    split at refused
    case h_1 found =>
      obtain rfl := Except.error.inj refused
      exact ⟨0, first, rfl, found⟩
    case h_2 =>
      split at refused
      case h_1 later =>
        obtain rfl := Except.error.inj refused
        obtain ⟨index, value, listed, found⟩ := inductionHypothesis later
        refine ⟨index + 1, value, listed, ?_⟩
        rwa [Nat.add_assoc, Nat.add_comm 1 index] at found
      case h_2 => contradiction

/-- Names are refused for a value that is no text. -/
theorem requiredNames_refused {values : List Json} {fault : ShapeFault}
    (refused : requiredNames values = .error fault) :
    fault = .requiredNotStrings ∧ ∃ value ∈ values, ∀ name, value ≠ .string name := by
  induction values with
  | nil => simp [requiredNames] at refused
  | cons first rest inductionHypothesis =>
    rw [requiredNames.eq_def] at refused
    split at refused
    case h_1 => contradiction
    case h_2 name others same =>
      obtain ⟨rfl, rfl⟩ := List.cons.inj same
      split at refused
      case h_1 => contradiction
      case h_2 later =>
        obtain rfl := Except.error.inj refused
        obtain ⟨named, value, member, wrong⟩ := inductionHypothesis later
        exact ⟨named, value, List.mem_cons_of_mem _ member, wrong⟩
    case h_3 value others wrong same =>
      obtain ⟨rfl, rfl⟩ := List.cons.inj same
      exact ⟨(Except.error.inj refused).symm, first, List.mem_cons_self,
        fun name met => wrong name met⟩

/-- The required names of an object node are refused by a rule about them. -/
theorem requiredOf_refused {fault : ShapeFault} (refused : requiredOf fields = .error fault)
    (top : Bool) : Breaks top fields fault := by
  rw [requiredOf] at refused
  split at refused
  case h_1 => contradiction
  case h_2 values found =>
    split at refused
    case h_1 => contradiction
    case h_2 inside =>
      obtain rfl := Except.error.inj refused
      obtain ⟨rfl, value, member, wrong⟩ := requiredNames_refused inside
      exact .requiredName found member wrong
  case h_3 value wrong found =>
    obtain rfl := Except.error.inj refused
    exact .required found fun values same => wrong values same

/-- The properties of an object node are refused by a rule about their table, or for one of them. -/
theorem propertiesOf_refused (refused : propertiesOf pointer fields = .error error) :
    (∃ fault, error = .shape pointer fault ∧ Breaks pointer.isRoot fields fault) ∨
      ∃ target value, Expects fields pointer target value ∧ ofJson target value = .error error := by
  rw [propertiesOf] at refused
  split at refused
  case h_1 => contradiction
  case h_2 table found =>
    obtain ⟨name, value, member, below⟩ := tableOfJson_refused refused
    exact .inr ⟨_, value, .property found member, below⟩
  case h_3 value wrong found =>
    obtain rfl := Except.error.inj refused
    exact .inl ⟨_, rfl, .properties found fun table same => wrong table same⟩

/-- What an object node may have beyond its properties is refused for the schema there. -/
theorem additionalOf_refused (refused : additionalOf pointer fields = .error error) :
    ∃ target value, Expects fields pointer target value ∧ ofJson target value = .error error := by
  rw [additionalOf] at refused
  split at refused
  case h_1 => contradiction
  case h_2 => contradiction
  case h_3 value wrong found =>
    split at refused
    case h_1 => contradiction
    case h_2 below =>
      obtain rfl := Except.error.inj refused
      exact ⟨_, value, .additional found, below⟩

/-- A node is refused by a rule that its own fields break, or for a schema that is expected directly
below. -/
theorem ofFields_refused (refused : ofFields pointer fields = .error error) :
    (∃ fault, error = .shape pointer fault ∧ Breaks pointer.isRoot fields fault) ∨
      ∃ target value, Expects fields pointer target value ∧ ofJson target value = .error error := by
  rw [ofFields] at refused
  split at refused
  case h_1 fault found =>
    exact .inl ⟨fault, (Except.error.inj refused).symm, breaks_of_keywordFault found⟩
  case h_2 =>
    split at refused
    case h_1 => contradiction
    case h_2 value wrong found =>
      exact .inl ⟨_, (Except.error.inj refused).symm,
        .reference found fun target same => wrong target same⟩
    case h_3 =>
      split at refused
      case h_1 kind others composed =>
        have listed : kind ∈ compositionsOf fields := composed ▸ List.mem_cons_self
        split at refused
        case h_1 values found =>
          split at refused
          case h_1 => contradiction
          case h_2 below =>
            obtain rfl := Except.error.inj refused
            obtain ⟨index, value, listed, inside⟩ := listOfJson_refused below
            rw [Nat.zero_add] at inside
            exact .inr ⟨_, value, .branch found listed, inside⟩
        case h_2 wrong =>
          have present : Table.has fields kind.keyword = true := (List.mem_filter.mp listed).2
          obtain ⟨value, found⟩ := Option.isSome_iff_exists.mp present
          exact .inl ⟨_, (Except.error.inj refused).symm,
            .composition found fun values same => wrong values (same ▸ found)⟩
      case h_2 =>
        split at refused
        case isTrue =>
          split at refused
          case h_1 below =>
            obtain rfl := Except.error.inj refused
            exact propertiesOf_refused below
          case h_2 =>
            split at refused
            case h_1 fault below =>
              exact .inl ⟨fault, (Except.error.inj refused).symm, requiredOf_refused below _⟩
            case h_2 =>
              split at refused
              case h_1 below =>
                obtain rfl := Except.error.inj refused
                exact .inr (additionalOf_refused below)
              case h_2 => contradiction
        case isFalse other =>
          have plain : typeIs fields "object" = false := by
            rw [Bool.not_eq_true, Bool.or_eq_false_iff] at other
            exact other.2
          split at refused
          case isTrue =>
            split at refused
            case h_1 => contradiction
            case h_2 values found =>
              split at refused
              case h_1 => contradiction
              case h_2 below =>
                obtain rfl := Except.error.inj refused
                obtain ⟨index, value, listed, inside⟩ := listOfJson_refused below
                rw [Nat.zero_add] at inside
                exact .inr ⟨_, value, .tuple plain found listed, inside⟩
            case h_3 value alone found =>
              split at refused
              case h_1 => contradiction
              case h_2 below =>
                obtain rfl := Except.error.inj refused
                exact .inr ⟨_, value, .single plain found fun values same => alone values same,
                  below⟩
          case isFalse => contradiction

/-! ## Nodes that are read -/

variable {node : Node}

/-- The required names of a node that is read are a list of texts. -/
theorem Read.required_texts (read : Read pointer fields node)
    (faultless : keywordFault pointer.isRoot fields = none) {value : Json}
    (found : fields.lookup "required" = some value) :
    ∃ names : List String, value = .array (names.map .string) := by
  have keyword : hasObjectKeyword fields = true := by
    simp [hasObjectKeyword, Table.has, found]
  have of := read.kind_eq
  rw [NodeKind.ofFields_of_objectKeyword faultless keyword] at of
  cases read with
  | object properties required additional direct simple asked listed demanded allowed =>
    rw [requiredOf, found] at demanded
    cases value with
    | array values =>
      cases read : requiredNames values with
      | ok names => exact ⟨names, congrArg Json.array ((requiredNames_ok_iff values names).mp read)⟩
      | error fault => simp [read] at demanded
    | _ => simp at demanded
  | _ => simp [Node.kind] at of

/-- A node that is read breaks no rule. -/
theorem not_breaks_of_ofFields (read : ofFields pointer fields = .ok node) (fault : ShapeFault) :
    ¬ Breaks pointer.isRoot fields fault := by
  obtain ⟨faultless, read⟩ := ofFields_read read
  obtain ⟨supported, flat⟩ := not_breaks_keywords faultless
  intro broken
  cases broken with
  | unsupported one present => simp [supported _ one] at present
  | nested below present => simp [flat below] at present
  | mixed different one other => exact different (eq_of_marked faultless one other)
  | reference found wrong =>
    cases read with
    | reference target present => exact wrong target (Option.some.inj (found.symm.trans present))
    | _ => simp_all
  | @composition kind value found wrong =>
    have keyword : Table.has fields kind.keyword = true := by
      rw [Table.has, found]
      rfl
    have of := read.kind_eq
    rw [NodeKind.ofFields_of_composition faultless keyword] at of
    cases read with
    | composition other others values branches direct composed held below =>
      obtain rfl : other = kind := by simpa [Node.kind] using of
      exact wrong values (Option.some.inj (found.symm.trans held))
    | _ => simp [Node.kind] at of
  | properties found wrong =>
    have keyword : hasObjectKeyword fields = true := by
      simp [hasObjectKeyword, Table.has, found]
    obtain ⟨shape, rfl, listed, _⟩ :=
      read.of_object (NodeKind.ofFields_of_objectKeyword faultless keyword)
    rw [propertiesOf] at listed
    split at listed
    case h_1 absent => simp [found] at absent
    case h_2 table present => exact wrong table (Option.some.inj (found.symm.trans present))
    case h_3 => contradiction
  | required found wrong =>
    obtain ⟨names, same⟩ := read.required_texts faultless found
    exact wrong _ same
  | requiredName found listed wrong =>
    obtain ⟨names, same⟩ := read.required_texts faultless found
    rw [Json.array.inj same] at listed
    obtain ⟨name, _, text⟩ := List.mem_map.mp listed
    exact wrong name text.symm

/-- Whatever is expected to be a schema below a node that is read has been read as one. -/
theorem ofJson_of_expects (read : ofFields pointer fields = .ok node) {target : Pointer}
    {value : Json} (expects : Expects fields pointer target value) :
    ∃ child, ofJson target value = .ok child := by
  have step (next : Step fields pointer target value)
      (visible : typeIs fields "object" = true → Table.has fields "items" = true →
        ¬ (pointer.child "items").LeadsTo target) : ∃ child, ofJson target value = .ok child := by
    obtain ⟨child, _, below⟩ := below_of_step read next visible
    exact ⟨child, below⟩
  obtain ⟨faultless, held⟩ := ofFields_read read
  cases expects with
  | property found member =>
    refine step (.property found member) fun _ _ leads => ?_
    exact absurd (leads.child_inj (leadsTo_child _ _)) (by decide)
  | additional found =>
    have keyword : hasObjectKeyword fields = true := by
      simp [hasObjectKeyword, Table.has, found]
    obtain ⟨shape, rfl, _, allowed⟩ :=
      held.of_object (NodeKind.ofFields_of_objectKeyword faultless keyword)
    rw [additionalOf] at allowed
    split at allowed
    case h_1 absent => simp [found] at absent
    case h_2 flag present =>
      obtain rfl := Option.some.inj (found.symm.trans present)
      exact ⟨.bool flag, by rw [ofJson]⟩
    case h_3 other _ present =>
      obtain rfl := Option.some.inj (found.symm.trans present)
      split at allowed
      case h_1 child below => exact ⟨child, below⟩
      case h_2 => contradiction
  | single plain found alone =>
    have items : Table.has fields "items" = true := by simp [Table.has, found]
    have of := held.kind_eq
    rw [(NodeKind.ofFields_of_items faultless items).2, plain] at of
    cases held with
    | openArray direct simple other asked absent => simp [found] at absent
    | tuple values items direct simple other present below =>
      exact absurd (Option.some.inj (found.symm.trans present)) (alone values)
    | single other item direct simple bare present _ below =>
      obtain rfl := Option.some.inj (found.symm.trans present)
      exact ⟨item, below⟩
    | _ => simp [Node.kind] at of
  | tuple plain found listed =>
    exact step (.tuple found listed) fun typed => by simp [plain] at typed
  | @branch kind values index value found listed =>
    refine step (.branch found listed) fun _ _ leads => ?_
    exact absurd (leads.child_inj (leadsTo_child _ _)) (by cases kind <;> decide)

end Node

/-! ## The top level without its definitions -/

/-- No keyword of a kind of nodes is a key of definitions. -/
theorem NodeKind.not_mem_definitionsKeys {kind : NodeKind} {keyword : String}
    (member : keyword ∈ kind.keywords) : keyword ∉ Json.definitionsKeys := by
  have apart : ∀ keyword ∈ kind.keywords, keyword ∉ Json.definitionsKeys := by
    cases kind with
    | composition kind => cases kind <;> decide
    | _ => decide
  exact apart keyword member

namespace Json

variable {document value : Json} {fields kept : Fields} {place target : Pointer}
  {fault : ShapeFault}

/-- A schema that is expected below fields is smaller than they are. -/
theorem Expects.sizeOf_lt (expects : Expects fields place target value) :
    sizeOf value < sizeOf fields := by
  have listed {key : String} {values : List Json}
      (found : fields.lookup key = some (.array values)) (member : value ∈ values) :
      sizeOf value < sizeOf fields := by
    have bound := sizeOf_lookup found
    have inside := List.sizeOf_lt_of_mem member
    simp only [Json.array.sizeOf_spec] at bound
    omega
  cases expects with
  | property found member =>
    have bound := sizeOf_lookup found
    have inside := List.sizeOf_lt_of_mem member
    simp only [Json.object.sizeOf_spec, Prod.mk.sizeOf_spec] at bound inside
    omega
  | additional found => exact sizeOf_lookup found
  | single _ found _ => exact sizeOf_lookup found
  | tuple _ found member => exact listed found (List.mem_of_getElem? member)
  | branch found member => exact listed found (List.mem_of_getElem? member)

section Congruence

variable (agree : ∀ key, key ∉ definitionsKeys → kept.lookup key = fields.lookup key)

include agree

/-- What is expected below fields does not depend on definitions. -/
theorem Expects.congr (expects : Expects fields place target value) :
    Expects kept place target value := by
  have type : typeIs kept "object" = typeIs fields "object" := by
    rw [typeIs, typeIs, agree "type" (by decide)]
  cases expects with
  | property found member => exact .property ((agree _ (by decide)).trans found) member
  | additional found => exact .additional ((agree _ (by decide)).trans found)
  | single plain found alone =>
    exact .single (type.trans plain) ((agree _ (by decide)).trans found) alone
  | tuple plain found listed =>
    exact .tuple (type.trans plain) ((agree _ (by decide)).trans found) listed
  | @branch kind values index value found listed =>
    exact .branch ((agree _ (by cases kind <;> decide)).trans found) listed

/-- The rules that are broken at the top level do not depend on definitions. -/
theorem Breaks.congr (broken : Breaks true fields fault) : Breaks true kept fault := by
  have has {key : String} (other : key ∉ definitionsKeys) :
      Table.has kept key = Table.has fields key := by
    rw [Table.has, Table.has, agree key other]
  have composed (kind : CompositionKind) : kind.keyword ∉ definitionsKeys := by
    have own : kind.keyword ∈ (NodeKind.composition kind).keywords := List.mem_cons_self
    exact NodeKind.not_mem_definitionsKeys own
  have marked {kind : NodeKind} (of : kind.Marked fields) : kind.Marked kept := by
    obtain ⟨keyword, member, present⟩ := of
    exact ⟨keyword, member, (has (NodeKind.not_mem_definitionsKeys member)).trans present⟩
  cases broken with
  | unsupported one present =>
    have apart : ∀ keyword ∈ unsupportedKeywords, keyword ∉ definitionsKeys := by decide
    exact .unsupported one ((has (apart _ one)).trans present)
  | nested below present => contradiction
  | mixed different one other =>
    have compositions : compositionsOf kept = compositionsOf fields := by
      simp only [compositionsOf, has (composed _)]
    have shapes : shapesOf kept = shapesOf fields := by
      simp only [shapesOf, hasObjectKeyword, compositions,
        has (by decide : "$ref" ∉ definitionsKeys),
        has (by decide : "properties" ∉ definitionsKeys),
        has (by decide : "required" ∉ definitionsKeys),
        has (by decide : "additionalProperties" ∉ definitionsKeys),
        has (by decide : "items" ∉ definitionsKeys)]
      rfl
    rw [← shapes, ← compositions]
    exact .mixed different (marked one) (marked other)
  | reference found wrong => exact .reference ((agree _ (by decide)).trans found) wrong
  | composition found wrong => exact .composition ((agree _ (composed _)).trans found) wrong
  | properties found wrong => exact .properties ((agree _ (by decide)).trans found) wrong
  | required found wrong => exact .required ((agree _ (by decide)).trans found) wrong
  | requiredName found listed wrong =>
    exact .requiredName ((agree _ (by decide)).trans found) listed wrong

end Congruence

/-! ## Refused documents -/

variable {error : SchemaError}

/-- If a value is expected to be a schema and is refused, some value is at fault. -/
theorem faulty_of_ofJson {value : Json} {place : Pointer} (expected : document.Expected place value)
    (refused : Node.ofJson place value = .error error) :
    ∃ target inner fault, error = .shape target fault ∧ document.Faulty target inner fault := by
  cases value with
  | object fields =>
    rw [Node.ofJson] at refused
    rcases Node.ofFields_refused refused with ⟨fault, same, broken⟩ | ⟨target, inner, next, below⟩
    · exact ⟨place, _, fault, same, .keywords expected broken⟩
    · have smaller : sizeOf inner < sizeOf (Json.object fields) := by
        have bound := next.sizeOf_lt
        simp only [Json.object.sizeOf_spec]
        omega
      exact faulty_of_ofJson (.step expected next) below
  | bool flag => simp [Node.ofJson] at refused
  | _ =>
    rw [Node.ofJson] at refused
    · exact ⟨place, _, _, (Except.error.inj refused).symm, .notSchema expected (by simp) (by simp)⟩
    all_goals simp
termination_by sizeOf value

end Json

namespace Schema

open Json

variable {document : Json} {fields : Fields} {error : SchemaError}

/-- If the table of definitions under a key is refused, a value of it is at fault. -/
theorem faulty_of_definitions (key : DefinitionsKey) {table : Fields}
    (found : fields.lookup key.text = some (.object table))
    (refused : Node.tableOfJson (Pointer.root.child key.text) table = .error error) :
    ∃ target value fault, error = .shape target fault ∧
      (Json.object fields).Faulty target value fault := by
  obtain ⟨name, value, member, below⟩ := Node.tableOfJson_refused refused
  exact faulty_of_ofJson (.definition rfl found member) below

/-- Definitions are refused for a second table of them, for a table that is no object, or for one of
them. -/
theorem definitionsOf_refused (refused : definitionsOf fields = .error error) :
    ∃ target value fault, error = .shape target fault ∧
      (Json.object fields).Faulty target value fault := by
  have wrongTable (key : DefinitionsKey) {value : Json}
      (found : fields.lookup key.text = some value) (wrong : ∀ table, value ≠ .object table) :
      (Json.object fields).Faulty (Pointer.root.child key.text) value .definitionsNotObject :=
    .table rfl found wrong
  simp only [definitionsOf] at refused
  split at refused
  case h_1 first second found other =>
    have both (key : DefinitionsKey) : Table.has fields key.text = true := by
      cases key <;> simp [DefinitionsKey.text, Table.has, found, other]
    exact ⟨_, _, _, (Except.error.inj refused).symm, .bothTables rfl both⟩
  case h_2 value found _ =>
    split at refused
    case h_1 table =>
      split at refused
      case h_1 => contradiction
      case h_2 below =>
        obtain rfl := Except.error.inj refused
        exact faulty_of_definitions .definitions found below
    case h_2 wrong =>
      exact ⟨_, _, _, (Except.error.inj refused).symm, wrongTable .definitions found wrong⟩
  case h_3 value _ found =>
    split at refused
    case h_1 table =>
      split at refused
      case h_1 => contradiction
      case h_2 below =>
        obtain rfl := Except.error.inj refused
        exact faulty_of_definitions .defs found below
    case h_2 wrong =>
      exact ⟨_, _, _, (Except.error.inj refused).symm, wrongTable .defs found wrong⟩
  case h_4 => contradiction

/-- If a document is refused, some value of it is at fault. -/
theorem faulty_of_refused (refused : ofJson document = .error error) :
    ∃ target value fault, error = .shape target fault ∧ document.Faulty target value fault := by
  cases document with
  | object fields =>
    rw [ofJson] at refused
    split at refused
    case h_1 below =>
      obtain rfl := Except.error.inj refused
      exact definitionsOf_refused below
    case h_2 =>
      split at refused
      case h_1 => contradiction
      case h_2 below =>
        obtain rfl := Except.error.inj refused
        have back : ∀ key, key ∉ definitionsKeys → fields.lookup key =
            (Table.erase (Table.erase fields "definitions") "$defs").lookup key :=
          fun key other => (lookup_without_definitions fields other).symm
        rcases Node.ofFields_refused below with
          ⟨fault, same, broken⟩ | ⟨target, value, next, inside⟩
        · exact ⟨.root, _, fault, same, .keywords (.top rfl) (broken.congr back)⟩
        · exact faulty_of_ofJson (.step (.top rfl) (next.congr back)) inside
  | _ =>
    rw [ofJson] at refused
    · exact ⟨.root, _, _, (Except.error.inj refused).symm, .topLevel (by simp)⟩
    all_goals simp

/-! ## Documents that are read -/

variable {schema : Schema} {place : Pointer} {value : Json}

/-- Whatever is expected to be a schema in a document that is read has been read as one, the top
level apart. -/
theorem ofJson_of_expected (read : ofJson document = .ok schema)
    (expected : document.Expected place value) :
    (place = .root ∧ value = document) ∨ ∃ node, Node.ofJson place value = .ok node := by
  obtain ⟨fields, rfl, definitionsRead, rootRead⟩ := ofJson_parts read
  induction expected with
  | top => exact .inl ⟨rfl, rfl⟩
  | definition whole found member =>
    obtain rfl := Json.object.inj whole
    obtain ⟨_, tableRead⟩ := definitionsOf_object definitionsRead found
    obtain ⟨node, _, below⟩ := Node.tableOfJson_to tableRead member
    exact .inr ⟨node, below⟩
  | step above next inductionHypothesis =>
    rcases inductionHypothesis with ⟨rfl, same⟩ | ⟨node, below⟩
    · obtain rfl := Json.object.inj same
      exact .inr (Node.ofJson_of_expects rootRead
        (next.congr fun _ => lookup_without_definitions _))
    · rw [Node.ofJson] at below
      exact .inr (Node.ofJson_of_expects below next)

/-- No value of a document that is read is at fault. -/
theorem not_faulty_of_read (read : ofJson document = .ok schema) (fault : ShapeFault) :
    ¬ document.Faulty place value fault := by
  obtain ⟨fields, rfl, definitionsRead, rootRead⟩ := ofJson_parts read
  intro faulty
  cases faulty with
  | topLevel wrong => exact wrong fields rfl
  | bothTables whole both =>
    obtain rfl := Json.object.inj whole
    have first := both .definitions
    have second := both .defs
    rcases definitionsOf_alone definitionsRead with absent | absent
    · simp [Table.has, DefinitionsKey.text, absent] at first
    · simp [Table.has, DefinitionsKey.text, absent] at second
  | table whole found wrong =>
    obtain rfl := Json.object.inj whole
    obtain ⟨table, same, _⟩ := definitionsOf_found definitionsRead found
    exact wrong table same
  | notSchema expected noBool noObject =>
    rcases ofJson_of_expected read expected with ⟨rfl, rfl⟩ | ⟨node, below⟩
    · exact noObject fields rfl
    · cases value <;> simp_all [Node.ofJson]
  | keywords expected broken =>
    rcases ofJson_of_expected read expected with ⟨rfl, same⟩ | ⟨node, below⟩
    · obtain rfl := Json.object.inj same
      exact Node.not_breaks_of_ofFields rootRead fault
        (broken.congr fun _ => lookup_without_definitions _)
    · rw [Node.ofJson] at below
      exact Node.not_breaks_of_ofFields below fault broken

end Schema

/-! ## Pointers of values at fault -/

namespace Json

variable {document value : Json} {place : Pointer}

/-- A value that is named in a document by a pointer into the whole of it. -/
structure Named (document : Json) (place : Pointer) (value : Json) : Prop where
  whole : place.origin = ""
  resolves : document.resolve? place.tokens = some value
  distinct : value.Distinct

namespace Named

variable {fields : Fields}

/-- One step further, to a value that the next token names. -/
theorem child (named : document.Named place value) {token : String} {inner : Json}
    (next : value.step? token = some inner) (distinct : inner.Distinct) :
    document.Named (place.child token) inner where
  whole := named.whole
  resolves := by
    rw [Pointer.child, resolve?_append, named.resolves, Option.bind_some, resolve?_cons, next]
    rfl
  distinct := distinct

/-- To the value under a key of an object. -/
theorem field (named : document.Named place (.object fields)) {key : String} {inner : Json}
    (found : fields.lookup key = some inner) : document.Named (place.child key) inner :=
  named.child found (((distinct_object fields).mp named.distinct).2 _ (Table.mem_of_lookup found))

/-- To a value that stands in an object, which has no key twice. -/
theorem entry (named : document.Named place (.object fields)) {key : String} {inner : Json}
    (member : (key, inner) ∈ fields) : document.Named (place.child key) inner :=
  named.field ((Table.lookup_eq_some_iff_mem ((distinct_object fields).mp named.distinct).1 _ _).mpr
    member)

/-- To the value at an index of an array. -/
theorem item {values : List Json} (named : document.Named place (.array values)) {index : Nat}
    {inner : Json} (listed : values[index]? = some inner) :
    document.Named (place.item index) inner := by
  refine named.child ?_ ((distinct_array values).mp named.distinct _ (List.mem_of_getElem? listed))
  simpa [step?] using listed

/-- A document is named by the pointer to the whole of it. -/
theorem root (distinct : document.Distinct) : document.Named .root document := ⟨rfl, rfl, distinct⟩

/-- To a value that is expected to be a schema. -/
theorem expects (named : document.Named place (.object fields)) {target : Pointer} {inner : Json}
    (expects : Expects fields place target inner) : document.Named target inner := by
  cases expects with
  | property found member => exact (named.field found).entry member
  | additional found => exact named.field found
  | single _ found _ => exact named.field found
  | tuple _ found listed => exact (named.field found).item listed
  | branch found listed => exact (named.field found).item listed

end Named

/-- Every value that is expected to be a schema is named by the pointer to its place. -/
theorem Expected.named (distinct : document.Distinct) (expected : document.Expected place value) :
    document.Named place value := by
  induction expected with
  | top => exact .root distinct
  | definition whole found member =>
    subst whole
    exact ((Named.root distinct).field found).entry member
  | step _ next inductionHypothesis => exact inductionHypothesis.expects next

/-- Every value at fault is named by the pointer to its place. -/
theorem Faulty.named {fault : ShapeFault} (distinct : document.Distinct)
    (faulty : document.Faulty place value fault) : document.Named place value := by
  cases faulty with
  | topLevel => exact .root distinct
  | bothTables => exact .root distinct
  | table whole found =>
    subst whole
    exact (Named.root distinct).field found
  | notSchema expected => exact expected.named distinct
  | keywords expected => exact expected.named distinct

end Json

namespace Schema

/-- A document is refused with a pointer whose text names, in the document itself, a value at fault,
and with the fault of this value. It is read exactly if no value of it is at fault. -/
theorem ofJson_refuses_at_fault (document : Json) (distinct : document.Distinct) :
    (∀ error, ofJson document = .error error →
      ∃ place value fault, error = .shape place fault ∧
        document.resolveText? place.text = some value ∧ document.Faulty place value fault) ∧
    ((∃ schema, ofJson document = .ok schema) ↔
      ∀ place value fault, ¬ document.Faulty place value fault) := by
  refine ⟨fun error refused => ?_, ?_, fun faultless => ?_⟩
  · obtain ⟨place, value, fault, same, faulty⟩ := faulty_of_refused refused
    have named := faulty.named distinct
    exact ⟨place, value, fault, same,
      (document.resolveText?_text named.whole).trans named.resolves, faulty⟩
  · rintro ⟨schema, read⟩ place value fault
    exact not_faulty_of_read read fault
  · cases read : ofJson document with
    | ok schema => exact ⟨schema, rfl⟩
    | error error =>
      obtain ⟨place, value, fault, _, faulty⟩ := faulty_of_refused read
      exact absurd faulty (faultless place value fault)

end Schema

/-- A document with a schema that mixes properties with a choice, below strange names. -/
def Json.mixing : Json :=
  .object [("$defs", .object
    [("A/1", .object
      [("anyOf", .array
        [.bool true,
         .object [("properties", .object
          [("~x/", .object
            [("items", .array
              [.object [], .object [("properties", .object []), ("anyOf", .array [])]])])])]])])])]

/-- The place of the schema that mixes. -/
def Pointer.ofMixing : Pointer :=
  ((((((Pointer.root.child "$defs").child "A/1").child "anyOf").item 1).child "properties").child
    "~x/").child "items" |>.item 1

/-- The document is refused for the keywords of an object and of a composition in one node, at the
place of this node. -/
theorem Schema.ofJson_mixing : Schema.ofJson .mixing =
    .error (.shape .ofMixing (.mixes ["object keywords", "composition", "anyOf"])) := by
  simp [Schema.ofJson, Json.mixing, Pointer.ofMixing, Schema.definitionsOf, Node.tableOfJson,
    Node.listOfJson, Node.ofJson, Node.ofFields, keywordFault, unsupportedKeywords, Table.has,
    shapesOf, compositionsOf, hasObjectKeyword, typeIs, CompositionKind.all,
    CompositionKind.keyword, Node.propertiesOf, DefinitionsKey.text, List.lookup_cons, Pointer.root,
    Pointer.child, Pointer.item, Pointer.isRoot]

/-- The text of the pointer names the schema that mixes, in a document that is refused for it. -/
theorem Schema.ofJson_refuses_at_fault_at_mixing :
    Json.mixing.Distinct ∧
      Schema.ofJson .mixing =
        .error (.shape .ofMixing (.mixes ["object keywords", "composition", "anyOf"])) ∧
      Pointer.ofMixing.text = "/$defs/A~11/anyOf/1/properties/~0x~1/items/1" ∧
      Json.mixing.resolveText? Pointer.ofMixing.text =
        some (.object [("properties", .object []), ("anyOf", .array [])]) ∧
      Json.mixing.Faulty .ofMixing (.object [("properties", .object []), ("anyOf", .array [])])
        (.mixes ["object keywords", "composition", "anyOf"]) := by
  have distinct : Json.mixing.Distinct := by decide
  have resolves : Json.mixing.resolveText? Pointer.ofMixing.text =
      some (.object [("properties", .object []), ("anyOf", .array [])]) := by
    rw [Json.resolveText?_text _ rfl]
    simp [Json.mixing, Pointer.ofMixing, Pointer.root, Pointer.child, Pointer.item, Json.step?]
  obtain ⟨place, value, fault, same, found, faulty⟩ :=
    (Schema.ofJson_refuses_at_fault .mixing distinct).1 _ Schema.ofJson_mixing
  obtain ⟨rfl, rfl⟩ := SchemaError.shape.inj same
  obtain rfl := Option.some.inj (resolves.symm.trans found)
  exact ⟨distinct, Schema.ofJson_mixing, by decide +kernel, resolves, faulty⟩

end SchemaBindings
