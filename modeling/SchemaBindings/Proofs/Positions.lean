import SchemaBindings.Proofs.Escaping
import SchemaBindings.Proofs.Reachability
import SchemaBindings.Proofs.Visits

/-!
# Positions of schemas in documents

A document holds schemas at its top level, under its definitions, and below each of them
under the keywords for properties, additional properties, items and compositions. This
is said of the document alone, without a look at how it is read. An object that stands at
such a position and has a table of properties is to be visited, or its reserved names
would stay as they are.

There is one kind of schema that hides what is below it: one whose type is that of
objects and which has items, but none of the keywords of objects. It is read as an
object, and its items are kept as they are. At every other position the node that stands
there has been read from the value there, and what is visited below the position is what
the node has below itself; this is the step from a position to those below it.
-/
namespace SchemaBindings

open Pointer

namespace Json

/-- A schema that stands directly below one with some fields, and the place where it stands. -/
inductive Step (fields : Fields) (place : Pointer) : Pointer → Json → Prop
  | property {table : Fields} {name : String} {value : Json}
    (found : fields.lookup "properties" = some (.object table)) (member : (name, value) ∈ table) :
    Step fields place ((place.child "properties").child name) value
  | additional {inside : Fields}
    (found : fields.lookup "additionalProperties" = some (.object inside)) :
    Step fields place (place.child "additionalProperties") (.object inside)
  | single {inside : Fields} (found : fields.lookup "items" = some (.object inside)) :
    Step fields place (place.child "items") (.object inside)
  | tuple {values : List Json} {index : Nat} {value : Json}
    (found : fields.lookup "items" = some (.array values)) (listed : values[index]? = some value) :
    Step fields place ((place.child "items").item index) value
  | branch {kind : CompositionKind} {values : List Json} {index : Nat} {value : Json}
    (found : fields.lookup kind.keyword = some (.array values))
    (listed : values[index]? = some value) :
    Step fields place ((place.child kind.keyword).item index) value

/-- The schemas of a document and the places where they stand. -/
inductive SchemaAt (document : Json) : Pointer → Json → Prop
  | top : SchemaAt document .root document
  | definition {fields table : Fields} {key : DefinitionsKey} {name : String} {value : Json}
    (whole : document = .object fields) (found : fields.lookup key.text = some (.object table))
    (member : (name, value) ∈ table) :
    SchemaAt document ((Pointer.root.child key.text).child name) value
  | step {place target : Pointer} {fields : Fields} {value : Json}
    (above : SchemaAt document place (.object fields)) (next : Step fields place target value) :
    SchemaAt document target value

/-- A place is hidden if it stands below the items of a schema with the type of objects. -/
def Hidden (document : Json) (place : Pointer) : Prop :=
  ∃ above fields, SchemaAt document above (.object fields) ∧ typeIs fields "object" = true ∧
    Table.has fields "items" = true ∧ (above.child "items").LeadsTo place

/-- What stands below a hidden place is hidden. -/
theorem Hidden.of_leadsTo {document : Json} {place target : Pointer} (hidden : document.Hidden place)
    (leads : place.LeadsTo target) : document.Hidden target := by
  obtain ⟨above, fields, position, typed, items, reached⟩ := hidden
  exact ⟨above, fields, position, typed, items, reached.trans leads⟩

namespace Step

variable {fields kept : Fields} {place target : Pointer} {value : Json}

/-- A step goes on from a place by one of the keywords that hold schemas. -/
theorem leads (step : Step fields place target value) :
    ∃ keyword ∈ Node.childKeywords, (place.child keyword).LeadsTo target := by
  cases step with
  | property found member => exact ⟨"properties", by decide, leadsTo_child _ _⟩
  | additional found => exact ⟨"additionalProperties", by decide, leadsTo_refl _⟩
  | single found => exact ⟨"items", by decide, leadsTo_refl _⟩
  | tuple found listed => exact ⟨"items", by decide, leadsTo_child _ _⟩
  | @branch kind values index value found listed =>
    exact ⟨kind.keyword, Node.keyword_mem_childKeywords kind, leadsTo_child _ _⟩

/-- A step looks only at the keywords that hold schemas. -/
theorem congr (step : Step fields place target value)
    (agree : ∀ keyword ∈ Node.childKeywords, kept.lookup keyword = fields.lookup keyword) :
    Step kept place target value := by
  cases step with
  | property found member => exact .property ((agree _ (by decide)).trans found) member
  | additional found => exact .additional ((agree _ (by decide)).trans found)
  | single found => exact .single ((agree _ (by decide)).trans found)
  | tuple found listed => exact .tuple ((agree _ (by decide)).trans found) listed
  | @branch kind values index value found listed =>
    exact .branch ((agree _ (Node.keyword_mem_childKeywords kind)).trans found) listed

end Step

end Json

namespace Node

open Json

section Reading

variable {pointer : Pointer} {fields : Fields} {node : Node}

/-- Each value of a table that has been read is read as a node of the table of nodes, under its
key. -/
theorem tableOfJson_to {table : Fields} {nodes : Table Node}
    (read : tableOfJson pointer table = .ok nodes) {name : String} {value : Json}
    (member : (name, value) ∈ table) :
    ∃ node, (name, node) ∈ nodes ∧ ofJson (pointer.child name) value = .ok node := by
  rw [tableOfJson_ok_iff] at read
  induction read with
  | nil => contradiction
  | @cons field entry table nodes held later inductionHypothesis =>
    obtain ⟨named, below⟩ := held
    rcases List.mem_cons.mp member with rfl | member
    · obtain rfl : name = entry.1 := named
      exact ⟨entry.2, List.mem_cons_self, below⟩
    · obtain ⟨node, present, below⟩ := inductionHypothesis member
      exact ⟨node, List.mem_cons_of_mem _ present, below⟩

/-- The nodes of a table stand under its keys. -/
theorem tableOfJson_keys {table : Fields} {nodes : Table Node}
    (read : tableOfJson pointer table = .ok nodes) : Table.keys nodes = Table.keys table := by
  rw [tableOfJson_ok_iff] at read
  induction read with
  | nil => rfl
  | cons held _ inductionHypothesis =>
    rw [Table.keys_cons, Table.keys_cons, held.1, inductionHypothesis]

/-- Each value of a list that has been read is read as the node at its index. -/
theorem listOfJson_to {values : List Json} {nodes : List Node} {start index : Nat}
    (read : listOfJson pointer start values = .ok nodes) {value : Json}
    (listed : values[index]? = some value) :
    ∃ node, nodes[index]? = some node ∧ ofJson (pointer.item (start + index)) value = .ok node := by
  rw [listOfJson_ok_iff] at read
  induction values generalizing start index nodes with
  | nil => simp at listed
  | cons first rest inductionHypothesis =>
    rw [List.zipIdx_cons] at read
    cases read with
    | @cons _ node _ others held later =>
      cases index with
      | zero =>
        obtain rfl := Option.some.inj listed
        exact ⟨node, rfl, held⟩
      | succ index =>
        obtain ⟨found, present, below⟩ := inductionHypothesis later listed
        have shifted : start + 1 + index = start + (index + 1) := by omega
        exact ⟨found, present, shifted ▸ below⟩

/-- What is read from fields that make an object. -/
theorem Read.of_object (read : Read pointer fields node)
    (kind : NodeKind.ofFields fields = .object) :
    ∃ shape, node = .object shape ∧ propertiesOf pointer fields = .ok shape.properties ∧
      additionalOf pointer fields = .ok shape.additional := by
  have of := read.kind_eq
  rw [kind] at of
  cases read with
  | object properties required additional direct simple asked listed demanded allowed =>
    exact ⟨_, rfl, listed, allowed⟩
  | _ => simp [Node.kind] at of

/-- A schema of additional properties is read from an object that stands there. -/
theorem additionalOf_object {inside : Fields} {additional : Additional Node}
    (read : additionalOf pointer fields = .ok additional)
    (found : fields.lookup "additionalProperties" = some (.object inside)) :
    ∃ child, additional = .schema child ∧
      ofJson (pointer.child "additionalProperties") (.object inside) = .ok child := by
  rw [additionalOf] at read
  split at read
  case h_1 absent => simp [found] at absent
  case h_2 present => simp [found] at present
  case h_3 value _ present =>
    obtain rfl := Option.some.inj (found.symm.trans present)
    split at read
    case h_1 child below =>
      obtain rfl := Except.ok.inj read
      exact ⟨child, rfl, below⟩
    case h_2 => contradiction

/-- The table of properties is read from an object that stands there. -/
theorem propertiesOf_object {table : Fields} {properties : Table Node}
    (read : propertiesOf pointer fields = .ok properties)
    (found : fields.lookup "properties" = some (.object table)) :
    tableOfJson (pointer.child "properties") table = .ok properties := by
  rw [propertiesOf] at read
  split at read
  case h_1 absent => simp [found] at absent
  case h_2 other present =>
    obtain rfl := Json.object.inj (Option.some.inj (found.symm.trans present))
    exact read
  case h_3 => contradiction

/-- A node has been read from all schemas directly below it, apart from the items of a node with the
type of objects. -/
theorem below_of_step (read : ofFields pointer fields = .ok node) {target : Pointer} {value : Json}
    (step : Step fields pointer target value)
    (visible : typeIs fields "object" = true → Table.has fields "items" = true →
      ¬ (pointer.child "items").LeadsTo target) :
    ∃ child, Below pointer node target child ∧ ofJson target value = .ok child := by
  obtain ⟨faultless, read⟩ := ofFields_read read
  have array (items : Table.has fields "items" = true)
      (leads : (pointer.child "items").LeadsTo target) : node.kind = some .array := by
    have plain : typeIs fields "object" = false := by
      by_contra typed
      exact visible (by simpa using typed) items leads
    rw [read.kind_eq, (NodeKind.ofFields_of_items faultless items).2, plain]
    rfl
  cases step with
  | @property table name value found member =>
    have keyword : hasObjectKeyword fields = true := by
      simp [hasObjectKeyword, Table.has, found]
    obtain ⟨shape, rfl, listed, _⟩ :=
      read.of_object (NodeKind.ofFields_of_objectKeyword faultless keyword)
    obtain ⟨child, present, below⟩ := tableOfJson_to (propertiesOf_object listed found) member
    exact ⟨child, .property present, below⟩
  | @additional inside found =>
    have keyword : hasObjectKeyword fields = true := by
      simp [hasObjectKeyword, Table.has, found]
    obtain ⟨shape, rfl, _, allowed⟩ :=
      read.of_object (NodeKind.ofFields_of_objectKeyword faultless keyword)
    obtain ⟨child, held, below⟩ := additionalOf_object allowed found
    exact ⟨child, .additional held, below⟩
  | @single inside found =>
    have of := array (by simp [Table.has, found]) (leadsTo_refl _)
    cases read with
    | openArray direct simple other asked absent => simp [found] at absent
    | tuple values items direct simple other present below => simp [found] at present
    | single value item direct simple other present alone below =>
      obtain rfl := Option.some.inj (found.symm.trans present)
      exact ⟨item, .single, below⟩
    | _ => simp [Node.kind] at of
  | @tuple values index value found listed =>
    have of := array (by simp [Table.has, found]) (leadsTo_child _ _)
    cases read with
    | openArray direct simple other asked absent => simp [found] at absent
    | tuple others items direct simple other present below =>
      obtain rfl := Json.array.inj (Option.some.inj (found.symm.trans present))
      obtain ⟨child, held, read⟩ := listOfJson_to below listed
      exact ⟨child, .tuple held, Nat.zero_add index ▸ read⟩
    | single value item direct simple other present alone below =>
      exact absurd (Option.some.inj (present.symm.trans found)) (alone values)
    | _ => simp [Node.kind] at of
  | @branch kind values index value found listed =>
    have keyword : Table.has fields kind.keyword = true := by
      rw [Table.has, found]
      rfl
    have of := read.kind_eq
    rw [NodeKind.ofFields_of_composition faultless keyword] at of
    cases read with
    | composition other others present branches direct composed held below =>
      obtain rfl : other = kind := by simpa [Node.kind] using of
      obtain rfl := Json.array.inj (Option.some.inj (found.symm.trans held))
      obtain ⟨child, member, read⟩ := listOfJson_to below listed
      exact ⟨child, .branch member, Nat.zero_add index ▸ read⟩
    | _ => simp [Node.kind] at of

/-- Whether a node has been read from a value at some place. At the top level the definitions have
been taken away before, so the fields are compared under all other keys. -/
def ReadFrom (place : Pointer) (value : Json) (node : Node) : Prop :=
  ∀ fields, value = .object fields → ∃ kept, ofFields place kept = .ok node ∧
    ∀ key, key ∉ definitionsKeys → kept.lookup key = fields.lookup key

/-- A node that has been read as a schema has been read from its value. -/
theorem ReadFrom.of_ofJson {value : Json} (read : ofJson pointer value = .ok node) :
    ReadFrom pointer value node := by
  rintro fields rfl
  rw [ofJson] at read
  exact ⟨fields, read, fun _ _ => rfl⟩

end Reading

end Node

namespace Schema

open Json

/-- A value is seen at a place if a node has been read from it whose objects are all that a visit
lists at and below the place, apart from what stands below definitions. -/
structure Seen (schema : Schema) (place : Pointer) (value : Json) (node : Node) : Prop where
  distinct : node.Distinct
  read : node.ReadFrom place value
  visits : ∀ target, place.LeadsTo target →
    (∀ key ∈ definitionsKeys, ¬ (place.child key).LeadsTo target) →
      visitsAt target schema.objects = visitsAt target (node.objects place)

/-- Definitions stand under a key that holds no schema of a node. -/
theorem not_mem_definitionsKeys {keyword : String} (one : keyword ∈ Node.childKeywords) :
    keyword ∉ definitionsKeys := by
  revert keyword
  decide

/-- Both keys of definitions are keys of definitions. -/
theorem mem_definitionsKeys (key : DefinitionsKey) : key.text ∈ definitionsKeys := by
  cases key <;> decide

/-- What stands below a keyword that holds schemas does not stand below definitions. -/
theorem not_below_definitions {place target : Pointer} {keyword : String}
    (one : keyword ∈ Node.childKeywords) (leads : (place.child keyword).LeadsTo target) :
    ∀ key ∈ definitionsKeys, ¬ (place.child key).LeadsTo target := by
  intro key member reached
  obtain rfl := leads.child_inj reached
  exact not_mem_definitionsKeys one member

/-- Taking the definitions away leaves what stands under other keys. -/
theorem lookup_without_definitions (fields : Fields) {key : String} (other : key ∉ definitionsKeys) :
    (Table.erase (Table.erase fields "definitions") "$defs").lookup key = fields.lookup key := by
  have first : key ≠ "definitions" := fun same => other (same ▸ mem_definitionsKeys .definitions)
  have second : key ≠ "$defs" := fun same => other (same ▸ mem_definitionsKeys .defs)
  rw [Table.lookup_erase_of_ne second, Table.lookup_erase_of_ne first]

/-- The top level is seen. -/
theorem seen_top {document : Json} {schema : Schema} (read : ofJson document = .ok schema)
    (distinct : schema.Distinct) : schema.Seen .root document schema.root where
  distinct := distinct.root
  read := by
    rintro fields rfl
    obtain ⟨others, same, _, rootRead⟩ := ofJson_parts read
    obtain rfl := Json.object.inj same
    exact ⟨_, rootRead, fun key other => lookup_without_definitions _ other⟩
  visits target _ outside := by
    have away : visitsAt target (Node.tableObjects (Pointer.root.child schema.definitionsKey.text)
        schema.definitions) = [] :=
      visitsAt_eq_nil fun placed listed same =>
        outside _ (mem_definitionsKeys _) (same ▸ Node.tableObjects_below _ _ placed listed)
    rw [objects, visitsAt_append, away, List.append_nil]

/-- What stands under a key of definitions that have been read is a table, from which they have been
read. -/
theorem definitionsOf_found {fields : Fields} {definitions : Table Node}
    {settled : Option DefinitionsKey} (read : definitionsOf fields = .ok (definitions, settled))
    {key : DefinitionsKey} {value : Json} (found : fields.lookup key.text = some value) :
    ∃ table, value = .object table ∧ settled = some key ∧
      Node.tableOfJson (Pointer.root.child key.text) table = .ok definitions := by
  have alone := definitionsOf_alone read
  rcases definitionsOf_read read with ⟨_, _, first, second⟩ | ⟨chosen, table, same, present, below⟩
  · cases key <;> simp [DefinitionsKey.text, first, second] at found
  · have only : chosen = key := by
      rcases alone with absent | absent <;> cases chosen <;> cases key <;>
        simp [DefinitionsKey.text, absent] at found present ⊢
    subst only
    exact ⟨table, Option.some.inj (found.symm.trans present), same, below⟩

/-- Definitions that stand under a key have been read from there. -/
theorem definitionsOf_object {fields table : Fields} {definitions : Table Node}
    {settled : Option DefinitionsKey} (read : definitionsOf fields = .ok (definitions, settled))
    {key : DefinitionsKey} (found : fields.lookup key.text = some (.object table)) :
    settled = some key ∧
      Node.tableOfJson (Pointer.root.child key.text) table = .ok definitions := by
  obtain ⟨other, same, rest⟩ := definitionsOf_found read found
  obtain rfl := Json.object.inj same
  exact rest

/-- Every definition is seen. -/
theorem seen_definition {fields table : Fields} {schema : Schema}
    (read : ofJson (.object fields) = .ok schema) (distinct : schema.Distinct)
    {key : DefinitionsKey} (found : fields.lookup key.text = some (.object table)) {name : String}
    {value : Json} (member : (name, value) ∈ table) :
    ∃ node, schema.Seen ((Pointer.root.child key.text).child name) value node := by
  obtain ⟨others, same, definitionsRead, _⟩ := ofJson_parts read
  obtain rfl := Json.object.inj same
  obtain ⟨settled, tableRead⟩ := definitionsOf_object definitionsRead found
  obtain ⟨node, present, below⟩ := Node.tableOfJson_to tableRead member
  refine ⟨node, distinct.definition _ present, .of_ofJson below, fun target leads _ => ?_⟩
  have away : visitsAt target (schema.root.objects .root) = [] := by
    refine visitsAt_eq_nil fun placed listed same => ?_
    rcases Node.objects_leads_step (fun child _ => child.objects_leads) placed listed with
      top | ⟨keyword, one, reached⟩
    · rw [← same, top] at leads
      exact LeadsTo.not_child_self leads.of_child
    · exact not_below_definitions one reached _ (mem_definitionsKeys key) (same ▸ leads.of_child)
  have chosen : schema.definitionsKey = key := by rw [definitionsKey, settled, Option.getD_some]
  rw [objects, visitsAt_append, away, List.nil_append, chosen,
    Node.visitsAt_tableObjects distinct.definitions present leads]

/-- What stands directly below a value that is seen is seen, unless it is hidden. -/
theorem Seen.step {schema : Schema} {place target : Pointer} {fields : Fields} {value : Json}
    {node : Node} (seen : schema.Seen place (.object fields) node)
    (step : Step fields place target value)
    (visible : typeIs fields "object" = true → Table.has fields "items" = true →
      ¬ (place.child "items").LeadsTo target) :
    ∃ child, schema.Seen target value child := by
  obtain ⟨kept, read, agree⟩ := seen.read fields rfl
  have type : typeIs kept "object" = typeIs fields "object" := by
    rw [typeIs, typeIs, agree "type" (by decide)]
  have items : Table.has kept "items" = Table.has fields "items" := by
    rw [Table.has, Table.has, agree "items" (by decide)]
  obtain ⟨child, below, inside⟩ := Node.below_of_step read
    (step.congr fun keyword one => agree keyword (not_mem_definitionsKeys one))
    (by rwa [type, items])
  obtain ⟨keyword, one, leads⟩ := step.leads
  refine ⟨child, fun shape member => seen.distinct shape
    (Node.shapes_subset_of_mem_children _ _ below.mem_children member), .of_ofJson inside, ?_⟩
  intro spot reached _
  have outside := not_below_definitions one (leads.trans reached)
  rw [seen.visits spot (leads.trans reached).of_child outside,
    below.visitsAt_eq seen.distinct reached]

/-- What stands at a position that is not hidden is seen. -/
theorem seen_of_position {document : Json} {schema : Schema} (read : ofJson document = .ok schema)
    (distinct : schema.Distinct) {place : Pointer} {value : Json}
    (position : document.SchemaAt place value) (visible : ¬ document.Hidden place) :
    ∃ node, schema.Seen place value node := by
  induction position with
  | top => exact ⟨schema.root, seen_top read distinct⟩
  | definition whole found member =>
    subst whole
    exact seen_definition read distinct found member
  | step above next inductionHypothesis =>
    obtain ⟨keyword, _, leads⟩ := next.leads
    obtain ⟨node, seen⟩ := inductionHypothesis fun hidden =>
      visible (hidden.of_leadsTo leads.of_child)
    exact seen.step next fun typed items reached => visible ⟨_, _, above, typed, items, reached⟩

/-- A table of properties at a position that is not hidden is visited there once, with its names. -/
theorem visitsAt_position {document : Json} {schema : Schema} (read : ofJson document = .ok schema)
    (distinct : schema.Distinct) {place : Pointer} {fields table : Fields}
    (position : document.SchemaAt place (.object fields))
    (found : fields.lookup "properties" = some (.object table)) (visible : ¬ document.Hidden place) :
    ∃ shape, visitsAt place schema.objects = [shape] ∧ shape.names = Table.keys table := by
  obtain ⟨node, seen⟩ := seen_of_position read distinct position visible
  obtain ⟨kept, nodeRead, agree⟩ := seen.read fields rfl
  obtain ⟨faultless, nodeRead⟩ := Node.ofFields_read nodeRead
  have present : kept.lookup "properties" = some (.object table) :=
    (agree "properties" (by decide)).trans found
  have keyword : hasObjectKeyword kept = true := by
    simp [hasObjectKeyword, Table.has, present]
  obtain ⟨shape, rfl, listed, _⟩ :=
    nodeRead.of_object (NodeKind.ofFields_of_objectKeyword faultless keyword)
  have own := seen.visits place (leadsTo_refl place) fun _ _ => LeadsTo.not_child_self
  rw [Node.visitsAt_own] at own
  exact ⟨shape, own, Node.tableOfJson_keys (Node.propertiesOf_object listed present)⟩

/-- A schema with the type of objects and with items, which is seen, has nothing visited below its
items: it is an object without properties, and the items are no part of it. -/
theorem Seen.nothing_below_items {schema : Schema} {place target : Pointer} {fields : Fields}
    {node : Node} (seen : schema.Seen place (.object fields) node)
    (typed : typeIs fields "object" = true) (items : Table.has fields "items" = true)
    (leads : (place.child "items").LeadsTo target) : visitsAt target schema.objects = [] := by
  obtain ⟨kept, read, agree⟩ := seen.read fields rfl
  obtain ⟨faultless, read⟩ := Node.ofFields_read read
  have held : Table.has kept "items" = true := by
    rw [← items, Table.has, Table.has, agree "items" (by decide)]
  have kind : typeIs kept "object" = true := by
    rw [← typed, typeIs, typeIs, agree "type" (by decide)]
  obtain ⟨bare, of⟩ := NodeKind.ofFields_of_items faultless held
  rw [kind, if_pos rfl] at of
  obtain ⟨shape, rfl, listed, allowed⟩ := read.of_object of
  simp only [hasObjectKeyword, Bool.or_eq_false_iff, Table.has_eq_false_iff,
    ← Table.lookup_eq_none_iff_not_mem] at bare
  obtain ⟨⟨noProperties, _⟩, noAdditional⟩ := bare
  have properties : shape.properties = [] := by
    rcases Node.propertiesOf_from listed with none | ⟨table, found, _⟩
    · exact none
    · simp [noProperties] at found
  have additional : shape.additional.nodes = [] := by
    refine List.eq_nil_iff_forall_not_mem.mpr fun child member => ?_
    obtain ⟨value, found, _⟩ := Node.additionalOf_from allowed child member
    simp [noAdditional] at found
  have alone : (Node.object shape).objects place = [(place, shape)] := by
    rw [Node.objects_object, properties]
    cases others : shape.additional with
    | schema node => simp [others, Additional.nodes] at additional
    | absent => rfl
    | allowed value => rfl
  rw [seen.visits target leads.of_child (not_below_definitions (by decide) leads), alone,
    visitsAt_above shape leads]

/-- Nothing is visited at a hidden place. -/
theorem visitsAt_hidden {document : Json} {schema : Schema} (read : ofJson document = .ok schema)
    (distinct : schema.Distinct) {target : Pointer} (hidden : document.Hidden target) :
    visitsAt target schema.objects = [] := by
  obtain ⟨above, fields, position, typed, items, leads⟩ := hidden
  -- What hides the target may be hidden itself, but then by something that stands higher up.
  induction depth : above.tokens.length using Nat.strongRecOn generalizing above fields with
  | ind steps inductionHypothesis =>
    by_cases visible : document.Hidden above
    · obtain ⟨higher, others, position, typed, items, reached⟩ := visible
      have shorter : higher.tokens.length < steps := by
        have longer := reached.tokens.length_le
        rw [child, List.length_append, List.length_singleton] at longer
        omega
      exact inductionHypothesis _ shorter higher others position typed items
        (reached.trans leads.of_child) rfl
    · obtain ⟨node, seen⟩ := seen_of_position read distinct position visible
      exact seen.nothing_below_items typed items leads

/-- Every table of properties at a position of a document that is read is visited exactly once, with
the pointer of the position, unless the position is hidden, and then it is not visited at all. So
after a successful marking no table that is written has a reserved name, unless it stands at a hidden
position. -/
theorem visits_unless_hidden {document : Json} {schema : Schema}
    (read : ofJson document = .ok schema) (distinct : document.Distinct) :
    (∀ place fields table, document.SchemaAt place (.object fields) →
      fields.lookup "properties" = some (.object table) →
        (¬ document.Hidden place → ∃ shape, visitsAt place schema.objects = [shape] ∧
          shape.names = Table.keys table) ∧
        (document.Hidden place → visitsAt place schema.objects = [])) ∧
    ∀ reserved rule escaped count, EscapeRule.Spares rule reserved →
      schema.escape reserved rule = (escaped, .ok count) →
        ∀ place fields table, escaped.toJson.SchemaAt place (.object fields) →
          fields.lookup "properties" = some (.object table) → ¬ escaped.toJson.Hidden place →
            ∀ name ∈ Table.keys table, reserved.contains name = false := by
  have apart := ofJson_distinct read distinct
  refine ⟨fun place fields table position found => ⟨visitsAt_position read apart position found,
    visitsAt_hidden read apart⟩, ?_⟩
  intro reserved rule escaped count spares ended place fields table position found visible name listed
  have once := apart.escaped spares ended
  have written : ofJson escaped.toJson = .ok escaped := by
    have reached := Reachable.escape (.read distinct read) reserved rule
    rw [ended] at reached
    exact reached.faithful.ofJson_toJson
  obtain ⟨shape, visits, names⟩ := visitsAt_position written once position found visible
  refine escaped_not_reserved spares apart ended shape ?_ name (names ▸ listed)
  have member : shape ∈ visitsAt place escaped.objects := visits ▸ List.mem_cons_self
  obtain ⟨placed, present, rfl⟩ := List.mem_map.mp member
  exact List.mem_map_of_mem (List.mem_of_mem_filter present)

end Schema

/-- A document with a table of properties below the items of a schema with the type of objects. -/
def Json.typedItems : Json :=
  .object [("definitions", .object
    [("A", .object
      [("type", .string "object"),
       ("items", .object [("properties", .object [("else", .object [])])])])])]

/-- The schema that the document is read as. -/
def Schema.typedItems : Schema where
  root := .scalar []
  definitions :=
    [("A", .object ⟨[], false, none, .absent,
      [("type", .string "object"),
       ("items", .object [("properties", .object [("else", .object [])])])]⟩)]
  writtenKey := some .definitions

/-- The document is read as the schema: the items stay among what the object keeps. -/
theorem Schema.ofJson_typedItems : Schema.ofJson .typedItems = .ok .typedItems := by
  simp [Schema.ofJson, Json.typedItems, Schema.typedItems, Schema.definitionsOf, Node.tableOfJson,
    Node.ofJson, Node.ofFields, keywordFault, unsupportedKeywords, Table.has, Table.erase,
    shapesOf, compositionsOf, hasObjectKeyword, typeIs, CompositionKind.all,
    CompositionKind.keyword, Node.propertiesOf, requiredOf, Node.additionalOf, objectExtra,
    DefinitionsKey.text, List.lookup_cons]

/-- The place of the items of the only definition. -/
def Pointer.itemsOfA : Pointer := ((Pointer.root.child "definitions").child "A").child "items"

/-- A table of properties below the items of a schema with the type of objects is not visited,
although the document is read. Marking succeeds without a change, and the reserved name is still
there. -/
theorem Schema.typedItems_not_visited :
    Schema.ofJson .typedItems = .ok .typedItems ∧ Json.typedItems.Distinct ∧
      Json.typedItems.SchemaAt .itemsOfA (.object [("properties", .object [("else", .object [])])]) ∧
      visitsAt .itemsOfA Schema.typedItems.objects = [] ∧
      EscapeRule.Spares {} ⟨["else"]⟩ ∧
      Schema.typedItems.escape ⟨["else"]⟩ {} = (.typedItems, .ok 0) ∧
      Schema.typedItems.toJson = .typedItems := by
  have definition : Json.typedItems.SchemaAt ((Pointer.root.child "definitions").child "A") _ :=
    @Json.SchemaAt.definition _ _ _ .definitions _ _ rfl rfl List.mem_cons_self
  have position := Json.SchemaAt.step definition (.single rfl)
  exact ⟨Schema.ofJson_typedItems, by decide, position, rfl, by decide, rfl, rfl⟩

/-- The place of the definition of the scrambled document. -/
def Pointer.choice : Pointer := (Pointer.root.child "$defs").child "Choice"

/-- The definition of the scrambled document is visited, and after marking its table has no reserved
name. -/
theorem Schema.visits_unless_hidden_at_scrambled :
    Schema.ofJson .scrambled = .ok .scrambled ∧ Json.scrambled.Distinct ∧
      EscapeRule.Spares {} ⟨["else"]⟩ ∧
      ¬ Json.scrambled.Hidden .choice ∧
      (∃ shape, visitsAt .choice Schema.scrambled.objects = [shape] ∧
        shape.names = ["kind", "else"]) ∧
      ∃ escaped count fields table, Schema.scrambled.escape ⟨["else"]⟩ {} = (escaped, .ok count) ∧
        escaped.toJson.SchemaAt .choice (.object fields) ∧
        fields.lookup "properties" = some (.object table) ∧
        Table.keys table = ["kind", "quicktype_else"] ∧
        ¬ escaped.toJson.Hidden .choice ∧
        ∀ name ∈ Table.keys table, ReservedWords.contains ⟨["else"]⟩ name = false := by
  have distinct : Json.scrambled.Distinct := by decide
  obtain ⟨each, marked⟩ := Schema.visits_unless_hidden Schema.ofJson_scrambled distinct
  have position : Json.scrambled.SchemaAt .choice _ :=
    @Json.SchemaAt.definition _ _ _ .defs _ _ rfl rfl List.mem_cons_self
  have visible : ¬ Json.scrambled.Hidden .choice := fun hidden =>
    absurd ((each _ _ _ position rfl).2 hidden) (List.cons_ne_nil _ _)
  have spares : EscapeRule.Spares {} ⟨["else"]⟩ := by decide
  have ended : Schema.scrambled.escape ⟨["else"]⟩ {} =
      ((Schema.scrambled.escape ⟨["else"]⟩ {}).1, .ok 1) := rfl
  have written : (Schema.scrambled.escape ⟨["else"]⟩ {}).1.toJson.SchemaAt .choice _ :=
    @Json.SchemaAt.definition _ _ _ .defs _ _ rfl rfl List.mem_cons_self
  have kept : ¬ (Schema.scrambled.escape ⟨["else"]⟩ {}).1.toJson.Hidden .choice := by
    have reached := Schema.Reachable.escape (.read distinct Schema.ofJson_scrambled) ⟨["else"]⟩ {}
    intro hidden
    have again := Schema.visits_unless_hidden reached.faithful.ofJson_toJson (by decide)
    exact absurd ((again.1 _ _ _ written rfl).2 hidden) (List.cons_ne_nil _ _)
  exact ⟨Schema.ofJson_scrambled, distinct, spares, visible, (each _ _ _ position rfl).1 visible,
    _, _, _, _, ended, written, rfl, rfl, kept, marked _ _ _ _ spares ended _ _ _ written rfl kept⟩

end SchemaBindings
