import SchemaBindings.Pattern.Parser
import SchemaBindings.Proofs.Positions
import SchemaBindings.Text.Utf8

/-!
# Where a reference leads

The fragment of a local reference is a pointer: a list of tokens, which lead from a
document to a value in it by keys of objects and indices of arrays (RFC 6901). The nodes
of a tree are reached by steps of their own, from a node to one of those below it, and
every step is written as one or two tokens. So a way through the tree of a schema is also
a pointer. It leads, in the document from which the schema has been read, to the value
from which the node at its end has been read, and in the document that is written from
the schema, to what is written for this node.
-/
namespace SchemaBindings

namespace Json

/-- The index that a token writes, without leading zeros. -/
def arrayIndex? (token : String) : Option Nat :=
  token.toNat?.filter fun index => toString index = token

/-- The value that a token names in another. -/
def step? : Json → String → Option Json
  | .object fields, token => fields.lookup token
  | .array items, token => (arrayIndex? token).bind (items[·]?)
  | _, _ => none

/-- The value to which tokens lead from another. -/
def resolve? (value : Json) (tokens : List String) : Option Json := tokens.foldlM step? value

/-- The way in which an index is written is read as this index. -/
@[simp] theorem arrayIndex?_repr (index : Nat) : arrayIndex? index.repr = some index := by
  simp [arrayIndex?, Option.filter]

/-- Without a token, the whole value is found. -/
@[simp] theorem resolve?_nil (value : Json) : value.resolve? [] = some value := rfl

/-- The first token leads to a part, in which the others are resolved. -/
@[simp] theorem resolve?_cons (value : Json) (token : String) (tokens : List String) :
    value.resolve? (token :: tokens) = (value.step? token).bind (resolve? · tokens) := rfl

/-- Tokens can be resolved in two halves. -/
theorem resolve?_append (value : Json) (first second : List String) :
    value.resolve? (first ++ second) = (value.resolve? first).bind (resolve? · second) :=
  List.foldlM_append

/-- Tokens lead to the same from objects that agree on the first of them. -/
theorem resolve?_congr {fields others : Fields} {token : String}
    (agree : others.lookup token = fields.lookup token) (tokens : List String) :
    (object others).resolve? (token :: tokens) = (object fields).resolve? (token :: tokens) := by
  simp [step?, agree]

end Json

/-- The pointer to which tokens lead from another. -/
def Pointer.follow (pointer : Pointer) (tokens : List String) : Pointer :=
  tokens.foldl Pointer.child pointer

/-- And a pointer can go on in two halves. -/
theorem Pointer.follow_append (pointer : Pointer) (first second : List String) :
    pointer.follow (first ++ second) = (pointer.follow first).follow second :=
  List.foldl_append

namespace LocalReference

/-- The bytes that the characters of a fragment stand for; a percent sign and two hexadecimal digits
stand for one byte. -/
def bytes? : List Char → Option (List UInt8)
  | [] => some []
  | '%' :: high :: low :: rest => do
    return .ofNat ((← Pattern.hexValue high) * 16 + (← Pattern.hexValue low)) :: (← bytes? rest)
  | '%' :: _ => none
  | character :: rest => do return String.utf8EncodeChar character ++ (← bytes? rest)

/-- The tokens of a reference into its own document, one that begins with `#/`. -/
def tokens? (target : String) : Option (List String) := do
  let fragment ← Text.afterStart? ['#'] target.toList
  let pointer ← (Text.decodeFrom 0 0 (← bytes? fragment)).toOption
  let tokens ← Text.afterStart? ['/'] pointer
  return (tokens.splitOn '/').map fun token => .ofList (unescapeToken token)

/-- A reference into its own document has a token. -/
theorem tokens?_ne_nil {target : String} {tokens : List String}
    (read : tokens? target = some tokens) : tokens ≠ [] := by
  simp only [tokens?, Option.bind_eq_bind, Option.bind_eq_some_iff, Option.pure_def,
    Option.some.injEq] at read
  obtain ⟨_, _, _, _, _, _, _, _, rfl⟩ := read
  simp [List.splitOn_ne_nil]

example : tokens? "#/definitions/a~1b/%C3%A9" = some ["definitions", "a/b", "é"] := by
  decide +kernel

end LocalReference

/-- A step from a node to one below it. -/
inductive Descent where
  | property (name : String)
  | additional
  | single
  | item (index : Nat)
  | branch (kind : CompositionKind) (index : Nat)
deriving DecidableEq, Repr

namespace Descent

/-- The tokens that write a step. -/
def tokens : Descent → List String
  | .property name => ["properties", name]
  | .additional => ["additionalProperties"]
  | .single => ["items"]
  | .item index => ["items", toString index]
  | .branch kind index => [kind.keyword, toString index]

/-- The property that a step passes. -/
def properties : Descent → List String
  | .property name => [name]
  | _ => []

/-- A step is written by a keyword that holds schemas, and what follows it. -/
theorem tokens_eq (descent : Descent) :
    ∃ keyword ∈ Node.childKeywords, ∃ others, descent.tokens = keyword :: others := by
  cases descent with
  | branch kind index => exact ⟨_, Node.keyword_mem_childKeywords kind, _, rfl⟩
  | property name => exact ⟨"properties", by decide, _, rfl⟩
  | additional => exact ⟨"additionalProperties", by decide, _, rfl⟩
  | single => exact ⟨"items", by decide, _, rfl⟩
  | item index => exact ⟨"items", by decide, _, rfl⟩

end Descent

namespace Node

/-- The node to which a step leads. -/
def below? : Node → Descent → Option Node
  | .object shape, .property name => shape.properties.lookup name
  | .object ⟨_, _, _, .schema child, _⟩, .additional => some child
  | .array (.single child) _, .single => some child
  | .array (.tuple items) _, .item index => items[index]?
  | .composition present branches _, .branch kind index =>
    if present = kind then branches[index]? else none
  | _, _ => none

/-- The node to which some steps lead. -/
def at? (node : Node) (descents : List Descent) : Option Node := descents.foldlM below? node

/-- Without a step, the node itself is found. -/
@[simp] theorem at?_nil (node : Node) : node.at? [] = some node := rfl

/-- The first step leads to a child, below which the others go on. -/
@[simp] theorem at?_cons (node : Node) (descent : Descent) (descents : List Descent) :
    node.at? (descent :: descents) = (node.below? descent).bind (at? · descents) := rfl

/-- The nodes below a node, with the steps that lead to them. -/
inductive Leads : Node → Descent → Node → Prop
  | property {shape : ObjectNode} {name : String} {child : Node}
    (found : shape.properties.lookup name = some child) :
    Leads (.object shape) (.property name) child
  | additional {shape : ObjectNode} {child : Node} (held : shape.additional = .schema child) :
    Leads (.object shape) .additional child
  | single {child : Node} {extra : Fields} : Leads (.array (.single child) extra) .single child
  | item {items : List Node} {extra : Fields} {index : Nat} {child : Node}
    (found : items[index]? = some child) : Leads (.array (.tuple items) extra) (.item index) child
  | branch {kind : CompositionKind} {branches : List Node} {extra : Fields} {index : Nat}
    {child : Node} (found : branches[index]? = some child) :
    Leads (.composition kind branches extra) (.branch kind index) child

/-- What is found below a node is what the step leads to. -/
theorem leads_of_below? {node child : Node} {descent : Descent}
    (found : node.below? descent = some child) : Leads node descent child := by
  unfold below? at found
  split at found
  case h_1 => exact .property found
  case h_2 =>
    obtain rfl := Option.some.inj found
    exact .additional rfl
  case h_3 =>
    obtain rfl := Option.some.inj found
    exact .single
  case h_4 => exact .item found
  case h_5 =>
    split at found
    case isTrue same => exact same ▸ .branch found
    case isFalse => contradiction
  case h_6 => contradiction

/-- A step leads to a child. -/
theorem Leads.mem_children {node child : Node} {descent : Descent}
    (leads : Leads node descent child) : child ∈ node.children := by
  cases leads with
  | property found => exact List.mem_append_left _ (List.mem_map_of_mem (Table.mem_of_lookup found))
  | additional held => exact List.mem_append_right _ (by simp [held, Additional.nodes])
  | single => exact List.mem_cons_self
  | item found => exact List.mem_of_getElem? found
  | branch found => exact List.mem_of_getElem? found

/-! The tokens of a step lead to what is written for the child. -/

/-- What a table of nodes is written as has what is written for its nodes. -/
theorem lookup_tableToJson (table : Table Node) (key : String) :
    (tableToJson table).lookup key = (table.lookup key).map toJson := by
  rw [tableToJson_eq, Table.lookup_mapValues]

/-- The properties of an object that has some are found under their keyword. -/
theorem resolve?_property {shape : ObjectNode} (some : shape.properties ≠ []) (name : String) :
    (Node.object shape).toJson.resolve? ["properties", name] =
      (shape.properties.lookup name).map toJson := by
  obtain ⟨properties, declared, required, additional, extra⟩ := shape
  have listed : (declared || !properties.isEmpty) = true := by simp [some]
  cases required <;> cases additional <;>
    simp [toJson, listed, Json.step?, Table.lookup_insert, lookup_tableToJson]

/-- In the document that a node is written as, the tokens of a step resolve to the child, as it is
written. -/
theorem Leads.resolve? {node child : Node} {descent : Descent} (leads : Leads node descent child) :
    node.toJson.resolve? descent.tokens = some child.toJson := by
  cases leads with
  | @property shape name child found =>
    have some : shape.properties ≠ [] := by
      rintro none
      simp [none] at found
    rw [Descent.tokens, resolve?_property some, found, Option.map_some]
  | @additional shape child held =>
    obtain ⟨properties, declared, required, additional, extra⟩ := shape
    obtain rfl : additional = .schema child := held
    simp [Descent.tokens, toJson, Json.step?, Table.lookup_insert]
  | single => simp [Descent.tokens, toJson, Json.step?, Table.lookup_insert]
  | item found =>
    simp [Descent.tokens, toJson, Json.step?, Table.lookup_insert, listToJson_eq, found]
  | branch found =>
    simp [Descent.tokens, toJson, Json.step?, Table.lookup_insert, listToJson_eq, found]

/-- The tokens of steps lead to what is written for the node at their end. -/
theorem at?_resolve? {node target : Node} {descents : List Descent}
    (found : node.at? descents = some target) :
    node.toJson.resolve? (descents.flatMap Descent.tokens) = some target.toJson := by
  induction descents generalizing node with
  | nil =>
    obtain rfl := Option.some.inj found
    rfl
  | cons descent descents inductionHypothesis =>
    obtain ⟨child, first, rest⟩ := Option.bind_eq_some_iff.mp found
    rw [List.flatMap_cons, Json.resolve?_append, (leads_of_below? first).resolve?, Option.bind_some,
      inductionHypothesis rest]

/-! The tokens of a step lead to the value from which the child has been read. -/

section Reading

variable {pointer : Pointer} {fields : Fields} {node child target : Node}

/-- A node that is found in a table has been read from the value that is found under its key. -/
theorem tableOfJson_lookup {table : Fields} {nodes : Table Node}
    (read : tableOfJson pointer table = .ok nodes) {name : String}
    (found : nodes.lookup name = some node) :
    ∃ value, table.lookup name = some value ∧ ofJson (pointer.child name) value = .ok node := by
  rw [tableOfJson_ok_iff] at read
  induction read with
  | nil => contradiction
  | @cons field entry table nodes held later inductionHypothesis =>
    obtain ⟨key, value⟩ := field
    obtain ⟨rfl, below⟩ := held
    rw [List.lookup_cons] at found
    by_cases same : name = entry.1
    · rw [beq_iff_eq.mpr same] at found
      obtain rfl := Option.some.inj found
      exact ⟨value, by rw [same, List.lookup_cons_self], by rwa [same]⟩
    · rw [beq_false_of_ne same] at found
      obtain ⟨other, present, read⟩ := inductionHypothesis found
      exact ⟨other, by rwa [List.lookup_cons, beq_false_of_ne same], read⟩

/-- A node that is found in a list has been read from the value at its index. -/
theorem listOfJson_getElem? {values : List Json} {nodes : List Node} {start index : Nat}
    (read : listOfJson pointer start values = .ok nodes) (found : nodes[index]? = some node) :
    ∃ value, values[index]? = some value ∧
      ofJson (pointer.item (start + index)) value = .ok node := by
  rw [listOfJson_ok_iff] at read
  have aligned : index < (values.zipIdx start).length := by
    rw [read.length_eq]
    exact (List.getElem?_eq_some_iff.mp found).1
  rw [List.length_zipIdx] at aligned
  obtain ⟨other, present, below⟩ := listOfJson_to ((listOfJson_ok_iff _ _ _ _).mpr read)
    (List.getElem?_eq_getElem aligned)
  obtain rfl := Option.some.inj (present.symm.trans found)
  exact ⟨_, List.getElem?_eq_getElem aligned, below⟩

/-- In the document that a node is read from, the tokens of a step resolve to a value that is read
as the child. Nothing is written here, so this holds also where the node is written in another
order. -/
theorem Leads.read {descent : Descent} (leads : Leads node descent child)
    (read : Read pointer fields node) :
    ∃ value, (Json.object fields).resolve? descent.tokens = some value ∧
      ofJson (pointer.follow descent.tokens) value = .ok child := by
  cases leads with
  | @property shape name child found =>
    cases read with
    | object properties required additional direct simple asked listed demanded allowed =>
      rcases propertiesOf_from listed with rfl | ⟨table, present, below⟩
      · contradiction
      · obtain ⟨value, inside, read⟩ := tableOfJson_lookup below found
        exact ⟨value, by simp [Descent.tokens, Json.step?, present, inside], read⟩
  | additional held =>
    cases read with
    | object properties required additional direct simple asked listed demanded allowed =>
      obtain rfl : additional = .schema child := held
      obtain ⟨value, present, _, read⟩ := additionalOf_from allowed child List.mem_cons_self
      exact ⟨value, by simp [Descent.tokens, Json.step?, present], read⟩
  | single =>
    cases read with
    | single value item direct simple other present alone below =>
      exact ⟨value, by simp [Descent.tokens, Json.step?, present], below⟩
  | item found =>
    cases read with
    | tuple values items direct simple other present below =>
      obtain ⟨value, listed, read⟩ := listOfJson_getElem? below found
      refine ⟨value, by simp [Descent.tokens, Json.step?, present, listed], ?_⟩
      rwa [Nat.zero_add] at read
  | branch found =>
    cases read with
    | composition kind others values branches direct composed present below =>
      obtain ⟨value, listed, read⟩ := listOfJson_getElem? below found
      refine ⟨value, by simp [Descent.tokens, Json.step?, present, listed], ?_⟩
      rwa [Nat.zero_add] at read

/-- A node with a node below it has been read from an object. -/
theorem Leads.object_of_read {descent : Descent} (leads : Leads node descent child) {value : Json}
    (read : ofJson pointer value = .ok node) :
    ∃ fields, value = .object fields ∧ ofFields pointer fields = .ok node := by
  cases value with
  | object fields => exact ⟨fields, rfl, by rwa [ofJson] at read⟩
  | bool value =>
    rw [ofJson] at read
    obtain rfl := Except.ok.inj read
    cases leads
  | null => simp [ofJson] at read
  | number value => simp [ofJson] at read
  | string value => simp [ofJson] at read
  | array items => simp [ofJson] at read

/-- The tokens of steps lead to the value from which the node at their end has been read. -/
theorem at?_read {value : Json} {descents : List Descent} (read : ofJson pointer value = .ok node)
    (found : node.at? descents = some target) :
    ∃ inner, value.resolve? (descents.flatMap Descent.tokens) = some inner ∧
      ofJson (pointer.follow (descents.flatMap Descent.tokens)) inner = .ok target := by
  induction descents generalizing node value pointer with
  | nil =>
    obtain rfl := Option.some.inj found
    exact ⟨value, rfl, read⟩
  | cons descent descents inductionHypothesis =>
    obtain ⟨child, first, rest⟩ := Option.bind_eq_some_iff.mp found
    have leads := leads_of_below? first
    obtain ⟨fields, rfl, opened⟩ := leads.object_of_read read
    obtain ⟨middle, reached, below⟩ := leads.read (ofFields_read opened).2
    obtain ⟨inner, resolved, last⟩ := inductionHypothesis below rest
    refine ⟨inner, ?_, by rwa [List.flatMap_cons, Pointer.follow_append]⟩
    rw [List.flatMap_cons, Json.resolve?_append, reached, Option.bind_some, resolved]

end Reading

end Node

/-- A way through a schema: from a definition, or from the top level, by some steps. -/
structure Route where
  definition : Option String
  descents : List Descent
deriving DecidableEq, Repr

namespace Route

/-- The way that stays at the top level. -/
def top : Route := ⟨none, []⟩

/-- The tokens that write a way. -/
def tokens (key : DefinitionsKey) (route : Route) : List String :=
  (match route.definition with
    | some name => [key.text, name]
    | none => []) ++ route.descents.flatMap Descent.tokens

/-- The properties that a way passes. -/
def properties (route : Route) : List String := route.descents.flatMap Descent.properties

end Route

namespace Schema

/-- The node from which a way starts. -/
def start? (schema : Schema) : Option String → Option Node
  | some name => schema.definitions.lookup name
  | none => some schema.root

/-- The node to which a way leads. -/
def at? (schema : Schema) (route : Route) : Option Node :=
  (schema.start? route.definition).bind (·.at? route.descents)

/-- What a token finds in the top level is found among the fields of the top level. -/
theorem step?_root (schema : Schema) (token : String) :
    schema.root.toJson.step? token = schema.rootFields.lookup token := by
  rw [rootFields]
  cases schema.root with
  | object shape =>
    obtain ⟨properties, declared, required, additional, extra⟩ := shape
    cases additional <;> simp [Node.toJson, Json.step?]
  | array items extra => cases items <;> simp [Node.toJson, Json.step?]
  | composition kind branches extra => simp [Node.toJson, Json.step?]
  | reference target extra => simp [Node.toJson, Json.step?]
  | scalar extra => simp [Node.toJson, Json.step?]
  | bool value => simp [Node.toJson, Json.step?]

/-- The definitions are found under their key. -/
theorem resolve?_definition {schema : Schema} {name : String} {node : Node}
    (found : schema.definitions.lookup name = some node) (tokens : List String) :
    schema.toJson.resolve? (schema.definitionsKey.text :: name :: tokens) =
      node.toJson.resolve? tokens := by
  have some : schema.definitions ≠ [] := by
    intro none
    simp [none] at found
  simp [toJson, some, Json.step?, Table.lookup_insert, Node.lookup_tableToJson, found]

/-- What stands below the top level is found below it in the document. -/
theorem resolve?_root (schema : Schema) {keyword : String} (one : keyword ∈ Node.childKeywords)
    (tokens : List String) :
    schema.toJson.resolve? (keyword :: tokens) =
      schema.root.toJson.resolve? (keyword :: tokens) := by
  have other : keyword ≠ schema.definitionsKey.text := fun same =>
    not_mem_definitionsKeys one (same ▸ mem_definitionsKeys schema.definitionsKey)
  rw [Json.resolve?_cons, Json.resolve?_cons, step?_root, toJson]
  split <;> simp [Json.step?, Table.lookup_insert, other]

/-- The tokens of a way lead to what is written for the node at its end. -/
theorem at?_resolve? {schema : Schema} {route : Route} {target : Node}
    (found : schema.at? route = some target)
    (away : route ≠ .top) :
    schema.toJson.resolve? (route.tokens schema.definitionsKey) = some target.toJson := by
  obtain ⟨definition, descents⟩ := route
  obtain ⟨node, started, reached⟩ := Option.bind_eq_some_iff.mp found
  cases definition with
  | some name => exact (resolve?_definition started _).trans (Node.at?_resolve? reached)
  | none =>
    obtain rfl := Option.some.inj started
    cases descents with
    | nil => exact absurd rfl away
    | cons descent descents =>
      obtain ⟨keyword, one, others, written⟩ := descent.tokens_eq
      have resolved := Node.at?_resolve? reached
      simp only [Route.tokens, List.flatMap_cons, written, List.nil_append, List.cons_append]
        at resolved ⊢
      rw [resolve?_root schema one, resolved]

/-- The tokens of a way lead to the value from which the node at its end has been read. -/
theorem at?_read {document : Json} {schema : Schema} {route : Route} {target : Node}
    (read : ofJson document = .ok schema) (found : schema.at? route = some target)
    (away : route ≠ .top) :
    ∃ value, document.resolve? (route.tokens schema.definitionsKey) = some value ∧
      Node.ofJson (Pointer.root.follow (route.tokens schema.definitionsKey)) value =
        .ok target := by
  obtain ⟨fields, rfl, definitionsRead, rootRead⟩ := ofJson_parts read
  obtain ⟨definition, descents⟩ := route
  obtain ⟨node, started, reached⟩ := Option.bind_eq_some_iff.mp found
  cases definition with
  | some name =>
    rcases definitionsOf_read definitionsRead with ⟨none, _⟩ | ⟨key, table, settled, present, below⟩
    · simp [start?, none] at started
    · obtain ⟨value, listed, read⟩ := Node.tableOfJson_lookup below started
      obtain ⟨inner, resolved, last⟩ := Node.at?_read read reached
      have chosen : schema.definitionsKey = key := by rw [definitionsKey, settled, Option.getD_some]
      refine ⟨inner, ?_, ?_⟩
      · simpa [Route.tokens, chosen, Json.step?, present, listed] using resolved
      · simpa [Route.tokens, chosen, Pointer.follow] using last
  | none =>
    obtain rfl := Option.some.inj started
    cases descents with
    | nil => exact absurd rfl away
    | cons descent descents =>
      obtain ⟨keyword, one, others, written⟩ := descent.tokens_eq
      obtain ⟨child, first, rest⟩ := Option.bind_eq_some_iff.mp reached
      obtain ⟨middle, stepped, below⟩ :=
        (Node.leads_of_below? first).read (Node.ofFields_read rootRead).2
      obtain ⟨inner, resolved, last⟩ := Node.at?_read below rest
      have agree : fields.lookup keyword =
          (Table.erase (Table.erase fields "definitions") "$defs").lookup keyword :=
        (lookup_without_definitions fields (not_mem_definitionsKeys one)).symm
      refine ⟨inner, ?_, ?_⟩
      · simp only [Route.tokens, List.flatMap_cons, List.nil_append, Json.resolve?_append]
        rw [written, Json.resolve?_congr agree, ← written, stepped, Option.bind_some, resolved]
      · simpa only [Route.tokens, List.flatMap_cons, List.nil_append, Pointer.follow_append]
          using last

end Schema

end SchemaBindings
