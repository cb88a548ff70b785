import SchemaBindings.Schema.Node

/-!
# From values to schemas and back

Reading a schema decides the kind of each node by the keywords that are present, in a
fixed order, and refuses what the tree cannot represent: keywords whose schemas it
does not model, shapes that are mixed, and parts of the wrong type. Writing a schema
puts the keywords of the typed fields after those kept in `extra`.
-/
namespace SchemaBindings

/-- Keywords whose values are schemas that the tree does not model. Their properties would be passed
over, so a node with one of them is refused, whatever its value is. -/
def unsupportedKeywords : List String :=
  ["not", "if", "then", "else", "patternProperties", "prefixItems", "additionalItems", "contains",
   "dependencies", "dependentSchemas", "propertyNames", "unevaluatedProperties",
   "unevaluatedItems"]

/-- Whether a node says by its type what it is. A list of types says nothing here, even if it has
only one. -/
def typeIs (fields : Fields) (name : String) : Bool :=
  match fields.lookup "type" with
  | some (.string value) => value == name
  | _ => false

/-- The compositions that a node has, in the order in which they are looked for. There may be
several until the node is refused for it. -/
def compositionsOf (fields : Fields) : List CompositionKind :=
  CompositionKind.all.filter fun kind => Table.has fields kind.keyword

/-- Whether a node has one of the keywords of objects. It is an object then, if it has no type at
all. -/
def hasObjectKeyword (fields : Fields) : Bool :=
  Table.has fields "properties" || Table.has fields "required"
    || Table.has fields "additionalProperties"

/-- The shapes that the keywords of a node ask for. The type does not count, so a node with a type
and the keywords of another shape is not refused for it. -/
def shapesOf (fields : Fields) : List String :=
  (if Table.has fields "$ref" then ["$ref"] else [])
    ++ (if hasObjectKeyword fields then ["object keywords"] else [])
    ++ (if Table.has fields "items" then ["items"] else [])
    ++ (if (compositionsOf fields).isEmpty then [] else ["composition"])

/-- What the keywords of a node, without a look at their values, make impossible. Definitions below
the top level are refused, since their references would not be found among those that are kept; the
top level is the only node whose pointer is empty. -/
def keywordFault (isRoot : Bool) (fields : Fields) : Option ShapeFault :=
  match unsupportedKeywords.find? fun keyword => Table.has fields keyword with
  | some keyword => some (.unsupportedKeyword keyword)
  | none =>
    if !isRoot && (Table.has fields "definitions" || Table.has fields "$defs") then
      some .nestedDefinitions
    else
      let shapes := shapesOf fields
      let compositions := compositionsOf fields
      if 1 < shapes.length || 1 < compositions.length then
        some (.mixes (shapes ++ compositions.map (·.keyword)))
      else none

/-- The names of a list of required names. The first entry that is no text refuses the list, and
names may come twice. -/
def requiredNames : List Json → Except ShapeFault (List String)
  | [] => .ok []
  | .string name :: rest =>
    match requiredNames rest with
    | .ok names => .ok (name :: names)
    | .error fault => .error fault
  | _ :: _ => .error .requiredNotStrings

/-- The required names of an object node. An absent list is told from an empty one, and both are
written as they were. -/
def requiredOf (fields : Fields) : Except ShapeFault (Option (List String)) :=
  match fields.lookup "required" with
  | none => .ok none
  | some (.array names) =>
    match requiredNames names with
    | .ok names => .ok (some names)
    | .error fault => .error fault
  | some _ => .error .requiredNotArray

/-- What an object node keeps as it is: all keywords but the three that are in fields of their own.
Among them may be `items`, if the type says that this is an object. -/
def objectExtra (fields : Fields) : Fields :=
  Table.erase (Table.erase (Table.erase fields "properties") "required") "additionalProperties"

/-- A field is smaller than its object, wherever it stands in it. This is what the reading of nodes
ends by, as it goes from an object to the values of its fields. -/
theorem sizeOf_lookup {fields : Fields} {key : String} {value : Json}
    (found : fields.lookup key = some value) : sizeOf value < sizeOf fields := by
  induction fields with
  | nil => simp at found
  | cons field rest inductionHypothesis =>
    obtain ⟨name, present⟩ := field
    rw [List.lookup_cons] at found
    split at found
    · injection found with same
      subst same
      simp only [List.cons.sizeOf_spec, Prod.mk.sizeOf_spec]
      omega
    · have smaller := inductionHypothesis found
      simp only [List.cons.sizeOf_spec]
      omega

section Reading

-- The equations that the matches name are used by the proofs of termination only.
set_option linter.unusedVariables false

mutual

/-- Read a node. A truth value is a schema as well, and everything else is an object or refused with
the name of what it is. -/
def Node.ofJson (pointer : Pointer) (value : Json) : Except SchemaError Node :=
  match value with
  | .bool value => .ok (.bool value)
  | .object fields => Node.ofFields pointer fields
  | other => .error (.shape pointer (.notASchema other.kindText))
termination_by 2 * sizeOf value
decreasing_by
  simp only [Json.object.sizeOf_spec]
  omega

/-- Read a node from its fields. References come before compositions, these before objects, and
these before arrays, and what remains is a scalar. Where the keywords leave it open, the type
decides; with keywords of objects it is not asked. -/
def Node.ofFields (pointer : Pointer) (fields : Fields) : Except SchemaError Node :=
  match keywordFault pointer.isRoot fields with
  | some fault => .error (.shape pointer fault)
  | none =>
    match fields.lookup "$ref" with
    | some (.string target) => .ok (.reference target (Table.erase fields "$ref"))
    | some _ => .error (.shape pointer .referenceNotString)
    | none =>
      match compositionsOf fields with
      | kind :: _ =>
        match found : fields.lookup kind.keyword with
        | some (.array branches) =>
          match Node.listOfJson (pointer.child kind.keyword) 0 branches with
          | .ok branches => .ok (.composition kind branches (Table.erase fields kind.keyword))
          | .error error => .error error
        | _ => .error (.shape pointer (.compositionNotArray kind.keyword))
      | [] =>
        if hasObjectKeyword fields || typeIs fields "object" then
          match Node.propertiesOf pointer fields with
          | .error error => .error error
          | .ok properties =>
            match requiredOf fields with
            | .error fault => .error (.shape pointer fault)
            | .ok required =>
              match Node.additionalOf pointer fields with
              | .error error => .error error
              | .ok additional =>
                .ok (.object ⟨properties, Table.has fields "properties", required, additional,
                  objectExtra fields⟩)
        else if Table.has fields "items" || typeIs fields "array" then
          match found : fields.lookup "items" with
          | none => .ok (.array .absent fields)
          | some (.array items) =>
            match Node.listOfJson (pointer.child "items") 0 items with
            | .ok items => .ok (.array (.tuple items) (Table.erase fields "items"))
            | .error error => .error error
          | some item =>
            match Node.ofJson (pointer.child "items") item with
            | .ok item => .ok (.array (.single item) (Table.erase fields "items"))
            | .error error => .error error
        else .ok (.scalar fields)
termination_by 2 * sizeOf fields + 1
decreasing_by
  all_goals first
    | omega
    | (have smaller := sizeOf_lookup found
       try simp only [Json.array.sizeOf_spec] at smaller
       omega)

/-- Read the properties of an object node. An object without the keyword has none, and it is
remembered elsewhere that it was not there. -/
def Node.propertiesOf (pointer : Pointer) (fields : Fields) :
    Except SchemaError (List (String × Node)) :=
  match found : fields.lookup "properties" with
  | none => .ok []
  | some (.object table) => Node.tableOfJson (pointer.child "properties") table
  | some _ => .error (.shape pointer .propertiesNotObject)
termination_by 2 * sizeOf fields
decreasing_by
  have smaller := sizeOf_lookup found
  simp only [Json.object.sizeOf_spec] at smaller
  omega

/-- Read what an object node may have beyond its properties. A truth value is not read as a node
here, so that it is written back without one. -/
def Node.additionalOf (pointer : Pointer) (fields : Fields) :
    Except SchemaError (Additional Node) :=
  match found : fields.lookup "additionalProperties" with
  | none => .ok .absent
  | some (.bool value) => .ok (.allowed value)
  | some value =>
    match Node.ofJson (pointer.child "additionalProperties") value with
    | .ok node => .ok (.schema node)
    | .error error => .error error
termination_by 2 * sizeOf fields
decreasing_by
  have smaller := sizeOf_lookup found
  omega

/-- Read the nodes of a table in its order. The first node that is refused refuses the table. -/
def Node.tableOfJson (pointer : Pointer) (table : Fields) :
    Except SchemaError (List (String × Node)) :=
  match table with
  | [] => .ok []
  | (name, value) :: rest =>
    match Node.ofJson (pointer.child name) value with
    | .error error => .error error
    | .ok node =>
      match Node.tableOfJson pointer rest with
      | .error error => .error error
      | .ok nodes => .ok ((name, node) :: nodes)
termination_by 2 * sizeOf table

/-- Read the nodes of a list, which stand at their indices; `index` is the number of those before.
-/
def Node.listOfJson (pointer : Pointer) (index : Nat) (values : List Json) :
    Except SchemaError (List Node) :=
  match values with
  | [] => .ok []
  | value :: rest =>
    match Node.ofJson (pointer.item index) value with
    | .error error => .error error
    | .ok node =>
      match Node.listOfJson pointer (index + 1) rest with
      | .error error => .error error
      | .ok nodes => .ok (node :: nodes)
termination_by 2 * sizeOf values

end

end Reading

mutual

/-- Write a node. The keywords of the fields come after those that were kept, in an order of their
own, so the document need not have the order in which it was read. -/
def Node.toJson : Node → Json
  | .bool value => .bool value
  | .scalar extra => .object extra
  | .reference target extra => .object (Table.insert extra "$ref" (.string target))
  | .composition kind branches extra =>
    .object (Table.insert extra kind.keyword (.array (Node.listToJson branches)))
  | .array .absent extra => .object extra
  | .array (.single item) extra => .object (Table.insert extra "items" item.toJson)
  | .array (.tuple items) extra =>
    .object (Table.insert extra "items" (.array (Node.listToJson items)))
  | .object ⟨properties, declared, required, additional, extra⟩ =>
    let fields :=
      if declared || !properties.isEmpty then
        Table.insert extra "properties" (.object (Node.tableToJson properties))
      else extra
    let fields :=
      match required with
      | none => fields
      | some names => Table.insert fields "required" (.array (names.map .string))
    match additional with
    | .absent => .object fields
    | .allowed value => .object (Table.insert fields "additionalProperties" (.bool value))
    | .schema node => .object (Table.insert fields "additionalProperties" node.toJson)

/-- Write the nodes of a table in its order, under the same names. -/
def Node.tableToJson : Table Node → Fields
  | [] => []
  | (name, node) :: rest => (name, node.toJson) :: Node.tableToJson rest

/-- Write the nodes of a list in its order. -/
def Node.listToJson : List Node → List Json
  | [] => []
  | node :: rest => node.toJson :: Node.listToJson rest

end

end SchemaBindings
