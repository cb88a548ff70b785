import SchemaBindings.Schema.Conversion

/-!
# Schemas

A schema is a top-level node together with a table of definitions, which stands under
one of two keys of the top level. The key is remembered, and a table that was written
is written again even if it is empty.
-/
namespace SchemaBindings

/-- The key under which the definitions of a schema stand. Documents of different drafts have
different keys, and references go by the key. -/
inductive DefinitionsKey where
  | definitions
  | defs
deriving DecidableEq, Repr

namespace DefinitionsKey

/-- The key as it is written, in documents and in references alike. -/
def text : DefinitionsKey → String
  | .definitions => "definitions"
  | .defs => "$defs"

end DefinitionsKey

/-- A whole schema. The definitions are trees of their own beside the top level, and references
between them are texts, so nothing ensures that what they name is there. -/
structure Schema where
  root : Node
  definitions : Table Node
  /-- The key of the definitions, if the schema has settled on one. -/
  writtenKey : Option DefinitionsKey

/-- What is written around the definitions of a schema before a generator reads it. A generator
needs a title and a type to begin with, which a schema does not always have. -/
structure Envelope where
  title : String
  id : String
  draft : String
  topLevel : String
deriving DecidableEq, Repr

namespace Schema

/-- The key under which the definitions stand, or would stand if there were any. -/
def definitionsKey (schema : Schema) : DefinitionsKey := schema.writtenKey.getD .definitions

/-- Read the table of definitions, if there is one, with the key under which it stands. Two tables
are refused even if one is empty, as names could be taken from either. -/
def definitionsOf (fields : Fields) :
    Except SchemaError (Table Node × Option DefinitionsKey) :=
  let read (key : DefinitionsKey) (table : Json) :
      Except SchemaError (Table Node × Option DefinitionsKey) :=
    match table with
    | .object table =>
      match Node.tableOfJson (Pointer.root.child key.text) table with
      | .ok nodes => .ok (nodes, some key)
      | .error error => .error error
    | _ => .error (.shape (Pointer.root.child key.text) .definitionsNotObject)
  match fields.lookup "definitions", fields.lookup "$defs" with
  | some _, some _ => .error (.shape .root .bothDefinitionTables)
  | some table, none => read .definitions table
  | none, some table => read .defs table
  | none, none => .ok ([], none)

/-- Read a schema. Its definitions are read before its top level, so of two faults the one in the
definitions is reported. A truth value is a schema but not a whole one. -/
def ofJson (value : Json) : Except SchemaError Schema :=
  match value with
  | .object fields =>
    match definitionsOf fields with
    | .error error => .error error
    | .ok (definitions, key) =>
      match Node.ofFields .root (Table.erase (Table.erase fields "definitions") "$defs") with
      | .ok root => .ok ⟨root, definitions, key⟩
      | .error error => .error error
  | _ => .error (.shape .root .topLevelNotObject)

/-- The fields of the top level. A top level that is no object has none; no schema that is read has
such a one. -/
def rootFields (schema : Schema) : Fields :=
  match schema.root.toJson with
  | .object fields => fields
  | _ => []

/-- Write a schema. A table of definitions that was there is written even if it is empty, under its
key, and it comes after all other fields of the top level. -/
def toJson (schema : Schema) : Json :=
  if schema.writtenKey.isSome || !schema.definitions.isEmpty then
    .object (Table.insert schema.rootFields schema.definitionsKey.text
      (.object (Node.tableToJson schema.definitions)))
  else .object schema.rootFields

/-- The reference to a definition. It is a fragment of the document that is written, so it holds as
long as the definitions stay under their key; that there is such a definition is not looked at. -/
def referenceTo (schema : Schema) (name : String) : String :=
  "#" ++ ((Pointer.root.child schema.definitionsKey.text).child name).text

/-- Put a titled reference to the top-level type in the place of the top level. Every definition is
kept, but whatever the top level had besides is lost, a composition or properties included. -/
def enveloped (schema : Schema) (envelope : Envelope) : Schema where
  root := .reference (schema.referenceTo envelope.topLevel)
    [("title", .string envelope.title), ("$id", .string envelope.id),
     ("$schema", .string envelope.draft)]
  definitions := schema.definitions
  writtenKey := some schema.definitionsKey

end Schema

end SchemaBindings
