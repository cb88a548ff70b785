import SchemaBindings.Json.Binary64

/-!
# JSON values

Objects are lists of fields. Their order is the order in which the keys first
occurred, and it is kept by everything the library does with them. No key occurs
twice; that is a property of the values the reader builds and not of the type, so
that values can be taken apart by plain recursion.
-/
namespace SchemaBindings

/-- A number: an integer of 64 bits, signed or unsigned, or a number of double precision. -/
inductive JsonNumber where
  | integer (value : Int)
  | real (value : Json.Binary64)
deriving DecidableEq, Repr

/-- A JSON value. -/
inductive Json where
  | null
  | bool (value : Bool)
  | number (value : JsonNumber)
  | string (value : String)
  | array (items : List Json)
  | object (fields : List (String × Json))

/-- The fields of an object in order. -/
abbrev Fields := List (String × Json)

/-- A table with keys in order. -/
abbrev Table (α : Type) := List (String × α)

namespace Table

variable {α : Type}

/-- Whether a key is present. -/
def has (table : Table α) (key : String) : Bool := (table.lookup key).isSome

/-- The keys in order. -/
def keys (table : Table α) : List String := table.map (·.1)

/-- Give a key a value. A key that is present keeps its place, a new one comes last. -/
def insert (table : Table α) (key : String) (value : α) : Table α :=
  match table with
  | [] => [(key, value)]
  | (present, old) :: rest =>
    if present == key then (present, value) :: rest else (present, old) :: insert rest key value

/-- Remove a key, keeping the order of the others. -/
def erase (table : Table α) (key : String) : Table α :=
  match table with
  | [] => []
  | (present, value) :: rest =>
    if present == key then rest else (present, value) :: erase rest key

/-- A table from pairs: a repeated key replaces the value and keeps the first place. -/
def ofPairs (pairs : List (String × α)) : Table α :=
  pairs.foldl (fun table pair => insert table pair.1 pair.2) []

end Table

namespace JsonNumber

/-- Equality of numbers: an integer is never equal to a number of double precision. -/
def same : JsonNumber → JsonNumber → Bool
  | .integer left, .integer right => left == right
  | .real left, .real right => left.same right
  | _, _ => false

end JsonNumber

namespace Json

/-- A field of an object. -/
def field? (value : Json) (key : String) : Option Json :=
  match value with
  | .object fields => fields.lookup key
  | _ => none

/-- What kind of value this is, with an article. -/
def kindText : Json → String
  | .null => "null"
  | .bool _ => "a boolean"
  | .number _ => "a number"
  | .string _ => "a string"
  | .array _ => "an array"
  | .object _ => "an object"

mutual

/-- Equality of values, in which the order of fields does not count. -/
def same : Json → Json → Bool
  | .null, .null => true
  | .bool left, .bool right => left == right
  | .number left, .number right => left.same right
  | .string left, .string right => left == right
  | .array left, .array right => sameItems left right
  | .object left, .object right => left.length == right.length && sameFields left right
  | _, _ => false

/-- Equality of items in order. -/
def sameItems : List Json → List Json → Bool
  | [], [] => true
  | left :: lefts, right :: rights => left.same right && sameItems lefts rights
  | _, _ => false

/-- Whether each field has an equal one with its key. -/
def sameFields : List (String × Json) → List (String × Json) → Bool
  | [], _ => true
  | (key, left) :: lefts, rights =>
    (match rights.lookup key with
      | some right => left.same right
      | none => false) && sameFields lefts rights

end

end Json

end SchemaBindings
