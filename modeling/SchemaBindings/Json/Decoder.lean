import SchemaBindings.Json.Scalar

/-!
# Reading values

A value is read either for what it is, or as a value of a given type; in the latter
case the first thing of another type is a fault, with its path. A record is read from
an object, in which fields may come in any order and unknown ones are passed over, or
from an array of its fields in order.

Brackets may nest only so far. The depth that is left is counted down from
`greatestDepth`, and only what is passed over may nest without a limit.

Reading ends with the value. Whether something else may follow it is for the caller
to say: `parseWhole` refuses it, `parseLeading` does not look.
-/
namespace SchemaBindings.Json.Decoder

/-- One more than the number of brackets that may be open. -/
def greatestDepth : Nat := 128

/-- Read an opening bracket, with the depth that is left before it. -/
def openBracket (depth : Nat) : Decoder Unit := do
  if depth ≤ 1 then failPeeked .recursionLimit else advance

/-- What comes next inside of brackets: an element, or the end. -/
def moreElements (closing : Char) (first : Bool) (atEnd noComma : ReadFault) (atElement :
    Char → Option ReadFault) : Decoder Bool := do
  match ← peekVisible with
  | none => failPeeked atEnd
  | some character =>
    if character == closing then return false
    else if first then
      match atElement character with
      | some fault => failPeeked fault
      | none => return true
    else if character == ',' then
      advance
      match ← peekVisible with
      | none => failPeeked .eofInValue
      | some next =>
        if next == closing then failPeeked .trailingComma
        else
          match atElement next with
          | some fault => failPeeked fault
          | none => return true
    else failPeeked noComma

/-- Whether another item follows in a list. -/
def moreItems (first : Bool) : Decoder Bool :=
  moreElements ']' first .eofInList .expectedListEnd fun _ => none

/-- Whether another field follows in an object. -/
def moreFields (first : Bool) : Decoder Bool :=
  moreElements '}' first .eofInObject .expectedObjectEnd fun character =>
    if character == '"' then none else some .keyNotString

/-- Read the end of a list. -/
def closeList : Decoder Unit := do
  match ← peekVisible with
  | some ']' => advance
  | some ',' =>
    advance
    if (← peekVisible) == some ']' then failPeeked .trailingComma
    else failPeeked .trailingCharacters
  | some _ => failPeeked .trailingCharacters
  | none => failPeeked .eofInList

/-- Read the end of an object. -/
def closeObject : Decoder Unit := do
  match ← peekVisible with
  | some '}' => advance
  | some ',' => failPeeked .trailingComma
  | some _ => failPeeked .trailingCharacters
  | none => failPeeked .eofInObject

/-- Read the colon between a key and its value. -/
def colon : Decoder Unit := do
  match ← peekVisible with
  | some ':' => advance
  | some _ => failPeeked .expectedColon
  | none => failPeeked .eofInObject

/-- Read the items of a list whose bracket has been opened. -/
def items {α : Type} (item : Decoder α) : (bound index : Nat) → Decoder (List α)
  | 0, _ => failHere .eofInList
  | bound + 1, index => do
    if ← moreItems (index == 0) then
      let value ← within (.index index) item
      return value :: (← items item bound (index + 1))
    else return []

/-- Read the next key of an object, if there is one. -/
def nextKey (first : Bool) : Decoder (Option String) :=
  within .unknown do
    if ← moreFields first then
      advance
      return some (← stringRest)
    else return none

/-- Read the fields of an object whose bracket has been opened. -/
def fields {α : Type} (value : Decoder α) : (bound : Nat) → (first : Bool) →
    Decoder (List (String × α))
  | 0, _ => failHere .eofInObject
  | bound + 1, first => do
    match ← nextKey first with
    | none => return []
    | some key =>
      colon
      let read ← within (.key key) value
      return (key, read) :: (← fields value bound false)

/-- Read a number whose first character comes next. -/
def signedNumber : Decoder JsonNumber := do
  if (← peek) == some '-' then
    advance
    number true
  else number false

/-- Read any value. -/
def any : (depth : Nat) → Decoder Json
  | 0 => failPeeked .recursionLimit
  | depth + 1 => do
    match ← peekVisible with
    | none => failPeeked .eofInValue
    | some 'n' =>
      advance
      word ['u', 'l', 'l']
      return .null
    | some 't' =>
      advance
      word ['r', 'u', 'e']
      return .bool true
    | some 'f' =>
      advance
      word ['a', 'l', 's', 'e']
      return .bool false
    | some '"' =>
      advance
      return .string (← stringRest)
    | some '[' =>
      openBracket (depth + 1)
      let values ← items (any depth) ((← remaining) + 1) 0
      closeList
      return .array values
    | some '{' =>
      openBracket (depth + 1)
      let pairs ← fields (any depth) ((← remaining) + 1) true
      closeObject
      return .object (Table.ofPairs pairs)
    | some character =>
      if character == '-' || isDigit character then return .number (← signedNumber)
      else failPeeked .expectedValue

/-- Report that a value of another type was expected. A scalar is read first; brackets are not. -/
def wrongType {α : Type} (expected : String) : Decoder α := do
  let found (what : Found) : Decoder α := failHere (.wrongType what expected)
  match ← peekVisible with
  | some 'n' =>
    advance
    word ['u', 'l', 'l']
    found .null
  | some 't' =>
    advance
    word ['r', 'u', 'e']
    found (.boolean true)
  | some 'f' =>
    advance
    word ['a', 'l', 's', 'e']
    found (.boolean false)
  | some '"' =>
    advance
    found (.string (← stringRest))
  | some '[' => found .sequence
  | some '{' => found .map
  | some character =>
    if character == '-' || isDigit character then
      match ← signedNumber with
      | .integer value => found (.integer value)
      | .real value => found (.real value)
    else failPeeked .expectedValue
  | none => failPeeked .eofInValue

/-- Read a string, which messages may call by another name. -/
def string (expected : String := "a string") : Decoder String := do
  match ← peekVisible with
  | some '"' =>
    advance
    stringRest
  | _ => wrongType expected

/-- Read a boolean. -/
def boolean : Decoder Bool := do
  match ← peekVisible with
  | some 't' =>
    advance
    word ['r', 'u', 'e']
    return true
  | some 'f' =>
    advance
    word ['a', 'l', 's', 'e']
    return false
  | _ => wrongType "a boolean"

/-- Read a signed integer of 64 bits. -/
def integer64 : Decoder Int := do
  match ← peekVisible with
  | some character =>
    if character == '-' || isDigit character then
      match ← signedNumber with
      | .integer value =>
        if value < twoTo 63 then return value
        else failHere (.wrongValue (.integer value) "i64")
      | .real value => failHere (.wrongType (.real value) "i64")
    else wrongType "i64"
  | none => wrongType "i64"

/-- Read a value that may be absent, which `null` says. -/
def optional {α : Type} (value : Decoder α) : Decoder (Option α) := do
  match ← peekVisible with
  | some 'n' =>
    advance
    word ['u', 'l', 'l']
    return none
  | _ => return some (← value)

/-- Read a list. -/
def list {α : Type} (item : Nat → Decoder α) (depth : Nat) : Decoder (List α) := do
  match ← peekVisible with
  | some '[' =>
    openBracket depth
    let values ← items (item (depth - 1)) ((← remaining) + 1) 0
    closeList
    return values
  | _ => wrongType "a sequence"

/-- Read a table. -/
def table {α : Type} (value : Nat → Decoder α) (depth : Nat) : Decoder (Table α) := do
  match ← peekVisible with
  | some '{' =>
    openBracket depth
    let pairs ← fields (value (depth - 1)) ((← remaining) + 1) true
    closeObject
    return Table.ofPairs pairs
  | _ => wrongType "a map"

mutual

/-- Pass over a value. -/
def skipValue : (bound : Nat) → Decoder Unit
  | 0 => failHere .eofInValue
  | bound + 1 => do
    match ← peekVisible with
    | none => failPeeked .eofInValue
    | some 'n' =>
      advance
      word ['u', 'l', 'l']
    | some 't' =>
      advance
      word ['r', 'u', 'e']
    | some 'f' =>
      advance
      word ['a', 'l', 's', 'e']
    | some '"' =>
      advance
      skipString
    | some '[' =>
      advance
      match ← peekVisible with
      | some ']' => advance
      | some _ => skipItems bound
      | none => failPeeked .eofInList
    | some '{' =>
      advance
      match ← peekVisible with
      | some '}' => advance
      | some _ => skipFields bound
      | none => failPeeked .eofInObject
    | some character =>
      if character == '-' then
        advance
        skipNumber
      else if isDigit character then skipNumber
      else failPeeked .expectedValue

/-- Pass over an item and those after it. -/
def skipItems : (bound : Nat) → Decoder Unit
  | 0 => failHere .eofInList
  | bound + 1 => do
    skipValue bound
    match ← peekVisible with
    | some ',' =>
      advance
      skipItems bound
    | some ']' => advance
    | some _ => failPeeked .expectedListEnd
    | none => failPeeked .eofInList

/-- Pass over a field and those after it. -/
def skipFields : (bound : Nat) → Decoder Unit
  | 0 => failHere .eofInObject
  | bound + 1 => do
    match ← peekVisible with
    | some '"' => advance
    | some _ => failPeeked .keyNotString
    | none => failPeeked .eofInObject
    skipString
    colon
    skipValue bound
    match ← peekVisible with
    | some ',' =>
      advance
      skipFields bound
    | some '}' => advance
    | some _ => failPeeked .expectedObjectEnd
    | none => failPeeked .eofInObject

end

/-- Pass over a value of any size. -/
def skip : Decoder Unit := do skipValue (2 * (← remaining) + 2)

/-- How a field of a record is read into the record. -/
structure RecordField (σ : Type) where
  name : String
  read : (depth : Nat) → σ → Decoder σ
  /-- Whether an array of the record's fields may end before this one. -/
  hasDefault : Bool

/-- Read the fields of a record from an object. A field is given at most once. -/
def recordFields {σ : Type} (known : List (RecordField σ)) (depth : Nat) :
    (bound : Nat) → (first : Bool) → (seen : List String) → σ → Decoder σ
  | 0, _, _, _ => failHere .eofInObject
  | bound + 1, first, seen, record => do
    match ← nextKey first with
    | none => return record
    | some key =>
      match known.find? fun field => field.name == key with
      | none =>
        colon
        within (.key key) skip
        recordFields known depth bound false seen record
      | some field =>
        if seen.contains key then failAfter '}' (.duplicateField key)
        else
          colon
          let next ← within (.key key) (field.read depth record)
          recordFields known depth bound false (key :: seen) next

/-- Read the fields of a record from an array. -/
def recordItems {σ : Type} (expected : String) (depth : Nat) :
    (index : Nat) → List (RecordField σ) → σ → Decoder σ
  | _, [], record => return record
  | index, field :: others, record => do
    if ← moreItems (index == 0) then
      let next ← within (.index index) (field.read depth record)
      recordItems expected depth (index + 1) others next
    else if field.hasDefault then recordItems expected depth (index + 1) others record
    else failAfter ']' (.wrongLength index expected)

/-- Read a record; `initial` has the values of the fields that are not given. -/
def record {σ : Type} (name : String) (known : List (RecordField σ)) (initial : σ) (depth : Nat) :
    Decoder σ := do
  match ← peekVisible with
  | some '{' =>
    openBracket depth
    let result ← recordFields known (depth - 1) ((← remaining) + 1) true [] initial
    closeObject
    return result
  | some '[' =>
    openBracket depth
    let expected := "struct " ++ name ++ " with " ++ toString known.length ++ " elements"
    let result ← recordItems expected (depth - 1) 0 known initial
    closeList
    return result
  | _ => wrongType ("struct " ++ name)

end Decoder

/-- Read a value from the beginning of a text. -/
def parseLeading {α : Type} (decoder : (depth : Nat) → Decoder α) (text : String) :
    Except ReadError α :=
  match decoder Decoder.greatestDepth (.start text) with
  | .ok (value, _) => .ok value
  | .error error => .error error

/-- Read a text that consists of one value. -/
def parseWhole (text : String) : Except ReadError Json :=
  match Decoder.any Decoder.greatestDepth (.start text) with
  | .error error => .error error
  | .ok (value, source) =>
    let visible := Decoder.skipSpace source.rest source.position
    if visible.rest.isEmpty then .ok value
    else .error ⟨.trailingCharacters, visible.peeked, []⟩

end SchemaBindings.Json
