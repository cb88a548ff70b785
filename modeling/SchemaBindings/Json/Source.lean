import SchemaBindings.Json.Value
import SchemaBindings.Unicode.Printable

/-!
# Reading JSON text: places and faults

A fault is placed by line and column. Lines count from one; the column is the number
of bytes read on the line. Some faults are noticed before the offending character is
read and are placed as if its first byte had been.

A fault also carries the path to the value in which it was found: the keys and
indices that lead there, and a question mark for a key that could not be read.
-/
namespace SchemaBindings.Json

/-- A place in a text. -/
structure Position where
  line : Nat
  column : Nat
deriving DecidableEq, Repr

/-- One step of the path to a value. -/
inductive Segment where
  | key (name : String)
  | index (position : Nat)
  | unknown
deriving DecidableEq, Repr

/-- What was found in place of a value of another type. -/
inductive Found where
  | integer (value : Int)
  | real (value : Binary64)
  | boolean (value : Bool)
  | string (value : String)
  | null
  | sequence
  | map
deriving DecidableEq, Repr

/-- Why a text cannot be read as asked. -/
inductive ReadFault where
  | eofInValue
  | eofInObject
  | eofInList
  | eofInString
  | expectedValue
  | expectedIdentifier
  | expectedColon
  | expectedObjectEnd
  | expectedListEnd
  | keyNotString
  | trailingComma
  | trailingCharacters
  | invalidNumber
  | numberOutOfRange
  | invalidEscape
  | endOfHexEscape
  | loneSurrogate
  | controlCharacter
  | recursionLimit
  | wrongType (found : Found) (expected : String)
  | wrongValue (found : Found) (expected : String)
  | wrongLength (length : Nat) (expected : String)
  | duplicateField (name : String)
  | noVariant (name : String)
deriving DecidableEq, Repr

/-- The text that describes what was found. -/
def Found.message : Found → String
  | .integer value => "integer `" ++ toString value ++ "`"
  | .real value => "floating point `" ++ String.ofList value.text ++ "`"
  | .boolean true => "boolean `true`"
  | .boolean false => "boolean `false`"
  | .string value => "string " ++ Unicode.shown value
  | .null => "null"
  | .sequence => "sequence"
  | .map => "map"

/-- The text that describes a fault, without its place. -/
def ReadFault.message : ReadFault → String
  | .eofInValue => "EOF while parsing a value"
  | .eofInObject => "EOF while parsing an object"
  | .eofInList => "EOF while parsing a list"
  | .eofInString => "EOF while parsing a string"
  | .expectedValue => "expected value"
  | .expectedIdentifier => "expected ident"
  | .expectedColon => "expected `:`"
  | .expectedObjectEnd => "expected `,` or `\x7d`"
  | .expectedListEnd => "expected `,` or `]`"
  | .keyNotString => "key must be a string"
  | .trailingComma => "trailing comma"
  | .trailingCharacters => "trailing characters"
  | .invalidNumber => "invalid number"
  | .numberOutOfRange => "number out of range"
  | .invalidEscape => "invalid escape"
  | .endOfHexEscape => "unexpected end of hex escape"
  | .loneSurrogate => "lone leading surrogate in hex escape"
  | .controlCharacter => "control character (\\u0000-\\u001F) found while parsing a string"
  | .recursionLimit => "recursion limit exceeded"
  | .wrongType found expected => "invalid type: " ++ found.message ++ ", expected " ++ expected
  | .wrongValue found expected => "invalid value: " ++ found.message ++ ", expected " ++ expected
  | .wrongLength length expected =>
    "invalid length " ++ toString length ++ ", expected " ++ expected
  | .duplicateField name => "duplicate field `" ++ name ++ "`"
  | .noVariant name => "data did not match any variant of untagged enum " ++ name

/-- A fault with its place and its path. -/
structure ReadError where
  fault : ReadFault
  position : Position
  path : List Segment
deriving DecidableEq, Repr

/-- The text of a path: keys are joined by points, indices stand in brackets, and the empty path is
a point. -/
def pathText : List Segment → String
  | [] => "."
  | segments => joined true segments
where
  /-- The segments in order; no point comes first. -/
  joined (first : Bool) : List Segment → String
    | [] => ""
    | .index position :: rest => "[" ++ toString position ++ "]" ++ joined false rest
    | .key name :: rest => (if first then "" else ".") ++ name ++ joined false rest
    | .unknown :: rest => (if first then "" else ".") ++ "?" ++ joined false rest

/-- The text of a fault with its place. -/
def ReadError.message (error : ReadError) : String :=
  error.fault.message ++ " at line " ++ toString error.position.line ++ " column "
    ++ toString error.position.column

/-- The text of a fault with its path and its place. -/
def ReadError.messageWithPath (error : ReadError) : String :=
  "at JSON path " ++ pathText error.path ++ " → " ++ error.message

/-- A text that has been read up to a place. -/
structure Source where
  rest : List Char
  position : Position
deriving DecidableEq, Repr

/-- The beginning of a text. -/
def Source.start (text : String) : Source := ⟨text.toList, ⟨1, 0⟩⟩

/-- The place after a character. -/
def Position.after (position : Position) (character : Char) : Position :=
  if character == '\n' then ⟨position.line + 1, 0⟩
  else ⟨position.line, position.column + character.utf8Size⟩

/-- The place after some bytes, which may end inside of a character. -/
def Position.afterBytes (position : Position) : (bytes : Nat) → List Char → Position
  | 0, _ => position
  | _, [] => position
  | bytes + 1, character :: rest =>
    if character == '\n' then Position.afterBytes ⟨position.line + 1, 0⟩ bytes rest
    else if bytes + 1 < character.utf8Size then
      ⟨position.line, position.column + (bytes + 1)⟩
    else
      Position.afterBytes ⟨position.line, position.column + character.utf8Size⟩
        (bytes + 1 - character.utf8Size) rest

/-- The place after a whole text. -/
def Position.afterAll (position : Position) : List Char → Position
  | [] => position
  | character :: rest => (position.after character).afterAll rest

/-- The place as if one more byte had been read. -/
def Source.peeked (source : Source) : Position := source.position.afterBytes 1 source.rest

/-- A step of reading. -/
abbrev Decoder := StateT Source (Except ReadError)

namespace Decoder

/-- Report a fault at the place that has been reached. -/
def failHere {α : Type} (fault : ReadFault) : Decoder α := fun source =>
  .error ⟨fault, source.position, []⟩

/-- Report a fault as if one more byte had been read. -/
def failPeeked {α : Type} (fault : ReadFault) : Decoder α := fun source =>
  .error ⟨fault, source.peeked, []⟩

/-- Note that a value is read below a step of the path. -/
def within {α : Type} (segment : Segment) (decoder : Decoder α) : Decoder α := fun source =>
  match decoder source with
  | .ok result => .ok result
  | .error error => .error { error with path := segment :: error.path }

/-- The next character. -/
def peek : Decoder (Option Char) := fun source => .ok (source.rest.head?, source)

/-- Read a character. -/
def advance : Decoder Unit := fun source =>
  match source.rest with
  | [] => .ok ((), source)
  | character :: rest => .ok ((), ⟨rest, source.position.after character⟩)

/-- The white space of JSON. -/
def isJsonSpace (character : Char) : Bool :=
  character == ' ' || character == '\n' || character == '\t' || character == '\r'

/-- Skip white space of a text. -/
def skipSpace : List Char → Position → Source
  | [], position => ⟨[], position⟩
  | character :: rest, position =>
    if isJsonSpace character then skipSpace rest (position.after character)
    else ⟨character :: rest, position⟩

/-- Skip white space and look at the next character. -/
def peekVisible : Decoder (Option Char) := fun source =>
  let visible := skipSpace source.rest source.position
  .ok (visible.rest.head?, visible)

/-- Report a fault about a value that has been read. It is placed after the white space that
follows, and after the closing bracket of the enclosing value if that comes next. -/
def failAfter {α : Type} (closing : Char) (fault : ReadFault) : Decoder α := fun source =>
  let visible := skipSpace source.rest source.position
  let position :=
    if visible.rest.head? == some closing then visible.peeked else visible.position
  .error ⟨fault, position, []⟩

/-- Read the rest of a fixed word. -/
def word : List Char → Decoder Unit
  | [] => return
  | expected :: others => do
    match ← peek with
    | none => failHere .eofInValue
    | some character =>
      if character == expected then
        advance
        word others
      else failPeeked .expectedIdentifier

/-- The number of characters left, which bounds every loop. -/
def remaining : Decoder Nat := fun source => .ok (source.rest.length, source)

end Decoder

end SchemaBindings.Json
