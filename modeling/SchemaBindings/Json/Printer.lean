import SchemaBindings.Json.Value

/-!
# Writing JSON

The compact form has no white space at all. The indented form gives each item and
each field a line, two blanks further in than the brackets; empty brackets stay
together. In strings only what has to be escaped is: quotes, backslashes and control
characters, the latter by their letter where they have one.
-/
namespace SchemaBindings.Json

/-- A hexadecimal digit in lower case. -/
def hexDigit (value : Nat) : Char :=
  if value < 10 then Char.ofNat ('0'.toNat + value) else Char.ofNat ('a'.toNat + value - 10)

/-- The written form of a character inside a string. -/
def escapedCharacter (character : Char) : List Char :=
  if character == '"' then ['\\', '"']
  else if character == '\\' then ['\\', '\\']
  else if character == '\x08' then ['\\', 'b']
  else if character == '\x0C' then ['\\', 'f']
  else if character == '\n' then ['\\', 'n']
  else if character == '\r' then ['\\', 'r']
  else if character == '\t' then ['\\', 't']
  else if character.toNat < 0x20 then
    ['\\', 'u', '0', '0', hexDigit (character.toNat / 16), hexDigit (character.toNat % 16)]
  else [character]

/-- The characters of a string, escaped where they have to be. -/
def escapedCharacters : List Char → List Char
  | [] => []
  | character :: rest => escapedCharacter character ++ escapedCharacters rest

/-- The written form of a string. -/
def quoted (text : String) : List Char := '"' :: escapedCharacters text.toList ++ ['"']

/-- The written form of a number. -/
def numberText : JsonNumber → List Char
  | .integer value => (toString value).toList
  | .real value => value.text

mutual

/-- The compact form of a value. -/
def compactText : Json → List Char
  | .null => ['n', 'u', 'l', 'l']
  | .bool true => ['t', 'r', 'u', 'e']
  | .bool false => ['f', 'a', 'l', 's', 'e']
  | .number value => numberText value
  | .string value => quoted value
  | .array [] => ['[', ']']
  | .array (item :: items) => '[' :: compactText item ++ compactItems items ++ [']']
  | .object [] => ['{', '}']
  | .object ((key, value) :: fields) =>
    '{' :: quoted key ++ ':' :: compactText value ++ compactFields fields ++ ['}']

/-- The items after the first. -/
def compactItems : List Json → List Char
  | [] => []
  | item :: items => ',' :: compactText item ++ compactItems items

/-- The fields after the first. -/
def compactFields : List (String × Json) → List Char
  | [] => []
  | (key, value) :: fields =>
    ',' :: quoted key ++ ':' :: compactText value ++ compactFields fields

end

/-- The beginning of a line at the given depth. -/
def lineStart (depth : Nat) : List Char := '\n' :: List.replicate (2 * depth) ' '

mutual

/-- The indented form of a value whose brackets stand at the given depth. -/
def indentedText (depth : Nat) : Json → List Char
  | .null => ['n', 'u', 'l', 'l']
  | .bool true => ['t', 'r', 'u', 'e']
  | .bool false => ['f', 'a', 'l', 's', 'e']
  | .number value => numberText value
  | .string value => quoted value
  | .array [] => ['[', ']']
  | .array (item :: items) =>
    '[' :: lineStart (depth + 1) ++ indentedText (depth + 1) item ++ indentedItems depth items
      ++ lineStart depth ++ [']']
  | .object [] => ['{', '}']
  | .object ((key, value) :: fields) =>
    '{' :: lineStart (depth + 1) ++ quoted key ++ [':', ' '] ++ indentedText (depth + 1) value
      ++ indentedFields depth fields ++ lineStart depth ++ ['}']

/-- The items after the first. -/
def indentedItems (depth : Nat) : List Json → List Char
  | [] => []
  | item :: items =>
    ',' :: lineStart (depth + 1) ++ indentedText (depth + 1) item ++ indentedItems depth items

/-- The fields after the first. -/
def indentedFields (depth : Nat) : List (String × Json) → List Char
  | [] => []
  | (key, value) :: fields =>
    ',' :: lineStart (depth + 1) ++ quoted key ++ [':', ' '] ++ indentedText (depth + 1) value
      ++ indentedFields depth fields

end

/-- The compact text of a value. -/
def compact (value : Json) : String := .ofList (compactText value)

/-- The indented text of a value. -/
def indented (value : Json) : String := .ofList (indentedText 0 value)

end SchemaBindings.Json
