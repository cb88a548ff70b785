import SchemaBindings.Unicode.LaterTables
import SchemaBindings.Unicode.WordTable
import SchemaBindings.Unicode.Category

/-!
# Classes of characters

The sets of characters that the library asks about by name. Each decides its ASCII
part directly, so that facts about plain identifiers need no table.
-/
namespace SchemaBindings.Unicode

/-- White space: the characters that trimming removes and that separate words. -/
def isBlank (character : Char) : Bool :=
  let code := character.toNat
  (9 ≤ code && code ≤ 13) || code == 0x20 || code == 0x85 || code == 0xA0 || code == 0x1680
    || (0x2000 ≤ code && code ≤ 0x200A) || code == 0x2028 || code == 0x2029 || code == 0x202F
    || code == 0x205F || code == 0x3000

/-- The ASCII letters. -/
def isAsciiLetter (character : Char) : Bool :=
  ('a' ≤ character && character ≤ 'z') || ('A' ≤ character && character ≤ 'Z')

/-- The ASCII digits. -/
def isAsciiDigit (character : Char) : Bool :=
  '0' ≤ character && character ≤ '9'

/-- ASCII letters, ASCII digits and the low line. -/
def isAsciiWord (character : Char) : Bool :=
  isAsciiLetter character || isAsciiDigit character || character == '_'

/-- Word characters. -/
def isWord (character : Char) : Bool :=
  if character.toNat < 128 then isAsciiWord character else wordTable.contains character

/-- Decimal digits of every script. -/
def isDecimal (character : Char) : Bool :=
  if character.toNat < 128 then isAsciiDigit character
  else Category.decimalNumber.contains character

/-- Alphabetic characters, by the later revision. -/
def isAlphabetic (character : Char) : Bool :=
  if character.toNat < 128 then isAsciiLetter character
  else alphabeticTable.contains character || Later.alphabetic.contains character

/-- Characters of one of the three categories of numbers, by the later revision. -/
def isNumeric (character : Char) : Bool :=
  if character.toNat < 128 then isAsciiDigit character
  else Category.decimalNumber.contains character || Category.letterNumber.contains character
    || Category.otherNumber.contains character || Later.numeric.contains character

end SchemaBindings.Unicode
