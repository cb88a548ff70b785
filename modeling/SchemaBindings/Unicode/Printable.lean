import SchemaBindings.Unicode.Category
import SchemaBindings.Unicode.LaterTables

/-!
# Characters shown in messages

Messages show a text between quotes. A character that leaves no mark of its own, or
that would join the character before it, is shown by its code point.
-/
namespace SchemaBindings.Unicode

/-- Letters that fill a place without being seen: the fillers of Korean syllables. -/
def isFiller (character : Char) : Bool :=
  let code := character.toNat
  code == 0x115F || code == 0x1160 || code == 0x3164 || code == 0xFFA0

/-- Characters without a visible form: controls, formats, fillers, separators other than the blank,
and code points without a character. -/
def isHidden (character : Char) : Bool :=
  if character.toNat < 128 then character.toNat < 32 || character.toNat == 127
  else
    isFiller character
      || (Category.unassigned.contains character && !Later.assigned.contains character)
      || [Category.control, Category.format, Category.privateUse, Category.lineSeparator,
        Category.paragraphSeparator, Category.spaceSeparator].any (·.contains character)

/-- Characters that join the character before them. -/
def extendsPrevious (character : Char) : Bool :=
  character.toNat ≥ 128 && Later.joining.contains character

/-- The digits of a number in base 16, in lower case. -/
def hexDigits (value : Nat) : List Char := Nat.toDigits 16 value

/-- A character as it is shown between quotes. -/
def shownCharacter (character : Char) : List Char :=
  match character with
  | '\x00' => ['\\', '0']
  | '\t' => ['\\', 't']
  | '\r' => ['\\', 'r']
  | '\n' => ['\\', 'n']
  | '"' => ['\\', '"']
  | '\\' => ['\\', '\\']
  | _ =>
    if isHidden character || extendsPrevious character then
      ['\\', 'u', '{'] ++ hexDigits character.toNat ++ ['}']
    else [character]

/-- A text as it is shown between quotes, with the quotes. -/
def shown (text : String) : String :=
  .ofList ('"' :: text.toList.flatMap shownCharacter ++ ['"'])

end SchemaBindings.Unicode
