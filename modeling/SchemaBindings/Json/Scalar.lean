import SchemaBindings.Json.Source

/-!
# Reading strings and numbers

A string may name any character by its code point in four hexadecimal digits, and a
character beyond those by a pair of surrogates. A number is an integer if it is
written as one and fits 64 bits; otherwise it has double precision, and digits beyond
the first that overflow 64 bits only count by their number.
-/
namespace SchemaBindings.Json.Decoder

/-- The value of a hexadecimal digit. -/
def hexValue (digit : Char) : Option Nat :=
  if '0' ≤ digit && digit ≤ '9' then some (digit.toNat - '0'.toNat)
  else if 'a' ≤ digit && digit ≤ 'f' then some (digit.toNat - 'a'.toNat + 10)
  else if 'A' ≤ digit && digit ≤ 'F' then some (digit.toNat - 'A'.toNat + 10)
  else none

/-- The number that four hexadecimal digits write. -/
def hexNumber : List Char → Option Nat
  | [] => some 0
  | digits => digits.foldl (fun value digit => do return (← value) * 16 + (← hexValue digit))
    (some 0)

/-- Read the four hexadecimal digits of a code point. They are taken as four bytes, whatever these
are, before they are looked at. -/
def hexEscape : Decoder Nat := fun source =>
  let bytes := (source.rest.take 4).foldl (fun sum character => sum + character.utf8Size) 0
  if bytes < 4 then
    .error ⟨.eofInString, source.position.afterAll source.rest, []⟩
  else
    match hexNumber (source.rest.take 4) with
    | some value => .ok (value, ⟨source.rest.drop 4, source.position.afterBytes 4 source.rest⟩)
    | none => .error ⟨.invalidEscape, source.position.afterBytes 4 source.rest, []⟩

/-- Read one of the two signs that have to follow the first half of a pair of surrogates. -/
def pairSign (sign : Char) : Decoder Unit := do
  match ← peek with
  | none => failHere .eofInString
  | some character => if character == sign then advance else failPeeked .endOfHexEscape

/-- Read a character named by its code point. -/
def unicodeEscape : Decoder Char := do
  let first ← hexEscape
  if 0xDC00 ≤ first && first ≤ 0xDFFF then failHere .loneSurrogate
  else if 0xD800 ≤ first && first ≤ 0xDBFF then
    pairSign '\\'
    pairSign 'u'
    let second ← hexEscape
    if second < 0xDC00 || 0xDFFF < second then failHere .loneSurrogate
    else return Char.ofNat ((first - 0xD800) * 0x400 + (second - 0xDC00) + 0x10000)
  else return Char.ofNat first

/-- Read what follows a backslash in a string. -/
def stringEscape : Decoder Char := do
  match ← peek with
  | none => failHere .eofInString
  | some character =>
    let plain (value : Char) : Decoder Char := do
      advance
      return value
    match character with
    | '"' => plain '"'
    | '\\' => plain '\\'
    | '/' => plain '/'
    | 'b' => plain '\x08'
    | 'f' => plain '\x0C'
    | 'n' => plain '\n'
    | 'r' => plain '\r'
    | 't' => plain '\t'
    | 'u' =>
      advance
      unicodeEscape
    | _ => failPeeked .invalidEscape

/-- Pass over what follows a backslash, without asking which character it names. -/
def skippedEscape : Decoder Char := do
  match ← peek with
  | some 'u' =>
    advance
    let _ ← hexEscape
    return ' '
  | _ => stringEscape

/-- Read the characters of a string up to the closing quote. `control` reports a control
character, which no string may hold as it is. -/
def stringCharacters (escape : Decoder Char) (control : Decoder (List Char)) :
    (bound : Nat) → Decoder (List Char)
  | 0 => failHere .eofInString
  | bound + 1 => do
    match ← peek with
    | none => failHere .eofInString
    | some '"' =>
      advance
      return []
    | some '\\' =>
      advance
      let character ← escape
      return character :: (← stringCharacters escape control bound)
    | some character =>
      if character.toNat < 0x20 then control
      else
        advance
        return character :: (← stringCharacters escape control bound)

/-- Read a string after its opening quote. -/
def stringRest : Decoder String := do
  return .ofList
    (← stringCharacters stringEscape (failPeeked .controlCharacter) ((← remaining) + 1))

/-- Pass over a string after its opening quote. Here a control character is reported where it
stands and not, as in a string that is read, after it. -/
def skipString : Decoder Unit := do
  let _ ← stringCharacters skippedEscape (failHere .controlCharacter) ((← remaining) + 1)

/-- Whether a character is a decimal digit. -/
def isDigit (character : Char) : Bool := '0' ≤ character && character ≤ '9'

/-- Digits that have been read: the number they write, how many of them count for it, and how many
were dropped because the number had no more room. -/
structure Digits where
  value : Nat
  kept : Nat
  dropped : Nat

/-- Read digits after those that write `value`, which fits 64 bits. From the first digit on that
does not fit any more, digits are dropped. -/
def digitsAfter (full : Bool) (digits : Digits) : (bound : Nat) → Decoder Digits
  | 0 => return digits
  | bound + 1 => do
    match ← peek with
    | some character =>
      if isDigit character then
        advance
        let value := digits.value * 10 + (character.toNat - '0'.toNat)
        if full || twoTo 64 ≤ value then
          digitsAfter true { digits with dropped := digits.dropped + 1 } bound
        else digitsAfter false { digits with value := value, kept := digits.kept + 1 } bound
      else return digits
    | none => return digits

/-- Read the digits of an exponent. One that passes 31 bits is too large for any number but
zero, and the digit that passes the limit is the last one read before that is decided. -/
def exponentDigits (positive : Bool) (zero : Bool) : (bound : Nat) → (value : Nat) → Decoder Nat
  | 0, value => return value
  | bound + 1, value => do
    match ← peek with
    | some character =>
      if isDigit character then
        advance
        let next := value * 10 + (character.toNat - '0'.toNat)
        if twoTo 31 ≤ value then exponentDigits positive zero bound value
        else if twoTo 31 ≤ next && positive && !zero then failHere .numberOutOfRange
        else exponentDigits positive zero bound next
      else return value
    | none => return value

/-- Read an exponent after its letter. -/
def exponent (zero : Bool) : Decoder Int := do
  let sign ← peek
  if sign == some '+' || sign == some '-' then advance
  let positive := sign != some '-'
  match ← peek with
  | none => failHere .eofInValue
  | some character =>
    if isDigit character then
      let value ← exponentDigits positive zero (← remaining) 0
      return if positive then Int.ofNat value else -Int.ofNat value
    else failPeeked .invalidNumber

/-- The number of double precision that parts write. -/
def realNumber (negative : Bool) (significand : Nat) (exponent : Int) : Decoder JsonNumber :=
  match Binary64.ofDecimal negative significand exponent with
  | some value => return .real value
  | none => failHere .numberOutOfRange

/-- Read an optional exponent after a significand and finish the number. -/
def finishReal (negative : Bool) (significand : Nat) (scale : Int) : Decoder JsonNumber := do
  match ← peek with
  | some 'e' | some 'E' =>
    advance
    let power ← exponent (significand == 0)
    realNumber negative significand (scale + power)
  | _ => realNumber negative significand scale

/-- Read the digits after a point and finish the number. -/
def fraction (negative : Bool) (significand : Nat) (scale : Int) : Decoder JsonNumber := do
  match ← peek with
  | none => failHere .eofInValue
  | some character =>
    if isDigit character then
      let digits ← digitsAfter false ⟨significand, 0, 0⟩ (← remaining)
      finishReal negative digits.value (scale - Int.ofNat digits.kept)
    else failPeeked .invalidNumber

/-- Finish a number whose digits before the point have been read. -/
def finishNumber (negative : Bool) (digits : Digits) : Decoder JsonNumber := do
  match ← peek with
  | some '.' =>
    advance
    fraction negative digits.value (Int.ofNat digits.dropped)
  | some 'e' | some 'E' => finishReal negative digits.value (Int.ofNat digits.dropped)
  | _ =>
    if digits.dropped != 0 then
      realNumber negative digits.value (Int.ofNat digits.dropped)
    else if !negative then return .integer (Int.ofNat digits.value)
    else if digits.value != 0 && digits.value ≤ twoTo 63 then
      return .integer (-Int.ofNat digits.value)
    else realNumber true digits.value 0

/-- Read a number after its sign. No other digit follows a zero in front. -/
def number (negative : Bool) : Decoder JsonNumber := do
  match ← peek with
  | none => failHere .eofInValue
  | some '0' =>
    advance
    match ← peek with
    | some character =>
      if isDigit character then failPeeked .invalidNumber
      else finishNumber negative ⟨0, 1, 0⟩
    | none => finishNumber negative ⟨0, 1, 0⟩
  | some character =>
    if isDigit character then
      finishNumber negative (← digitsAfter false ⟨0, 0, 0⟩ (← remaining))
    else failPeeked .invalidNumber

/-- Pass over digits. -/
def skipDigits : (bound : Nat) → Decoder Unit
  | 0 => return
  | bound + 1 => do
    if ((← peek).map isDigit).getD false then
      advance
      skipDigits bound

/-- Pass over the exponent of a number, if there is one. -/
def skipExponent : Decoder Unit := do
  match ← peek with
  | some 'e' | some 'E' =>
    advance
    let sign ← peek
    if sign == some '+' || sign == some '-' then advance
    if ((← peek).map isDigit).getD false then skipDigits (← remaining)
    else failPeeked .invalidNumber
  | _ => return

/-- Pass over a number after its sign, without asking how large it is. -/
def skipNumber : Decoder Unit := do
  let first ← peek
  if !(first.map isDigit).getD false then failPeeked .invalidNumber
  advance
  if first == some '0' then
    if ((← peek).map isDigit).getD false then failPeeked .invalidNumber
  else skipDigits (← remaining)
  if (← peek) == some '.' then
    advance
    if ((← peek).map isDigit).getD false then skipDigits (← remaining)
    else failPeeked .invalidNumber
  skipExponent

end SchemaBindings.Json.Decoder
