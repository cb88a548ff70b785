import SchemaBindings.Pattern.Error
import SchemaBindings.Unicode.Classes

/-!
# Reading patterns

A pattern is read from left to right by recursive descent. Every step consumes
characters of the pattern or ends, so a bound of the pattern's length plus one is
enough for each loop; the bound is given by `parse` and never shows.

Blanks and comments between parts are skipped while the flag that ignores them is
on. The flag holds from where it is set to the end of the enclosing group.

Nesting is limited. The limit is checked on the finished expression, so that every
other fault of a pattern is reported first.
-/
namespace SchemaBindings.Pattern

open SchemaBindings.Unicode

/-- What the reader knows at a place of the pattern. -/
structure Reader where
  rest : List Char
  place : Place
  /-- The number of capture groups opened so far. -/
  groups : Nat
  /-- The names of groups with the place of each. -/
  names : List (String × Span)
  ignoreBlanks : Bool

/-- A step of reading, which may find a fault. -/
abbrev Parse := StateT Reader (Except Error)

/-- The place after a character. -/
def Place.after (place : Place) (character : Char) : Place :=
  if character == '\n' then ⟨place.offset + 1, place.line + 1, 1⟩
  else ⟨place.offset + 1, place.line, place.column + 1⟩

/-- Skip blanks and comments; a comment runs to the end of its line. -/
def skipBlanks (inComment : Bool) : List Char → Place → List Char × Place
  | [], place => ([], place)
  | character :: rest, place =>
    if inComment then skipBlanks (character != '\n') rest (place.after character)
    else if isBlank character then skipBlanks false rest (place.after character)
    else if character == '#' then skipBlanks true rest (place.after character)
    else (character :: rest, place)

/-- Report a fault. -/
def refuse {α : Type} (fault : Fault) (span : Span) (earlier : Option Span := none) : Parse α :=
  throw ⟨fault, span, earlier⟩

/-- The place that has been reached. -/
def here : Parse Place := do
  return (← get).place

/-- The empty stretch at the place that has been reached. -/
def emptySpan : Parse Span := do
  let place ← here
  return ⟨place, place⟩

/-- The next character, if the pattern has not ended. -/
def current : Parse (Option Char) := do
  return (← get).rest.head?

/-- The stretch of the next character. -/
def characterSpan : Parse Span := do
  let reader ← get
  return ⟨reader.place, reader.place.after (reader.rest.headD ' ')⟩

/-- Consume the next character. -/
def bump : Parse Unit :=
  modify fun reader =>
    match reader.rest with
    | [] => reader
    | character :: rest => { reader with rest := rest, place := reader.place.after character }

/-- Skip blanks and comments, where they are ignored. -/
def skip : Parse Unit :=
  modify fun reader =>
    if reader.ignoreBlanks then
      let (rest, place) := skipBlanks false reader.rest reader.place
      { reader with rest := rest, place := place }
    else reader

/-- Consume the next character and the blanks after it. -/
def bumpSkip : Parse Unit := do
  bump
  skip

/-- Consume a fixed text, if it comes next. -/
def bumpText (text : List Char) : Parse Bool := do
  if text.isPrefixOf (← get).rest then
    text.forM fun _ => bump
    return true
  else
    return false

/-- The character after the next one. -/
def second : Parse (Option Char) := do
  return ((← get).rest.drop 1).head?

/-- The character after the next one, blanks not counted where they are ignored. Of a comment
only its sign is passed over. -/
def secondSkip : Parse (Option Char) := do
  let reader ← get
  if reader.ignoreBlanks then
    let after := reader.rest.drop 1
    let visible := after.dropWhile isBlank
    let visible :=
      match visible with
      | '#' :: rest => rest.dropWhile isBlank
      | _ => visible
    return (if visible.isEmpty then after else visible).head?
  else
    return (reader.rest.drop 1).head?

/-- Consume characters of a kind, with the blanks after each where these are ignored. -/
def collect (accept : Char → Bool) : (bound : Nat) → Parse (List Char)
  | 0 => return []
  | bound + 1 => do
    match ← current with
    | some character =>
      if accept character then
        bumpSkip
        return character :: (← collect accept bound)
      else return []
    | none => return []

/-- Consume white space, whether blanks are ignored or not. -/
def skipWhiteSpace : (bound : Nat) → Parse Unit
  | 0 => return
  | bound + 1 => do
    if ((← current).map isBlank).getD false then
      bump
      skipWhiteSpace bound

/-- The number of characters left, which bounds every loop. -/
def remaining : Parse Nat := do
  return (← get).rest.length

/-- The value of a hexadecimal digit. -/
def hexValue (digit : Char) : Option Nat :=
  if isAsciiDigit digit then some (digit.toNat - '0'.toNat)
  else if 'a' ≤ digit && digit ≤ 'f' then some (digit.toNat - 'a'.toNat + 10)
  else if 'A' ≤ digit && digit ≤ 'F' then some (digit.toNat - 'A'.toNat + 10)
  else none

/-- The number that hexadecimal digits write. -/
def hexNumber (digits : List Char) : Nat :=
  digits.foldl (fun value digit => value * 16 + (hexValue digit).getD 0) 0

/-- The character with the given code point, surrogates and too large numbers excluded. -/
def scalar (code : Nat) : Option Char :=
  if code < 0xD800 || (0xE000 ≤ code && code < 0x110000) then some (Char.ofNat code) else none

/-- Characters that mean something in a pattern. -/
def isMeta (character : Char) : Bool :=
  ['\\', '.', '+', '*', '?', '(', ')', '|', '[', ']', '{', '}', '^', '$', '#', '&', '-',
    '~'].contains character

/-- Characters that may stand after a backslash for themselves. -/
def isEscapable (character : Char) : Bool :=
  isMeta character
    || (character.toNat < 128 && !isAsciiLetter character && !isAsciiDigit character
      && character != '<' && character != '>')

/-- What a single item can be, outside of classes and inside. -/
inductive Primitive where
  | literal (symbol : Literal)
  | dot (span : Span)
  | assertion (span : Span) (kind : AssertionKind)
  | letter (span : Span) (kind : LetterClass) (negated : Bool)
  | named (span : Span) (name : ClassName) (negated : Bool)

namespace Primitive

/-- Where an item was read from. -/
def span : Primitive → Span
  | .literal symbol => symbol.span
  | .dot span => span
  | .assertion span _ => span
  | .letter span _ _ => span
  | .named span _ _ => span

/-- The item as an expression of its own. -/
def expression : Primitive → Expression
  | .literal symbol => .literal symbol
  | .dot span => .dot span
  | .assertion span kind => .assertion span kind
  | .letter span kind negated => .letter span kind negated
  | .named span name negated => .named span name negated

/-- The item as a member of a class; an assertion is no member. -/
def member : Primitive → Parse ClassSet
  | .literal symbol => return .literal symbol
  | .letter span kind negated => return .letter span kind negated
  | .named span name negated => return .named span name negated
  | other => refuse .classEscapeInvalid other.span

/-- The item as an end of a range. -/
def rangeEnd : Primitive → Parse Literal
  | .literal symbol => return symbol
  | other => refuse .classRangeLiteral other.span

end Primitive

/-- Read a decimal number, with white space around it. Numbers of more than 32 bits are
refused. -/
def decimal : Parse (Except Error Nat) := do
  let bound ← remaining
  skipWhiteSpace bound
  let start ← here
  let digits ← collect isAsciiDigit bound
  let span := ⟨start, ← here⟩
  let _ ← collect isBlank bound
  if digits.isEmpty then
    return .error ⟨.repetitionCountEmpty, span, none⟩
  let value := digits.foldl (fun value digit => value * 10 + (digit.toNat - '0'.toNat)) 0
  if value < Nat.pow 2 32 then return .ok value
  else return .error ⟨.decimalInvalid, span, none⟩

/-- Read the digits of a code point whose number of digits is fixed. -/
def hexDigits : (count : Nat) → (first : Bool) → Parse (List Char)
  | 0, _ => do
    bumpSkip
    return []
  | count + 1, first => do
    if !first then
      bumpSkip
    match ← current with
    | none => refuse .escapeUnexpectedEnd (← emptySpan)
    | some digit =>
      if (hexValue digit).isNone then refuse .hexInvalidDigit (← characterSpan)
      return digit :: (← hexDigits count false)

/-- Read the digits of a code point up to the closing brace. -/
def hexBraceDigits (opened : Place) : (bound : Nat) → Parse (List Char)
  | 0 => return []
  | bound + 1 => do
    bumpSkip
    match ← current with
    | none => refuse .escapeUnexpectedEnd ⟨opened, ← here⟩
    | some digit =>
      if digit == '}' then return []
      if (hexValue digit).isNone then refuse .hexInvalidDigit (← characterSpan)
      return digit :: (← hexBraceDigits opened bound)

/-- Read a code point after its letter; `start` is the place of the backslash. -/
def hexLiteral (start : Place) (letter : Char) : Parse Literal := do
  bumpSkip
  match ← current with
  | none => refuse .escapeUnexpectedEnd (← emptySpan)
  | some '{' =>
    let opened ← here
    let first := (← characterSpan).stop
    let digits ← hexBraceDigits opened ((← remaining) + 1)
    let last ← here
    bumpSkip
    if digits.isEmpty then
      refuse .hexEmpty ⟨opened, ← here⟩
    match scalar (hexNumber digits) with
    | none => refuse .hexInvalid ⟨first, last⟩
    | some character => return ⟨⟨start, ← here⟩, character, false⟩
  | some _ =>
    let first ← here
    let count := if letter == 'x' then 2 else if letter == 'u' then 4 else 8
    let digits ← hexDigits count true
    match scalar (hexNumber digits) with
    | none => refuse .hexInvalid ⟨first, ← here⟩
    | some character => return ⟨⟨start, ← here⟩, character, letter == 'x'⟩

/-- Read the name of a class up to the closing brace. -/
def braceName : (bound : Nat) → Parse (List Char)
  | 0 => return []
  | bound + 1 => do
    bumpSkip
    match ← current with
    | none => refuse .escapeUnexpectedEnd (← emptySpan)
    | some '}' => return []
    | some character => return character :: (← braceName bound)

/-- Split a name at the first place where the separator stands. -/
def splitName (separator : List Char) : List Char → Option (List Char × List Char)
  | [] => none
  | character :: rest =>
    if separator.isPrefixOf (character :: rest) then
      some ([], (character :: rest).drop separator.length)
    else (splitName separator rest).map fun parts => (character :: parts.1, parts.2)

/-- The class that a name in braces stands for, and whether it is the complement of that class,
which it is when name and value are joined by an inequality. -/
def classNameOf (name : List Char) : ClassName × Bool :=
  match splitName ['!', '='] name with
  | some (property, value) => (.valued property value, true)
  | none =>
    match splitName [':'] name with
    | some (property, value) => (.valued property value, false)
    | none =>
      match splitName ['='] name with
      | some (property, value) => (.valued property value, false)
      | none => (.single name, false)

/-- Read a class by name; `start` is the place of the backslash. -/
def namedClass (start : Place) (negated : Bool) : Parse Primitive := do
  bumpSkip
  match ← current with
  | none => refuse .escapeUnexpectedEnd (← emptySpan)
  | some '{' =>
    let name ← braceName ((← remaining) + 1)
    bump
    let (className, isComplement) := classNameOf name
    return .named ⟨start, ← here⟩ className (negated != isComplement)
  | some '\\' => refuse .className (← characterSpan)
  | some letter =>
    bumpSkip
    return .named ⟨start, ← here⟩ (.single [letter]) negated

/-- Characters in the names of the special word boundaries. -/
def isBoundaryCharacter (character : Char) : Bool :=
  isAsciiLetter character || character == '-'

/-- Read a special word boundary in braces. Braces that cannot name one are left for the reader
of counted repetitions. -/
def specialBoundary (start : Place) : Parse (Option AssertionKind) := do
  let before ← get
  bumpSkip
  match ← current with
  | none => refuse .boundaryUnexpectedEnd ⟨start, ← here⟩
  | some first =>
    if !isBoundaryCharacter first then
      set before
      return none
    let contents ← here
    let name ← collect isBoundaryCharacter (← remaining)
    if (← current) != some '}' then
      refuse .boundaryUnclosed ⟨before.place, ← here⟩
    let stop ← here
    bump
    match String.ofList name with
    | "start" => return some .wordStart
    | "end" => return some .wordEnd
    | "start-half" => return some .wordStartHalf
    | "end-half" => return some .wordEndHalf
    | _ => refuse .boundaryUnrecognized ⟨contents, stop⟩

/-- Read what follows a backslash. -/
def escape : Parse Primitive := do
  let start ← here
  bump
  match ← current with
  | none => refuse .escapeUnexpectedEnd ⟨start, ← here⟩
  | some character =>
    if isAsciiDigit character then
      refuse .backreference ⟨start, (← characterSpan).stop⟩
    match character with
    | 'x' | 'u' | 'U' => return .literal (← hexLiteral start character)
    | 'p' => namedClass start false
    | 'P' => namedClass start true
    | _ =>
      bump
      let span : Span := ⟨start, ← here⟩
      if isEscapable character then
        return .literal ⟨span, character, false⟩
      let special (code : Nat) : Parse Primitive := return .literal ⟨span, Char.ofNat code, false⟩
      match character with
      | 'd' => return .letter span .digit false
      | 'D' => return .letter span .digit true
      | 's' => return .letter span .space false
      | 'S' => return .letter span .space true
      | 'w' => return .letter span .word false
      | 'W' => return .letter span .word true
      | 'a' => special 0x07
      | 'f' => special 0x0C
      | 't' => special 0x09
      | 'n' => special 0x0A
      | 'r' => special 0x0D
      | 'v' => special 0x0B
      | 'A' => return .assertion span .startText
      | 'z' => return .assertion span .endText
      | 'B' => return .assertion span .notWordBoundary
      | '<' => return .assertion span .wordStart
      | '>' => return .assertion span .wordEnd
      | 'b' =>
        if (← current) == some '{' then
          match ← specialBoundary start with
          | some kind => return .assertion ⟨start, ← here⟩ kind
          | none => return .assertion span .wordBoundary
        else return .assertion span .wordBoundary
      | _ => refuse .escapeUnrecognized span

/-- Read a single item outside of classes. -/
def primitive : Parse Primitive := do
  let span ← characterSpan
  match ← current with
  | some '\\' => escape
  | some '.' =>
    bump
    return .dot span
  | some '^' =>
    bump
    return .assertion span .startLine
  | some '$' =>
    bump
    return .assertion span .endLine
  | some character =>
    bump
    return .literal ⟨span, character, false⟩
  | none => refuse .escapeUnexpectedEnd span

/-- Read a single item inside a class. -/
def classPrimitive : Parse Primitive := do
  let span ← characterSpan
  match ← current with
  | some '\\' => escape
  | some character =>
    bump
    return .literal ⟨span, character, false⟩
  | none => refuse .classUnclosed span

/-- Read a member of a class: an item, or two ends of a range. -/
def classRange (opened : Span) : Parse ClassSet := do
  let first ← classPrimitive
  skip
  match ← current with
  | none => refuse .classUnclosed opened
  | some '-' =>
    let following ← secondSkip
    if following == some ']' || following == some '-' then first.member
    else
      bumpSkip
      if (← current).isNone then refuse .classUnclosed opened
      let last ← classPrimitive
      let span : Span := ⟨first.span.start, last.span.stop⟩
      let firstLiteral ← first.rangeEnd
      let lastLiteral ← last.rangeEnd
      if lastLiteral.character < firstLiteral.character then
        refuse .classRangeInvalid span
      return .range span firstLiteral lastLiteral
  | some _ => first.member

/-- The class of ASCII characters that a name stands for. -/
def asciiClassNamed (name : String) : Option AsciiClass :=
  match name with
  | "alnum" => some .alnum
  | "alpha" => some .alpha
  | "ascii" => some .ascii
  | "blank" => some .blank
  | "cntrl" => some .cntrl
  | "digit" => some .digit
  | "graph" => some .graph
  | "lower" => some .lower
  | "print" => some .print
  | "punct" => some .punct
  | "space" => some .space
  | "upper" => some .upper
  | "word" => some .word
  | "xdigit" => some .xdigit
  | _ => none

/-- Read a named class of ASCII characters. Brackets of any other form are left for the reader of
nested classes. -/
def asciiClass : Parse (Option ClassSet) := do
  let before ← get
  match before.rest with
  | '[' :: ':' :: inside =>
    let (negated, named) :=
      match inside with
      | '^' :: named => (true, named)
      | _ => (false, inside)
    let name := named.takeWhile (· != ':')
    match named.drop name.length, asciiClassNamed (.ofList name) with
    | ':' :: ']' :: _, some kind =>
      let length := 4 + name.length + (if negated then 1 else 0)
      (List.range length).forM fun _ => bump
      return some (.ascii ⟨before.place, ← here⟩ kind negated)
    | _, _ => return none
  | _ => return none

/-- Read hyphens at the beginning of a class, which stand for themselves. -/
def leadingHyphens (start : Place) : (bound : Nat) → Parse (List ClassSet)
  | 0 => return []
  | bound + 1 => do
    if (← current) == some '-' then
      let span ← characterSpan
      bumpSkip
      if (← current).isNone then refuse .classUnclosed ⟨start, start⟩
      return .literal ⟨span, '-', false⟩ :: (← leadingHyphens start bound)
    else return []

/-- What has been read of a class when its brackets have been opened. -/
structure OpenedClass where
  span : Span
  negated : Bool
  items : List ClassSet

/-- Read the beginning of a class: the bracket, the sign of negation, and the characters that
stand for themselves only here. -/
def openClass : Parse OpenedClass := do
  let start ← here
  bumpSkip
  if (← current).isNone then refuse .classUnclosed ⟨start, ← here⟩
  let negated := (← current) == some '^'
  if negated then
    bumpSkip
    if (← current).isNone then refuse .classUnclosed ⟨start, ← here⟩
  let hyphens ← leadingHyphens start (← remaining)
  if hyphens.isEmpty && (← current) == some ']' then
    let span ← characterSpan
    bumpSkip
    if (← current).isNone then refuse .classUnclosed ⟨start, ← here⟩
    return ⟨⟨start, ← here⟩, negated, [.literal ⟨span, ']', false⟩]⟩
  return ⟨⟨start, ← here⟩, negated, hyphens⟩

/-- Items side by side as one class. -/
def unionOf (place : Place) : List ClassSet → ClassSet
  | [] => .empty ⟨place, place⟩
  | [item] => item
  | first :: second :: items =>
    .union ⟨first.span.start, ((second :: items).getLast?.map (·.span.stop)).getD place⟩
      (first :: second :: items)

/-- Complete an operation whose right side has ended. All operators bind alike, to the left. -/
def completeOperation (pending : Option (ClassOperator × ClassSet)) (right : ClassSet) :
    ClassSet :=
  match pending with
  | none => right
  | some (operator, left) =>
    .operation ⟨left.span.start, right.span.stop⟩ operator left right

/-- Read the rest of a class whose brackets have been opened, with its closing bracket. The items
since the last operator are kept in reverse; `place` is where they begin. -/
def classBody (opened : OpenedClass) : (bound : Nat) → (place : Place) →
    (pending : Option (ClassOperator × ClassSet)) → (items : List ClassSet) →
    Parse (Span × ClassSet)
  | 0, _, _, _ => refuse .classUnclosed opened.span
  | bound + 1, place, pending, items => do
    skip
    let operation (operator : ClassOperator) : Parse (Span × ClassSet) := do
      bump
      bump
      let left := completeOperation pending (unionOf place items.reverse)
      classBody opened bound (← here) (some (operator, left)) []
    match ← current with
    | none => refuse .classUnclosed opened.span
    | some '[' =>
      match ← asciiClass with
      | some item => classBody opened bound place pending (item :: items)
      | none =>
        let inner ← openClass
        let (span, body) ← classBody inner bound inner.span.stop none inner.items.reverse
        classBody opened bound place pending (.bracketed span inner.negated body :: items)
    | some ']' =>
      let body := completeOperation pending (unionOf place items.reverse)
      bump
      return (⟨opened.span.start, ← here⟩, body)
    | some character =>
      let doubled := (← second) == some character
      if doubled && character == '&' then operation .intersection
      else if doubled && character == '-' then operation .difference
      else if doubled && character == '~' then operation .symmetricDifference
      else
        let item ← classRange opened.span
        classBody opened bound place pending (item :: items)

/-- Read a class in brackets. -/
def bracketedClass : Parse Expression := do
  let opened ← openClass
  let bound ← remaining
  let (span, body) ← classBody opened (bound + 1) opened.span.stop none opened.items.reverse
  return .bracketed span opened.negated body

/-- The flag that a letter stands for. -/
def flagNamed : Char → Option Flag
  | 'i' => some .caseInsensitive
  | 'm' => some .multiLine
  | 's' => some .dotMatchesNewline
  | 'U' => some .swapGreed
  | 'u' => some .unicode
  | 'R' => some .carriageReturn
  | 'x' => some .ignoreBlanks
  | _ => none

/-- The place of an earlier sign of negation. -/
def earlierNegation : List FlagItem → Option Span
  | [] => none
  | .negation span :: _ => some span
  | .flag _ _ :: items => earlierNegation items

/-- The place where a flag was given earlier. -/
def earlierFlag (flag : Flag) : List FlagItem → Option Span
  | [] => none
  | .negation _ :: items => earlierFlag flag items
  | .flag span other :: items => if other = flag then some span else earlierFlag flag items

/-- Read flags up to a colon or a closing parenthesis. -/
def flagItems : (bound : Nat) → (items : List FlagItem) → Parse (List FlagItem)
  | 0, items => return items
  | bound + 1, items => do
    let span ← characterSpan
    let next (item : FlagItem) : Parse (List FlagItem) := do
      bump
      if (← current).isNone then refuse .flagUnexpectedEnd (← emptySpan)
      flagItems bound (items ++ [item])
    match ← current with
    | some ':' | some ')' | none =>
      match items.getLast? with
      | some (.negation span) => refuse .flagDanglingNegation span
      | _ => return items
    | some '-' =>
      match earlierNegation items with
      | some earlier => refuse .flagRepeatedNegation span (some earlier)
      | none => next (.negation span)
    | some letter =>
      match flagNamed letter with
      | none => refuse .flagUnrecognized span
      | some flag =>
        match earlierFlag flag items with
        | some earlier => refuse .flagDuplicate span (some earlier)
        | none => next (.flag span flag)

/-- The state that a list of flags gives to one flag: flags after the sign of negation are turned
off. -/
def flagState (wanted : Flag) : List FlagItem → (turnsOff : Bool) → Option Bool
  | [], _ => none
  | .negation _ :: items, _ => flagState wanted items true
  | .flag _ flag :: items, turnsOff =>
    if flag = wanted then some !turnsOff else flagState wanted items turnsOff

/-- Characters in the names of groups. -/
def isNameCharacter (character : Char) (first : Bool) : Bool :=
  if first then character == '_' || isAlphabetic character
  else character == '_' || character == '.' || character == '[' || character == ']'
    || isAlphabetic character || isNumeric character

/-- Read the characters of a group's name, up to the closing sign. -/
def nameCharacters : (bound : Nat) → (first : Bool) → Parse (List Char)
  | 0, _ => return []
  | bound + 1, first => do
    match ← current with
    | none => refuse .groupNameUnexpectedEnd (← emptySpan)
    | some '>' => return []
    | some character =>
      if !isNameCharacter character first then refuse .groupNameInvalid (← characterSpan)
      bump
      return character :: (← nameCharacters bound false)

/-- Read the name of a group. Names are not repeated. -/
def groupName : Parse String := do
  let start ← here
  let characters ← nameCharacters ((← remaining) + 1) true
  let stop ← here
  bump
  if characters.isEmpty then refuse .groupNameEmpty ⟨start, start⟩
  let name := String.ofList characters
  match (← get).names.lookup name with
  | some earlier => refuse .groupNameDuplicate ⟨start, stop⟩ (some earlier)
  | none =>
    modify fun reader => { reader with names := (name, ⟨start, stop⟩) :: reader.names }
    return name

/-- What stands after an opening parenthesis. -/
inductive Opener where
  | flags (span : Span) (items : List FlagItem)
  | group (span : Span) (kind : GroupKind)

/-- Take the next number for a capture group. -/
def nextGroup : Parse Nat := do
  modify fun reader => { reader with groups := reader.groups + 1 }
  return (← get).groups

/-- Read the beginning of a group, or flags in parentheses. Empty flags are read as a repetition
of nothing. -/
def opener : Parse Opener := do
  let openSpan ← characterSpan
  bump
  skip
  if (← bumpText ['?', '=']) || (← bumpText ['?', '!']) then
    refuse .lookAround ⟨openSpan.start, ← here⟩
  if (← get).rest.take 3 == ['?', '<', '='] || (← get).rest.take 3 == ['?', '<', '!'] then
    let _ ← bumpText ((← get).rest.take 3)
    refuse .lookAround ⟨openSpan.start, ← here⟩
  let inner ← emptySpan
  if (← get).rest.take 3 == ['?', 'P', '<'] then
    let _ ← bumpText ['?', 'P', '<']
    let index ← nextGroup
    return .group openSpan (.capture index (some (← groupName)))
  if (← get).rest.take 2 == ['?', '<'] then
    let _ ← bumpText ['?', '<']
    let index ← nextGroup
    return .group openSpan (.capture index (some (← groupName)))
  if ← bumpText ['?'] then
    if (← current).isNone then refuse .groupUnclosed openSpan
    let items ← flagItems ((← remaining) + 1) []
    let closed := (← current) == some ')'
    bump
    if closed then
      if items.isEmpty then refuse .repetitionMissing inner
      return .flags ⟨openSpan.start, ← here⟩ items
    return .group openSpan (.plain items)
  return .group openSpan (.capture (← nextGroup) none)

/-- Parts one after the other as one expression. -/
def sequenceOf (span : Span) : List Expression → Expression
  | [] => .empty span
  | [part] => part
  | parts => .concatenation span parts

/-- Branches as one expression; `start` is where the first branch begins. -/
def choiceOf (start stop : Place) : List Expression → Expression
  | [] => .empty ⟨start, stop⟩
  | [branch] => branch
  | branches => .alternation ⟨start, stop⟩ branches

/-- Take away the part that a repetition applies to. Nothing and a change of flags cannot be
repeated. -/
def repeatedPart : List Expression → Parse (Expression × List Expression)
  | [] => do refuse .repetitionMissing (← emptySpan)
  | .empty _ :: _ => do refuse .repetitionMissing (← emptySpan)
  | .flags _ _ :: _ => do refuse .repetitionMissing (← emptySpan)
  | part :: parts => return (part, parts)

/-- Read a repetition without counts. -/
def simpleRepetition (least : Nat) (most : Option Nat) (parts : List Expression) :
    Parse (List Expression) := do
  let (part, parts) ← repeatedPart parts
  bump
  let lazy := (← current) == some '?'
  if lazy then bump
  return .repetition ⟨part.span.start, ← here⟩ least most (!lazy) part :: parts

/-- Read a repetition with counts in braces. -/
def countedRepetition (parts : List Expression) : Parse (List Expression) := do
  let start ← here
  let (part, parts) ← repeatedPart parts
  bumpSkip
  if (← current).isNone then refuse .repetitionCountUnclosed ⟨start, ← here⟩
  let first ← decimal
  if (← current).isNone then refuse .repetitionCountUnclosed ⟨start, ← here⟩
  let range : Nat × Option Nat ←
    if (← current) == some ',' then do
      bumpSkip
      if (← current).isNone then refuse .repetitionCountUnclosed ⟨start, ← here⟩
      if (← current) == some '}' then pure (← first, none)
      else
        let least ← first
        let most ← decimal
        pure (least, some (← most))
    else do
      let count ← first
      pure (count, some count)
  if (← current) != some '}' then refuse .repetitionCountUnclosed ⟨start, ← here⟩
  bumpSkip
  let lazy := (← current) == some '?'
  if lazy then bump
  let stop ← here
  if range.2.any (· < range.1) then refuse .repetitionCountInvalid ⟨start, stop⟩
  return .repetition ⟨part.span.start, stop⟩ range.1 range.2 (!lazy) part :: parts

/-- Read branches up to the end of the enclosing group, whose opening is `enclosing`, or of the
pattern. Finished branches and the parts of the branch being read are kept in reverse; `first`
and `start` are where the first and the present branch begin. -/
def body (enclosing : Option Span) : (bound : Nat) → (first start : Place) →
    (branches parts : List Expression) → Parse Expression
  | 0, _, _, _, _ => do refuse .groupUnclosed (enclosing.getD (← emptySpan))
  | bound + 1, first, start, branches, parts => do
    skip
    let finished : Parse (List Expression) := do
      return sequenceOf ⟨start, ← here⟩ parts.reverse :: branches
    match ← current with
    | none =>
      match enclosing with
      | some span => refuse .groupUnclosed span
      | none => return choiceOf first (← here) (← finished).reverse
    | some ')' =>
      match enclosing with
      | none => refuse .groupUnopened (← characterSpan)
      | some _ => return choiceOf first (← here) (← finished).reverse
    | some '(' =>
      match ← opener with
      | .flags span items =>
        modify fun reader =>
          { reader with
            ignoreBlanks := (flagState .ignoreBlanks items false).getD reader.ignoreBlanks }
        body enclosing bound first start branches (.flags span items :: parts)
      | .group span kind =>
        let outer := (← get).ignoreBlanks
        let inner :=
          match kind with
          | .plain items => (flagState .ignoreBlanks items false).getD outer
          | .capture _ _ => outer
        modify fun reader => { reader with ignoreBlanks := inner }
        let place ← here
        let contents ← body (some span) bound place place [] []
        modify fun reader => { reader with ignoreBlanks := outer }
        bump
        body enclosing bound first start branches
          (.group ⟨span.start, ← here⟩ kind contents :: parts)
    | some '|' =>
      let branches ← finished
      bump
      body enclosing bound first (← here) branches []
    | some '[' => body enclosing bound first start branches ((← bracketedClass) :: parts)
    | some '?' => body enclosing bound first start branches (← simpleRepetition 0 (some 1) parts)
    | some '*' => body enclosing bound first start branches (← simpleRepetition 0 none parts)
    | some '+' => body enclosing bound first start branches (← simpleRepetition 1 none parts)
    | some '{' => body enclosing bound first start branches (← countedRepetition parts)
    | some _ =>
      body enclosing bound first start branches ((← primitive).expression :: parts)

/-- How deep expressions may nest. -/
def nestLimit : Nat := 250

/-- Enter one more level, which must not pass the limit. -/
def deeper (depth : Nat) (span : Span) : Except Error Nat :=
  if depth < nestLimit then .ok (depth + 1)
  else .error ⟨.nestLimitExceeded nestLimit, span, none⟩

mutual

/-- Check the nesting of a class. -/
def ClassSet.checkNesting (depth : Nat) : ClassSet → Except Error Unit
  | .bracketed span _ body => do body.checkNesting (← deeper depth span)
  | .union span items => do checkItems (← deeper depth span) items
  | .operation span _ left right => do
    let inner ← deeper depth span
    left.checkNesting inner
    right.checkNesting inner
  | _ => .ok ()

/-- Check the nesting of each item of a class. -/
def checkItems (depth : Nat) : List ClassSet → Except Error Unit
  | [] => .ok ()
  | item :: items => do
    item.checkNesting depth
    checkItems depth items

end

mutual

/-- Check the nesting of an expression. -/
def Expression.checkNesting (depth : Nat) : Expression → Except Error Unit
  | .bracketed span _ body => do body.checkNesting (← deeper depth span)
  | .repetition span _ _ _ body => do body.checkNesting (← deeper depth span)
  | .group span _ body => do body.checkNesting (← deeper depth span)
  | .alternation span branches => do checkParts (← deeper depth span) branches
  | .concatenation span parts => do checkParts (← deeper depth span) parts
  | _ => .ok ()

/-- Check the nesting of each part of an expression. -/
def checkParts (depth : Nat) : List Expression → Except Error Unit
  | [] => .ok ()
  | part :: parts => do
    part.checkNesting depth
    checkParts depth parts

end

/-- Read a pattern. -/
def parse (pattern : List Char) : Except Error Expression := do
  let start : Place := ⟨0, 1, 1⟩
  let reader : Reader := ⟨pattern, start, 0, [], false⟩
  let (expression, _) ← (body none (pattern.length + 1) start start [] []).run reader
  expression.checkNesting 0
  return expression

end SchemaBindings.Pattern
