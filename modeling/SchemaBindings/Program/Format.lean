import SchemaBindings.Json.Binary64
import SchemaBindings.Program.Octets

/-!
# Formatted output

A format is written out with arguments in the places of its conversions. While
arguments are left the format is used again, and a conversion without an argument
gets the empty text or the number zero. Escapes in a format stand for single octets,
which need not be those of a text.

The command of the shell and the program of the same name follow the same rules but
for some escapes and the wording of their complaints.
-/
namespace SchemaBindings.Program

/-- The value of an octal digit. -/
def octalDigit? (character : Char) : Option Nat :=
  if '0' ≤ character && character ≤ '7' then some (character.toNat - '0'.toNat) else none

/-- The value of a hexadecimal digit. -/
def hexadecimalDigit? (character : Char) : Option Nat :=
  if character.isDigit then some (character.toNat - '0'.toNat)
  else if 'a' ≤ character && character ≤ 'f' then some (character.toNat - 'a'.toNat + 10)
  else if 'A' ≤ character && character ≤ 'F' then some (character.toNat - 'A'.toNat + 10)
  else none

/-- Read at most the given number of digits. -/
def digitsWithin (digit? : Char → Option Nat) (base : Nat) :
    (digits value : Nat) → Octets → Nat × Octets
  | 0, value, rest => (value, rest)
  | _ + 1, value, [] => (value, [])
  | digits + 1, value, character :: rest =>
    match digit? character with
    | some digit => digitsWithin digit? base digits (value * base + digit) rest
    | none => (value, character :: rest)

/-- The octet with a number, of which only the lowest eight bits count. -/
def octetOf (number : Nat) : Char := .ofNat (number % 256)

/-- The octet that a letter stands for after a backslash. -/
def escaped? : Char → Option Char
  | 'a' => some '\x07'
  | 'e' => some '\x1B'
  | 'b' => some '\x08'
  | 'f' => some '\x0C'
  | 'n' => some '\n'
  | 'r' => some '\r'
  | 't' => some '\t'
  | 'v' => some '\x0B'
  | '\\' => some '\\'
  | _ => none

/-- Whose rules are followed: those of the command of the shell, or those of the program. -/
inductive FormatRules where
  | command
  | program
deriving DecidableEq, Repr

/-- What comes after a backslash in a format: what it stands for, and what is left. None if the
output ends there. -/
def formatEscape (rules : FormatRules) : Octets → Option (Octets × Octets)
  | [] => some (['\\'], [])
  | character :: rest =>
    match escaped? character with
    | some octet => some ([octet], rest)
    | none =>
      if (octalDigit? character).isSome then
        let (value, rest) := digitsWithin octalDigit? 8 3 0 (character :: rest)
        some ([octetOf value], rest)
      else if rules = .command then some (['\\'], character :: rest)
      else
        match character, rest with
        | 'c', _ => none
        | '"', _ => some (['"'], rest)
        | 'x', digit :: _ =>
          if (hexadecimalDigit? digit).isSome then
            let (value, rest) := digitsWithin hexadecimalDigit? 16 2 0 rest
            some ([octetOf value], rest)
          else some (['\\', 'x'], rest)
        | _, _ => some (['\\', character], rest)

/-- A text with its escapes replaced, and whether the output ends with it. -/
def unescapedWithin (rules : FormatRules) : (bound : Nat) → Octets → Octets × Bool
  | 0, _ => ([], false)
  | _ + 1, [] => ([], false)
  | _ + 1, '\\' :: 'c' :: _ => ([], true)
  | bound + 1, '\\' :: '0' :: rest =>
    let (value, rest) := digitsWithin octalDigit? 8 3 0 rest
    let (others, ended) := unescapedWithin rules bound rest
    (octetOf value :: others, ended)
  | bound + 1, '\\' :: rest =>
    match formatEscape rules rest with
    | some (octets, rest) =>
      let (others, ended) := unescapedWithin rules bound rest
      (octets ++ others, ended)
    | none => ([], true)
  | bound + 1, character :: rest =>
    let (others, ended) := unescapedWithin rules bound rest
    (character :: others, ended)

/-- A text with its escapes replaced, and whether the output ends with it. -/
def unescaped (rules : FormatRules) (text : Octets) : Octets × Bool :=
  unescapedWithin rules text.length text

/-- A width or a precision: a number, or what the next argument says. -/
inductive Extent where
  | number (value : Nat)
  | argument
deriving DecidableEq, Repr

/-- A part of a format. -/
inductive FormatPart where
  | octets (value : Octets)
  | conversion (flags : List Char) (width precision : Option Extent) (letter : Char)
  /-- The output ends here. -/
  | stop
  /-- A conversion that is none; the output ends with a complaint about it. -/
  | faulty (text : Octets)
deriving DecidableEq, Repr

/-- Read a width or a precision. -/
def readExtent (text : Octets) : Option Extent × Octets :=
  match text with
  | '*' :: rest => (some .argument, rest)
  | _ =>
    let digits := text.takeWhile Char.isDigit
    ((Octets.digits? digits).map .number, text.drop digits.length)

/-- The letters of the conversions. -/
def conversionLetters : List Char := ['b', 'c', 's', 'd', 'i', 'o', 'u', 'x', 'X', 'f', 'F']

/-- Read a conversion after its percent sign. -/
def readConversion (text : Octets) : FormatPart × Octets :=
  let flags := text.takeWhile (['#', '-', '+', ' ', '0'].contains ·)
  let (width, rest) := readExtent (text.drop flags.length)
  let (precision, rest) :=
    match rest with
    | '.' :: others =>
      let (precision, others) := readExtent others
      (some (precision.getD (.number 0)), others)
    | _ => (none, rest)
  match rest with
  | [] => (.faulty ('%' :: text), [])
  | letter :: others =>
    if conversionLetters.contains letter then (.conversion flags width precision letter, others)
    else (.faulty ('%' :: text.take (text.length - others.length)), others)

/-- The parts of a format, of which at most the given number is read. -/
def formatPartsWithin (rules : FormatRules) : (bound : Nat) → Octets → List FormatPart
  | 0, _ => []
  | _ + 1, [] => []
  | bound + 1, '%' :: '%' :: rest => .octets ['%'] :: formatPartsWithin rules bound rest
  | bound + 1, '%' :: rest =>
    let (part, rest) := readConversion rest
    part :: formatPartsWithin rules bound rest
  | bound + 1, '\\' :: rest =>
    match formatEscape rules rest with
    | some (octets, rest) => .octets octets :: formatPartsWithin rules bound rest
    | none => [.stop]
  | bound + 1, character :: rest => .octets [character] :: formatPartsWithin rules bound rest

/-- The parts of a format. -/
def formatParts (rules : FormatRules) (format : Octets) : List FormatPart :=
  formatPartsWithin rules format.length format

/-- What formatted output has come to. -/
structure Formatted where
  output : Octets := []
  complaints : List Octets := []
  status : Nat := 0
  /-- Whether the format is not gone on with. -/
  stopped : Bool := false
  /-- The arguments that are left. -/
  arguments : List Octets
  /-- Whether an argument has been taken. -/
  taken : Bool := false

namespace Formatted

/-- Add to the output. -/
def add (formatted : Formatted) (octets : Octets) : Formatted :=
  { formatted with output := formatted.output ++ octets }

/-- Take the next argument, if there is one. -/
def next (formatted : Formatted) : Option Octets × Formatted :=
  match formatted.arguments with
  | [] => (none, formatted)
  | argument :: others => (some argument, { formatted with arguments := others, taken := true })

/-- Add a complaint, which makes the status one. -/
def complain (formatted : Formatted) (complaint : String) : Formatted :=
  { formatted with complaints := formatted.complaints ++ [complaint.toList], status := 1 }

end Formatted

/-- A text as it stands in complaints. -/
def quotedFor (rules : FormatRules) (text : Octets) : String :=
  match rules with
  | .command => .ofList text
  | .program => "'" ++ .ofList text ++ "'"

/-- Read a number with its sign, in the base that its beginning names. What is left is no part of
it. -/
def readInteger (text : Octets) : Int × Octets :=
  let body := text.dropWhile Char.isWhitespace
  let (negative, body) :=
    match body with
    | '-' :: rest => (true, rest)
    | '+' :: rest => (false, rest)
    | _ => (false, body)
  let read (digit? : Char → Option Nat) (base : Nat) (digits : Octets) : Int × Octets :=
    let (value, rest) := digitsWithin digit? base digits.length 0 digits
    (if negative then -(value : Int) else value, rest)
  match body with
  | '0' :: 'x' :: digit :: rest =>
    if (hexadecimalDigit? digit).isSome then read hexadecimalDigit? 16 (digit :: rest)
    else (0, 'x' :: digit :: rest)
  | '0' :: rest => read octalDigit? 8 ('0' :: rest)
  | digit :: _ =>
    if digit.isDigit then
      read (fun digit => if digit.isDigit then some (digit.toNat - '0'.toNat) else none) 10 body
    else (0, text)
  | [] => (0, text)

/-- The number that an argument gives. An argument that begins with a quote gives the octet after
it. -/
def numberOf (rules : FormatRules) (argument : Option Octets) (formatted : Formatted) :
    Int × Formatted :=
  match argument with
  | none => (0, formatted)
  | some ('"' :: character :: _) => (character.toNat, formatted)
  | some ('\'' :: character :: _) => (character.toNat, formatted)
  | some text =>
    let (value, rest) := readInteger text
    if text.isEmpty then (value, formatted)
    else if rest.length = text.length then
      let wording :=
        match rules with
        | .command => ": expected numeric value"
        | .program => ": expected a numeric value"
      (value, formatted.complain (quotedFor rules text ++ wording))
    else if !rest.isEmpty then
      let wording :=
        match rules with
        | .command => ": not completely converted"
        | .program => ": value not completely converted"
      (value, formatted.complain (quotedFor rules text ++ wording))
    else if value < -signedLimit || unsignedLimit ≤ value then
      (max (-signedLimit) (min value (signedLimit - 1)),
        formatted.complain (quotedFor rules text ++ ": Numerical result out of range"))
    else (value, formatted)

/-- Fill a text up to a width, on the right if the flags say so. -/
def padded (flags : List Char) (width : Nat) (text : Octets) : Octets :=
  let filling := List.replicate (width - text.length) ' '
  if flags.contains '-' then text ++ filling else filling ++ text

/-- Lay out a number that has a sign and digits. -/
def paddedNumber (flags : List Char) (width : Nat) (zeros : Bool) (sign digits : Octets) : Octets :=
  if zeros && flags.contains '0' && !flags.contains '-' then
    sign ++ List.replicate (width - sign.length - digits.length) '0' ++ digits
  else padded flags width (sign ++ digits)

/-- The sign that flags ask for. -/
def signFor (flags : List Char) (negative : Bool) : Octets :=
  if negative then ['-']
  else if flags.contains '+' then ['+']
  else if flags.contains ' ' then [' ']
  else []

/-- Lay out an integer. -/
def integerText (flags : List Char) (width : Nat) (precision : Option Nat) (letter : Char)
    (value : Int) : Octets :=
  let fill (digits : Octets) : Octets :=
    List.replicate (precision.getD 1 - digits.length) '0' ++ digits
  let magnitude := (value % unsignedLimit).toNat
  let inBase (base : Nat) : Octets :=
    fill (if magnitude = 0 then [] else Nat.toDigits base magnitude)
  let zeros := precision.isNone
  match letter with
  | 'o' =>
    let digits := inBase 8
    let digits :=
      if flags.contains '#' && digits.head? != some '0' then '0' :: digits else digits
    paddedNumber flags width zeros [] digits
  | 'u' => paddedNumber flags width zeros [] (inBase 10)
  | 'x' =>
    let mark := if flags.contains '#' && magnitude != 0 then ['0', 'x'] else []
    paddedNumber flags width zeros mark (inBase 16)
  | 'X' =>
    let mark := if flags.contains '#' && magnitude != 0 then ['0', 'X'] else []
    paddedNumber flags width zeros mark ((inBase 16).map Char.toUpper)
  | _ =>
    let digits := fill (if value = 0 then [] else Nat.toDigits 10 value.natAbs)
    paddedNumber flags width zeros (signFor flags (value < 0)) digits

/-- Read a decimal number; what is left is no part of it. -/
def readDecimal (text : Octets) : Option (Bool × Nat × Int × Octets) :=
  let body := text.dropWhile Char.isWhitespace
  let (negative, body) :=
    match body with
    | '-' :: rest => (true, rest)
    | '+' :: rest => (false, rest)
    | _ => (false, body)
  let whole := body.takeWhile Char.isDigit
  let rest := body.drop whole.length
  let (fraction, rest) :=
    match rest with
    | '.' :: others =>
      let fraction := others.takeWhile Char.isDigit
      (fraction, others.drop fraction.length)
    | _ => ([], rest)
  match Octets.digits? (whole ++ fraction) with
  | none => none
  | some significand =>
    let (exponent, rest) :=
      match rest with
      | letter :: others =>
        if letter == 'e' || letter == 'E' then
          let (signed, digits) :=
            match others with
            | '-' :: digits => (true, digits)
            | '+' :: digits => (false, digits)
            | _ => (false, others)
          let digits' := digits.takeWhile Char.isDigit
          match Octets.digits? digits' with
          | some value =>
            let value : Int := if signed then -(value : Int) else value
            (value, digits.drop digits'.length)
          | none => (0, rest)
        else (0, rest)
      | [] => (0, rest)
    some (negative, significand, exponent - fraction.length, rest)

/-- Lay out a decimal number with a fixed number of places. -/
def decimalText (flags : List Char) (width places : Nat) (negative : Bool) (significand : Nat)
    (exponent : Int) : Octets :=
  let exponent := max (-2000) (min exponent 400)
  let scale := Nat.pow 10 exponent.natAbs
  let ratio : Nat × Nat := if exponent < 0 then (significand, scale) else (significand * scale, 1)
  let ratio := ((Json.Binary64.ofRatio false ratio.1 ratio.2).map Json.Binary64.ratio).getD ratio
  let scaled := Json.Binary64.roundedQuotient (ratio.1 * Nat.pow 10 places) ratio.2
  let digits := Nat.toDigits 10 scaled
  let digits := List.replicate (places + 1 - digits.length) '0' ++ digits
  let whole := digits.take (digits.length - places)
  let fraction := digits.drop (digits.length - places)
  let text := if places = 0 then whole else whole ++ '.' :: fraction
  paddedNumber flags width true (signFor flags negative) text

/-- The number that a width or a precision comes to. -/
def extentOf (rules : FormatRules) (extent : Option Extent) (formatted : Formatted) :
    Option Int × Formatted :=
  match extent with
  | none => (none, formatted)
  | some (.number value) => (some value, formatted)
  | some .argument =>
    let (argument, formatted) := formatted.next
    let (value, formatted) := numberOf rules argument formatted
    (some value, formatted)

/-- Write the next argument as a conversion asks. -/
def convert (rules : FormatRules) (flags : List Char) (width precision : Option Extent)
    (letter : Char) (formatted : Formatted) : Formatted :=
  let (width, formatted) := extentOf rules width formatted
  let (precision, formatted) := extentOf rules precision formatted
  let flags := if (width.getD 0) < 0 then '-' :: flags else flags
  let width := (width.getD 0).natAbs
  let precision := (precision.filter (0 ≤ ·)).map Int.toNat
  let (argument, formatted) := formatted.next
  let text := argument.getD []
  let cut (text : Octets) : Octets := text.take (precision.getD text.length)
  match letter with
  | 's' => formatted.add (padded flags width (cut text))
  | 'b' =>
    let (text, ended) := unescaped rules text
    { formatted.add (padded flags width (cut text)) with stopped := ended }
  | 'c' => formatted.add (padded flags width [text.headD '\x00'])
  | _ =>
    if letter == 'f' || letter == 'F' then
      let places := precision.getD 6
      match argument with
      | none => formatted.add (decimalText flags width places false 0 0)
      | some text =>
        match readDecimal text with
        | some (negative, significand, exponent, rest) =>
          let formatted :=
            if rest.isEmpty then formatted
            else formatted.complain (quotedFor rules text ++ ": not completely converted")
          formatted.add (decimalText flags width places negative significand exponent)
        | none =>
          (formatted.complain (quotedFor rules text ++ ": expected numeric value")).add
            (decimalText flags width places false 0 0)
    else
      let (value, formatted) := numberOf rules argument formatted
      formatted.add (integerText flags width precision letter value)

/-- Use a format once. -/
def formatOnce (rules : FormatRules) : List FormatPart → Formatted → Formatted
  | [], formatted => formatted
  | .octets value :: parts, formatted => formatOnce rules parts (formatted.add value)
  | .stop :: _, formatted => { formatted with stopped := true }
  | .faulty text :: parts, formatted =>
    let endsOpen := parts.isEmpty && !(text.getLast?.any Char.isAlpha)
    let complaint :=
      match rules with
      | .command =>
        if endsOpen then "missing format character" else .ofList text ++ ": invalid directive"
      | .program => .ofList text ++ ": invalid conversion specification"
    { formatted.complain complaint with
      status := if rules = .command then 2 else 1, stopped := true }
  | .conversion flags width precision letter :: parts, formatted =>
    let formatted := convert rules flags width precision letter formatted
    if formatted.stopped then formatted else formatOnce rules parts formatted

/-- Use a format again while arguments are left. Every use takes one at least, or the format has no
conversion and is used once. -/
def formatAll (rules : FormatRules) (parts : List FormatPart) : (bound : Nat) → Formatted → Formatted
  | 0, formatted => formatted
  | bound + 1, formatted =>
    let after := formatOnce rules parts formatted
    if after.stopped || after.arguments.isEmpty || !after.taken then after
    else formatAll rules parts bound after

/-- Write arguments by a format. -/
def printFormatted (rules : FormatRules) (format : Octets) (arguments : List Octets) : Formatted :=
  formatAll rules (formatParts rules format) (arguments.length + 1) { arguments }

end SchemaBindings.Program
