import SchemaBindings.Text.Utf8

/-!
# Octets

Programs deal in bytes. A byte is kept as the character with its number, so that a
script and what it works on can be taken apart like texts, and no byte is lost that is
no part of a text.
-/
namespace SchemaBindings.Program

/-- A row of bytes, each of which is kept as a character. -/
abbrev Octets := List Char

namespace Octets

/-- The octets of bytes. -/
def ofBytes (bytes : List UInt8) : Octets := bytes.map fun byte => .ofNat byte.toNat

/-- The bytes that octets are kept for. -/
def bytes (octets : Octets) : List UInt8 := octets.map fun octet => .ofNat octet.toNat

/-- The octets of a text. -/
def ofText (text : String) : Octets := ofBytes (Text.encode text.toList)

/-- The text of octets; what is no part of a text is replaced. -/
def text (octets : Octets) : String := .ofList (Text.decodeReplacing 0 (bytes octets))

/-- Join octets with a separator between them. -/
def joined (separator : Octets) (parts : List Octets) : Octets :=
  (parts.intersperse separator).flatten

/-- The lines of octets, each with its end if it has one; what has been read of the first line is
given in reverse. -/
def linesFrom (pending : Octets) : Octets → List Octets
  | [] => if pending.isEmpty then [] else [pending.reverse]
  | '\n' :: rest => ('\n' :: pending).reverse :: linesFrom [] rest
  | octet :: rest => linesFrom (octet :: pending) rest

/-- The lines of octets, each with its end if it has one. -/
def lines (octets : Octets) : List Octets := linesFrom [] octets

/-- Octets without the line feeds at their end. -/
def withoutLastFeeds (octets : Octets) : Octets :=
  (octets.reverse.dropWhile (· == '\n')).reverse

/-- The octets of a number. -/
def ofNumber (number : Int) : Octets := (toString number).toList

/-- The number that decimal digits stand for. -/
def digits? (octets : Octets) : Option Nat :=
  if octets.isEmpty || !octets.all Char.isDigit then none
  else some (octets.foldl (fun value digit => value * 10 + (digit.toNat - '0'.toNat)) 0)

/-- The number that decimal digits stand for, which may have a sign and blanks around them. -/
def integer? (octets : Octets) : Option Int :=
  let isBlank (octet : Char) : Bool := octet.isWhitespace || octet == '\x0B' || octet == '\x0C'
  let trimmed := ((octets.dropWhile isBlank).reverse.dropWhile isBlank).reverse
  match trimmed with
  | '-' :: rest => (digits? rest).map fun value => -(value : Int)
  | '+' :: rest => (digits? rest).map Int.ofNat
  | rest => (digits? rest).map Int.ofNat

end Octets

/-- One more than the greatest number of a word of 64 bits with a sign. -/
def signedLimit : Int := 9223372036854775808

/-- One more than the greatest number of a word of 64 bits without a sign. -/
def unsignedLimit : Int := 18446744073709551616

end SchemaBindings.Program
