import SchemaBindings.Unicode.Classes
import SchemaBindings.Unicode.Lookup
import SchemaBindings.Pattern.Expression

/-!
# Sets of characters

A set is kept as the expression that formed it. Membership is decided from the
expression, so that complements, case folding and the large classes of Unicode need
no list of members.
-/
namespace SchemaBindings.Pattern

open SchemaBindings.Unicode

/-- A set of characters. -/
inductive CharSet where
  | nothing
  | range (first last : Char)
  | word
  | digit
  | space
  | named (set : NamedSet)
  | union (left right : CharSet)
  | intersection (left right : CharSet)
  | outside (set : CharSet)
  /-- Everything equal to a member up to case. -/
  | folded (set : CharSet)
  /-- Everything equal to a member up to the case of ASCII letters. -/
  | foldedAscii (set : CharSet)

/-- The other case of an ASCII letter. -/
def asciiVariant (character : Char) : Char :=
  if 'a' ≤ character && character ≤ 'z' then Char.ofNat (character.toNat - 32)
  else if 'A' ≤ character && character ≤ 'Z' then Char.ofNat (character.toNat + 32)
  else character

namespace CharSet

/-- Membership of a character. -/
def contains : CharSet → Char → Bool
  | .nothing, _ => false
  | .range first last, character => first ≤ character && character ≤ last
  | .word, character => isWord character
  | .digit, character => isDecimal character
  | .space, character => isBlank character
  | .named set, character => set.contains character
  | .union left right, character => left.contains character || right.contains character
  | .intersection left right, character => left.contains character && right.contains character
  | .outside set, character => !set.contains character
  | .folded set, character => (caseVariants character).any fun variant => set.contains variant
  | .foldedAscii set, character =>
    set.contains character || set.contains (asciiVariant character)

/-- The set of one character. -/
def single (character : Char) : CharSet := .range character character

/-- The union of ranges. -/
def ofRanges : List (Char × Char) → CharSet
  | [] => .nothing
  | [(first, last)] => .range first last
  | (first, last) :: ranges => .union (.range first last) (ofRanges ranges)

/-- The members of the first set that are not in the second. -/
def difference (left right : CharSet) : CharSet := .intersection left (.outside right)

/-- The members of exactly one of two sets. -/
def symmetricDifference (left right : CharSet) : CharSet :=
  .union (left.difference right) (right.difference left)

/-- Complement a set if asked to. -/
def negatedIf (negated : Bool) (set : CharSet) : CharSet := if negated then .outside set else set

/-- Whether every member is ASCII, for sets of single bytes: the code points from 128 to 255
stand for the bytes outside of ASCII. -/
def isAsciiBytes (set : CharSet) : Bool :=
  (List.range 128).all fun offset => !set.contains (Char.ofNat (128 + offset))

end CharSet

/-- The members of a named class of ASCII characters. -/
def AsciiClass.set : AsciiClass → CharSet
  | .alnum => .ofRanges [('0', '9'), ('A', 'Z'), ('a', 'z')]
  | .alpha => .ofRanges [('A', 'Z'), ('a', 'z')]
  | .ascii => .ofRanges [('\x00', '\x7F')]
  | .blank => .ofRanges [('\t', '\t'), (' ', ' ')]
  | .cntrl => .ofRanges [('\x00', '\x1F'), ('\x7F', '\x7F')]
  | .digit => .ofRanges [('0', '9')]
  | .graph => .ofRanges [('!', '~')]
  | .lower => .ofRanges [('a', 'z')]
  | .print => .ofRanges [(' ', '~')]
  | .punct => .ofRanges [('!', '/'), (':', '@'), ('[', '\x60'), ('{', '~')]
  | .space => .ofRanges [('\t', '\x0D'), (' ', ' ')]
  | .upper => .ofRanges [('A', 'Z')]
  | .word => .ofRanges [('0', '9'), ('A', 'Z'), ('_', '_'), ('a', 'z')]
  | .xdigit => .ofRanges [('0', '9'), ('A', 'F'), ('a', 'f')]

/-- The members of a class with a letter of its own, with Unicode on or off. -/
def LetterClass.set (unicode : Bool) : LetterClass → CharSet
  | .digit => if unicode then .digit else AsciiClass.digit.set
  | .space => if unicode then .space else AsciiClass.space.set
  | .word => if unicode then .word else AsciiClass.word.set

end SchemaBindings.Pattern
