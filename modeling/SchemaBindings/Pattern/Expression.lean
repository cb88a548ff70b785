/-!
# Pattern expressions

The structure of a pattern as it is written. Every part knows the stretch of the
pattern that it was read from, so that a fault found later, while the expression is
given its meaning, can still be shown in place.
-/
namespace SchemaBindings.Pattern

/-- A place between two characters of a pattern. Lines and columns count from one, and columns
count characters. -/
structure Place where
  offset : Nat
  line : Nat
  column : Nat
deriving DecidableEq, Repr

/-- A stretch of a pattern. -/
structure Span where
  start : Place
  stop : Place
deriving DecidableEq, Repr

/-- The switches that a pattern may turn on and off. -/
inductive Flag where
  | caseInsensitive
  | multiLine
  | dotMatchesNewline
  | swapGreed
  | unicode
  | carriageReturn
  | ignoreBlanks
deriving DecidableEq, Repr

/-- One entry of a group of flags: a flag, or the sign after which flags are turned off. -/
inductive FlagItem where
  | negation (span : Span)
  | flag (span : Span) (flag : Flag)
deriving DecidableEq, Repr

/-- A character as it stands in a pattern. The two-digit form of a code point is told apart,
because outside of Unicode it means a byte. -/
structure Literal where
  span : Span
  character : Char
  isByte : Bool
deriving DecidableEq, Repr

/-- The classes that have a letter of their own. -/
inductive LetterClass where
  | digit
  | space
  | word
deriving DecidableEq, Repr

/-- The classes of ASCII characters that have a name inside brackets. -/
inductive AsciiClass where
  | alnum
  | alpha
  | ascii
  | blank
  | cntrl
  | digit
  | graph
  | lower
  | print
  | punct
  | space
  | upper
  | word
  | xdigit
deriving DecidableEq, Repr

/-- A class of characters by name: one name, or a property with a value. -/
inductive ClassName where
  | single (name : List Char)
  | valued (property value : List Char)
deriving DecidableEq, Repr

/-- The operators between classes. -/
inductive ClassOperator where
  | intersection
  | difference
  | symmetricDifference
deriving DecidableEq, Repr

/-- What stands between the brackets of a class. -/
inductive ClassSet where
  | empty (span : Span)
  | literal (literal : Literal)
  | range (span : Span) (first last : Literal)
  | ascii (span : Span) (kind : AsciiClass) (negated : Bool)
  | letter (span : Span) (kind : LetterClass) (negated : Bool)
  | named (span : Span) (name : ClassName) (negated : Bool)
  | bracketed (span : Span) (negated : Bool) (body : ClassSet)
  | union (span : Span) (items : List ClassSet)
  | operation (span : Span) (operator : ClassOperator) (left right : ClassSet)

/-- The assertions about a place in the text. -/
inductive AssertionKind where
  | startLine
  | endLine
  | startText
  | endText
  | wordBoundary
  | notWordBoundary
  | wordStart
  | wordEnd
  | wordStartHalf
  | wordEndHalf
deriving DecidableEq, Repr

/-- What a group is for. -/
inductive GroupKind where
  | capture (index : Nat) (name : Option String)
  | plain (flags : List FlagItem)
deriving DecidableEq, Repr

/-- A pattern as it is written. -/
inductive Expression where
  | empty (span : Span)
  | flags (span : Span) (items : List FlagItem)
  | literal (literal : Literal)
  | dot (span : Span)
  | assertion (span : Span) (kind : AssertionKind)
  | letter (span : Span) (kind : LetterClass) (negated : Bool)
  | named (span : Span) (name : ClassName) (negated : Bool)
  | bracketed (span : Span) (negated : Bool) (body : ClassSet)
  | repetition (span : Span) (least : Nat) (most : Option Nat) (greedy : Bool) (body : Expression)
  | group (span : Span) (kind : GroupKind) (body : Expression)
  | alternation (span : Span) (branches : List Expression)
  | concatenation (span : Span) (parts : List Expression)

/-- Where a class was read from. -/
def ClassSet.span : ClassSet → Span
  | .empty span => span
  | .literal symbol => symbol.span
  | .range span _ _ => span
  | .ascii span _ _ => span
  | .letter span _ _ => span
  | .named span _ _ => span
  | .bracketed span _ _ => span
  | .union span _ => span
  | .operation span _ _ _ => span

/-- Where an expression was read from. -/
def Expression.span : Expression → Span
  | .empty span => span
  | .flags span _ => span
  | .literal symbol => symbol.span
  | .dot span => span
  | .assertion span _ => span
  | .letter span _ _ => span
  | .named span _ _ => span
  | .bracketed span _ _ => span
  | .repetition span _ _ _ _ => span
  | .group span _ _ => span
  | .alternation span _ => span
  | .concatenation span _ => span

end SchemaBindings.Pattern
