import SchemaBindings.Pattern.CharSet
import SchemaBindings.Pattern.Error

/-!
# The meaning of a pattern

A shape is a pattern whose flags have been worked in: letters have become sets of
characters, line anchors have become assertions, and greed is settled for each
repetition. Flags hold from where they are set to the end of the enclosing group,
across the branches of a choice, and are therefore carried along from left to
right.

Text is Unicode, so a pattern that leaves Unicode may only name ASCII characters.
-/
namespace SchemaBindings.Pattern

/-- The switches in force at a place of a pattern. -/
structure Flags where
  caseInsensitive : Bool := false
  multiLine : Bool := false
  dotMatchesNewline : Bool := false
  swapGreed : Bool := false
  unicode : Bool := true
  carriageReturn : Bool := false
deriving DecidableEq, Repr

/-- The kinds of places around words. -/
inductive Boundary where
  | edge
  | noEdge
  | start
  | stop
  | startHalf
  | stopHalf
deriving DecidableEq, Repr

/-- A condition on a place of the text. -/
inductive Look where
  | textStart
  | textEnd
  | lineStart (carriageReturn : Bool)
  | lineEnd (carriageReturn : Bool)
  | boundary (kind : Boundary) (unicode : Bool)
deriving DecidableEq, Repr

/-- The meaning of a pattern. -/
inductive Shape where
  | empty
  | character (set : CharSet)
  | look (look : Look)
  | group (index : Nat) (name : Option String) (body : Shape)
  | sequence (parts : List Shape)
  | choice (branches : List Shape)
  | repetition (least : Nat) (most : Option Nat) (greedy : Bool) (body : Shape)

mutual

/-- Whether a shape matches the empty text only. -/
def Shape.isAlwaysEmpty : Shape → Bool
  | .empty => true
  | .character _ => false
  | .look _ => true
  | .group _ _ body => body.isAlwaysEmpty
  | .sequence parts => allAlwaysEmpty parts
  | .choice branches => allAlwaysEmpty branches
  | .repetition _ _ _ body => body.isAlwaysEmpty

/-- Whether each of the shapes matches the empty text only. -/
def allAlwaysEmpty : List Shape → Bool
  | [] => true
  | shape :: shapes => shape.isAlwaysEmpty && allAlwaysEmpty shapes

end

mutual

/-- Whether a shape never matches the empty text. -/
def Shape.isNeverEmpty : Shape → Bool
  | .empty => false
  | .character _ => true
  | .look _ => false
  | .group _ _ body => body.isNeverEmpty
  | .sequence parts => someNeverEmpty parts
  | .choice branches => allNeverEmpty branches
  | .repetition least _ _ body => least != 0 && body.isNeverEmpty

/-- Whether one of the shapes never matches the empty text. -/
def someNeverEmpty : List Shape → Bool
  | [] => false
  | shape :: shapes => shape.isNeverEmpty || someNeverEmpty shapes

/-- Whether none of the shapes matches the empty text. -/
def allNeverEmpty : List Shape → Bool
  | [] => true
  | shape :: shapes => shape.isNeverEmpty && allNeverEmpty shapes

end

/-- Repeat a shape. What is always empty is not repeated more than once, no repetition at all is
the empty shape, and exactly one is the shape itself. -/
def Shape.repeated (least : Nat) (most : Option Nat) (greedy : Bool) (body : Shape) : Shape :=
  let least := if body.isAlwaysEmpty then min least 1 else least
  let most := if body.isAlwaysEmpty then some (min (most.getD 1) 1) else most
  if least = 0 ∧ most = some 0 then .empty
  else if least = 1 ∧ most = some 1 then body
  else .repetition least most greedy body

mutual

/-- The groups of a shape, in order. Groups inside a shape that is not repeated at all are no
longer there. -/
def Shape.groups : Shape → List (Nat × Option String)
  | .group index name body => (index, name) :: body.groups
  | .sequence parts => allGroups parts
  | .choice branches => allGroups branches
  | .repetition _ _ _ body => body.groups
  | _ => []

/-- The groups of several shapes, in order. -/
def allGroups : List Shape → List (Nat × Option String)
  | [] => []
  | shape :: shapes => shape.groups ++ allGroups shapes

end

/-- Work a list of flags into the flags in force. -/
def Flags.updated (flags : Flags) : (enable : Bool) → List FlagItem → Flags
  | _, [] => flags
  | _, .negation _ :: items => flags.updated false items
  | enable, .flag _ flag :: items =>
    let next : Flags :=
      match flag with
      | .caseInsensitive => { flags with caseInsensitive := enable }
      | .multiLine => { flags with multiLine := enable }
      | .dotMatchesNewline => { flags with dotMatchesNewline := enable }
      | .swapGreed => { flags with swapGreed := enable }
      | .unicode => { flags with unicode := enable }
      | .carriageReturn => { flags with carriageReturn := enable }
      | .ignoreBlanks => flags
    next.updated enable items

/-- A fault found while a pattern is given its meaning. -/
def faultAt {α : Type} (fault : Fault) (span : Span) : Except Error α :=
  .error ⟨fault, span, none⟩

/-- Fold and complement a class. Outside of Unicode the result may hold ASCII characters only. -/
def foldAndNegate (flags : Flags) (span : Span) (negated : Bool) (set : CharSet) :
    Except Error CharSet :=
  if flags.unicode then
    .ok (CharSet.negatedIf negated (if flags.caseInsensitive then .folded set else set))
  else
    let result :=
      CharSet.negatedIf negated (if flags.caseInsensitive then .foldedAscii set else set)
    if result.isAsciiBytes then .ok result else faultAt .invalidUtf8 span

/-- The meaning of a literal outside of classes. -/
def literalSet (flags : Flags) (symbol : Literal) : Except Error CharSet :=
  if flags.unicode then
    .ok (if flags.caseInsensitive then
      .ofRanges ((Unicode.caseVariants symbol.character).map fun variant => (variant, variant))
      else .single symbol.character)
  else if symbol.isByte && symbol.character.toNat ≥ 128 then faultAt .invalidUtf8 symbol.span
  else if flags.caseInsensitive && symbol.character.toNat < 128 then
    .ok (.foldedAscii (.single symbol.character))
  else .ok (.single symbol.character)

/-- Outside of Unicode the literals of a class are bytes, of which only ASCII is admitted. -/
def checkClassLiteral (flags : Flags) (symbol : Literal) : Except Error Unit :=
  if flags.unicode || symbol.character.toNat < 128 then .ok ()
  else if symbol.isByte then faultAt .invalidUtf8 symbol.span
  else faultAt .unicodeNotAllowed symbol.span

/-- The meaning of a class with a letter of its own. These classes are closed under case folding. -/
def letterSet (flags : Flags) (span : Span) (kind : LetterClass) (negated : Bool) :
    Except Error CharSet :=
  if !flags.unicode && negated then faultAt .invalidUtf8 span
  else .ok (CharSet.negatedIf negated (kind.set flags.unicode))

/-- The meaning of a class by name, which only Unicode has. -/
def namedSet (flags : Flags) (span : Span) (name : ClassName) (negated : Bool) :
    Except Error CharSet :=
  if !flags.unicode then faultAt .unicodeNotAllowed span
  else
    let found :=
      match name with
      | .single name => Unicode.setNamed name
      | .valued property value => Unicode.setWithValue property value
    match found with
    | .ok set => foldAndNegate flags span negated (.named set)
    | .error .unknownProperty => faultAt .propertyNotFound span
    | .error .unknownValue => faultAt .propertyValueNotFound span

/-- Fold the sides of an operation. -/
def foldSide (flags : Flags) (set : CharSet) : CharSet :=
  if flags.caseInsensitive then (if flags.unicode then .folded set else .foldedAscii set) else set

mutual

/-- The meaning of what stands between brackets. -/
def ClassSet.meaning (flags : Flags) : ClassSet → Except Error CharSet
  | .empty _ => .ok .nothing
  | .literal symbol => do
    checkClassLiteral flags symbol
    return .single symbol.character
  | .range _ first last => do
    checkClassLiteral flags first
    checkClassLiteral flags last
    return .range first.character last.character
  | .ascii span kind negated => foldAndNegate flags span negated kind.set
  | .letter span kind negated => letterSet flags span kind negated
  | .named span name negated => namedSet flags span name negated
  | .bracketed span negated body => do foldAndNegate flags span negated (← body.meaning flags)
  | .union _ items => unionMeaning flags items
  | .operation _ operator left right => do
    let leftSet := foldSide flags (← left.meaning flags)
    let rightSet := foldSide flags (← right.meaning flags)
    match operator with
    | .intersection => return .intersection leftSet rightSet
    | .difference => return leftSet.difference rightSet
    | .symmetricDifference => return leftSet.symmetricDifference rightSet

/-- The meaning of items side by side. -/
def unionMeaning (flags : Flags) : List ClassSet → Except Error CharSet
  | [] => .ok .nothing
  | item :: items => do
    let set ← item.meaning flags
    return .union set (← unionMeaning flags items)

end

/-- The meaning of the dot. -/
def dotSet (flags : Flags) (span : Span) : Except Error CharSet :=
  if !flags.unicode then faultAt .invalidUtf8 span
  else if flags.dotMatchesNewline then .ok (.outside .nothing)
  else if flags.carriageReturn then .ok (.outside (.ofRanges [('\r', '\r'), ('\n', '\n')]))
  else .ok (.outside (.single '\n'))

/-- The meaning of an assertion. -/
def AssertionKind.look (flags : Flags) : AssertionKind → Look
  | .startLine => if flags.multiLine then .lineStart flags.carriageReturn else .textStart
  | .endLine => if flags.multiLine then .lineEnd flags.carriageReturn else .textEnd
  | .startText => .textStart
  | .endText => .textEnd
  | .wordBoundary => .boundary .edge flags.unicode
  | .notWordBoundary => .boundary .noEdge flags.unicode
  | .wordStart => .boundary .start flags.unicode
  | .wordEnd => .boundary .stop flags.unicode
  | .wordStartHalf => .boundary .startHalf flags.unicode
  | .wordEndHalf => .boundary .stopHalf flags.unicode

mutual

/-- The meaning of an expression, and the flags in force after it. -/
def Expression.meaning (flags : Flags) : Expression → Except Error (Shape × Flags)
  | .empty _ => .ok (.empty, flags)
  | .flags _ items => .ok (.empty, flags.updated true items)
  | .literal symbol => do return (.character (← literalSet flags symbol), flags)
  | .dot span => do return (.character (← dotSet flags span), flags)
  | .assertion _ kind => .ok (.look (kind.look flags), flags)
  | .letter span kind negated => do
    return (.character (← letterSet flags span kind negated), flags)
  | .named span name negated => do
    return (.character (← namedSet flags span name negated), flags)
  | .bracketed span negated body => do
    return (.character (← foldAndNegate flags span negated (← body.meaning flags)), flags)
  | .repetition _ least most greedy body => do
    let (shape, after) ← body.meaning flags
    return (shape.repeated least most (greedy != after.swapGreed), after)
  | .group _ (.capture index name) body => do
    let (shape, _) ← body.meaning flags
    return (.group index name shape, flags)
  | .group _ (.plain items) body => do
    let (shape, _) ← body.meaning (flags.updated true items)
    return (shape, flags)
  | .alternation _ branches => do
    let (shapes, after) ← partsMeaning flags branches
    return (.choice shapes, after)
  | .concatenation _ parts => do
    let (shapes, after) ← partsMeaning flags parts
    return (.sequence shapes, after)

/-- The meanings of several expressions from left to right. -/
def partsMeaning (flags : Flags) : List Expression → Except Error (List Shape × Flags)
  | [] => .ok ([], flags)
  | part :: parts => do
    let (shape, after) ← part.meaning flags
    let (shapes, last) ← partsMeaning after parts
    return (shape :: shapes, last)

end

end SchemaBindings.Pattern
