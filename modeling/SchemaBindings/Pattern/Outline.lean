import SchemaBindings.Pattern.ByteRange
import SchemaBindings.Pattern.Shape

/-!
# Outlines

An outline is a shape in the form in which it takes room. Characters in a row form one
literal text, sequences and choices are not nested directly in one another, a choice
of single characters or of sets is one set, and what all branches of a choice begin
with stands in front of it. An outline matches what its shape matches.
-/
namespace SchemaBindings.Pattern

/-- A shape in the form in which it takes room. -/
inductive Outline where
  | empty
  | literal (text : List Char)
  /-- A set of characters, with the byte sequences that it stands for. -/
  | set (ranges : List CodeRange) (sequences : List (List ByteRange))
  | look (look : Look)
  | group (index : Nat) (body : Outline)
  | sequence (parts : List Outline)
  | choice (branches : List Outline)
  | repetition (least : Nat) (most : Option Nat) (greedy : Bool) (body : Outline)

namespace Outline

mutual

/-- Whether two outlines are the same. The byte sequences of a set follow from its ranges. -/
def same : Outline → Outline → Bool
  | .empty, .empty => true
  | .literal left, .literal right => left == right
  | .set left _, .set right _ => left == right
  | .look left, .look right => left == right
  | .group left body, .group right other => left == right && same body other
  | .sequence parts, .sequence others => allSame parts others
  | .choice branches, .choice others => allSame branches others
  | .repetition least most greedy body, .repetition least' most' greedy' other =>
    least == least' && most == most' && greedy == greedy' && same body other
  | _, _ => false

/-- Whether two lists hold the same outlines. -/
def allSame : List Outline → List Outline → Bool
  | [], [] => true
  | outline :: outlines, other :: others => same outline other && allSame outlines others
  | _, _ => false

end

/-- The outline of a set in normal form. -/
def ofRanges (ranges : List CodeRange) : Outline :=
  let general := .set ranges (ranges.flatMap CodeRange.byteSequences)
  match ranges with
  | [range] => if range.first = range.last then .literal [Char.ofNat range.first] else general
  | _ => general

/-- The parts that an outline adds to a sequence. -/
def asParts : Outline → List Outline
  | .empty => []
  | .sequence parts => parts
  | other => [other]

/-- Join literals that follow one another. -/
def joinLiterals : List Outline → List Outline
  | [] => []
  | .literal text :: rest =>
    match joinLiterals rest with
    | .literal more :: others => .literal (text ++ more) :: others
    | others => .literal text :: others
  | part :: rest => part :: joinLiterals rest

/-- One outline after the other. -/
def ofSequence (outlines : List Outline) : Outline :=
  match joinLiterals (outlines.flatMap asParts) with
  | [] => .empty
  | [part] => part
  | parts => .sequence parts

/-- The branches that an outline adds to a choice. -/
def asBranches : Outline → List Outline
  | .choice branches => branches
  | other => [other]

/-- The range of an outline that is a single character. -/
def singleCharacter? : Outline → Option CodeRange
  | .literal [character] => some (characterRange character)
  | _ => none

/-- The ranges of an outline that is a set. -/
def setRanges? : Outline → Option (List CodeRange)
  | .set ranges _ => some ranges
  | _ => none

/-- The set that a choice of single characters, or of sets, comes to. -/
def asOneSet? (branches : List Outline) : Option (List CodeRange) :=
  match branches.mapM singleCharacter? with
  | some ranges => some (CodeRange.normalized ranges)
  | none => (branches.mapM setRanges?).map fun sets => CodeRange.normalized sets.flatten

/-- The parts of an outline that is a sequence. -/
def parts? : Outline → Option (List Outline)
  | .sequence parts => some parts
  | _ => none

/-- The number of parts at the beginning of both sequences that are the same. -/
def commonLength : List Outline → List Outline → Nat
  | left :: lefts, right :: rights => if same left right then commonLength lefts rights + 1 else 0
  | _, _ => 0

/-- The number of parts that several sequences have in common at their beginnings. -/
def sharedLength : List (List Outline) → Nat
  | [] => 0
  | first :: others =>
    others.foldl (fun length other => min length (commonLength first other)) first.length

/-- A choice between outlines. What all branches begin with is lifted out of the choice, and what is
left of them is a choice again; `depth` bounds how often that happens. -/
def ofChoice : (depth : Nat) → List Outline → Outline
  | 0, outlines => .choice outlines
  | depth + 1, outlines =>
    match outlines.flatMap asBranches with
    | [] => ofRanges []
    | [branch] => branch
    | branches =>
      match asOneSet? branches with
      | some ranges => ofRanges ranges
      | none =>
        match branches.mapM parts? with
        | none => .choice branches
        | some sequences =>
          let length := sharedLength sequences
          if length = 0 then .choice branches
          else
            let rest := ofChoice depth (sequences.map fun parts => ofSequence (parts.drop length))
            ofSequence ((sequences.headD []).take length ++ [rest])

/-- The length of the longest sequence among outlines. -/
def longest (outlines : List Outline) : Nat :=
  outlines.foldl (fun length outline => max length (outline.asParts.length)) 0

mutual

/-- The least number of bytes that an outline matches; none if it matches nothing at all. -/
def leastLength? : Outline → Option Nat
  | .empty => some 0
  | .literal text => some (text.foldl (fun length character => length + character.utf8Size) 0)
  | .set ranges _ => (ranges.head?).map fun range => (CodeRange.bytesAt range.first).length
  | .look _ => some 0
  | .group _ body => body.leastLength?
  | .sequence parts => totalLength? parts
  | .choice branches => shortestLength? branches
  | .repetition least _ _ body => body.leastLength?.map (least * ·)

/-- The sum of the least numbers of bytes. -/
def totalLength? : List Outline → Option Nat
  | [] => some 0
  | part :: parts => do return (← part.leastLength?) + (← totalLength? parts)

/-- The least number of bytes of several branches; none if one of them matches nothing at all. -/
def shortestLength? : List Outline → Option Nat
  | [] => none
  | [branch] => branch.leastLength?
  | branch :: branches => do return min (← branch.leastLength?) (← shortestLength? branches)

end

/-- Whether an outline is known to match at least one byte. -/
def isNeverEmpty (outline : Outline) : Bool :=
  match outline.leastLength? with
  | some length => 0 < length
  | none => false

mutual

/-- Whether an outline matches the empty text only. -/
def isAlwaysEmpty : Outline → Bool
  | .empty => true
  | .literal _ => false
  | .set _ _ => false
  | .look _ => true
  | .group _ body => body.isAlwaysEmpty
  | .sequence parts => allAlwaysEmpty parts
  | .choice branches => allAlwaysEmpty branches
  | .repetition _ _ _ body => body.isAlwaysEmpty

/-- Whether each of the outlines matches the empty text only. -/
def allAlwaysEmpty : List Outline → Bool
  | [] => true
  | outline :: outlines => outline.isAlwaysEmpty && allAlwaysEmpty outlines

end

mutual

/-- Whether a match always has to begin at a place with the given condition. -/
def mustBeginWith (condition : Look) : Outline → Bool
  | .look found => found == condition
  | .group _ body => body.mustBeginWith condition
  | .sequence parts => someMustBeginWith condition parts
  | .choice branches => allMustBeginWith condition branches
  | .repetition least _ _ body => least != 0 && body.mustBeginWith condition
  | _ => false

/-- Whether one of the parts up to the first that may match text has the condition at its
beginning. -/
def someMustBeginWith (condition : Look) : List Outline → Bool
  | [] => false
  | part :: parts =>
    part.mustBeginWith condition || (part.isAlwaysEmpty && someMustBeginWith condition parts)

/-- Whether all branches have the condition at their beginning. -/
def allMustBeginWith (condition : Look) : List Outline → Bool
  | [] => true
  | branch :: branches => branch.mustBeginWith condition && allMustBeginWith condition branches

end

mutual

/-- Whether a match always has to end at a place with the given condition. -/
def mustEndWith (condition : Look) : Outline → Bool
  | .look found => found == condition
  | .group _ body => body.mustEndWith condition
  | .sequence parts => someMustEndWith condition parts
  | .choice branches => allMustEndWith condition branches
  | .repetition least _ _ body => least != 0 && body.mustEndWith condition
  | _ => false

/-- Whether one of the parts from the last that may match text on has the condition at its end. -/
def someMustEndWith (condition : Look) : List Outline → Bool
  | [] => false
  | part :: parts =>
    someMustEndWith condition parts || (allAlwaysEmpty parts && part.mustEndWith condition)

/-- Whether all branches have the condition at their end. -/
def allMustEndWith (condition : Look) : List Outline → Bool
  | [] => true
  | branch :: branches => branch.mustEndWith condition && allMustEndWith condition branches

end

end Outline

mutual

/-- The outline of a shape. -/
def Shape.outline : Shape → Outline
  | .empty => .empty
  | .character set => .ofRanges set.ranges
  | .look look => .look look
  | .group index _ body => .group index body.outline
  | .sequence parts => .ofSequence (outlines parts)
  | .choice branches =>
    let branches := outlines branches
    .ofChoice (Outline.longest branches + 1) branches
  | .repetition least most greedy body => .repetition least most greedy body.outline

/-- The outlines of several shapes. -/
def outlines : List Shape → List Outline
  | [] => []
  | shape :: shapes => shape.outline :: outlines shapes

end

end SchemaBindings.Pattern
