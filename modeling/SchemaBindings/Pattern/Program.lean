import SchemaBindings.Pattern.Shape

/-!
# Programs

A program is a shape made ready for the search: every place where the search can go
two ways has a number of its own. The search remembers by these numbers what it has
tried. The copies of a counted repetition share one body; each copy has numbers of its
own, which are those of the body moved on by a fixed width.

An unbounded repetition takes one of two forms. A body that never matches the empty
text can be looped over directly. Otherwise the loop comes after a first round, and a
choice in front of it enters or passes over both.
-/
namespace SchemaBindings.Pattern

/-- What the search runs. -/
inductive Program where
  | empty
  | character (set : CharSet)
  | look (look : Look)
  | group (index : Nat) (body : Program)
  | sequence (first second : Program)
  /-- The first branch is preferred. -/
  | choice (label : Nat) (first second : Program)
  /-- Any number of characters of a set. -/
  | stretch (label : Nat) (greedy : Bool) (set : CharSet)
  /-- Any number of rounds. -/
  | star (label : Nat) (greedy : Bool) (body : Program)
  /-- A fixed number of copies. -/
  | copies (count width : Nat) (body : Program)
  /-- Up to the given number of copies, each only after the one before it; the label is that of the
  first one. -/
  | optionalCopies (label count width : Nat) (greedy : Bool) (body : Program)

/-- Building programs, with the next free number at hand. -/
abbrev Build := StateM Nat

/-- Take a number. -/
def freshLabel : Build Nat := fun next => (next, next + 1)

/-- Match the program, or nothing; greed prefers the program. -/
def optionally (greedy : Bool) (label : Nat) (program : Program) : Program :=
  if greedy then .choice label program .empty else .choice label .empty program

/-- Any number of rounds of a program. -/
def looped (label : Nat) (greedy : Bool) : Program → Program
  | .character set => .stretch label greedy set
  | body => .star label greedy body

/-- A fixed number of copies of what is built. -/
def fixedCopies (build : Build Program) (count : Nat) : Build Program := fun next =>
  let (body, after) := build next
  let width := after - next
  (.copies count width body, next + count * width)

/-- Up to the given number of copies of what is built. -/
def upToCopies (build : Build Program) (greedy : Bool) (count : Nat) : Build Program := fun next =>
  let (body, after) := build (next + 1)
  let width := after - next
  (.optionalCopies next count width greedy body, next + count * width)

/-- The program of a repetition of what is built. -/
def repetition (build : Build Program) (neverEmpty : Bool) (least : Nat) (most : Option Nat)
    (greedy : Bool) : Build Program :=
  match most with
  | some most => do
    let first ← fixedCopies build least
    return .sequence first (← upToCopies build greedy (most - least))
  | none => do
    if least = 0 then
      let label ← freshLabel
      if neverEmpty then return looped label greedy (← build)
      else
        let inner ← freshLabel
        let body ← build
        return optionally greedy label (.sequence body (looped inner greedy body))
    else
      let first ← fixedCopies build (least - 1)
      let label ← freshLabel
      let body ← build
      return .sequence first (.sequence body (looped label greedy body))

mutual

/-- The program of a shape. -/
def Shape.build : Shape → Build Program
  | .empty => return .empty
  | .character set => return .character set
  | .look look => return .look look
  | .group index _ body => do return .group index (← body.build)
  | .sequence parts => buildSequence parts
  | .choice branches => buildChoice branches
  | .repetition least most greedy body =>
    repetition body.build body.isNeverEmpty least most greedy

/-- The program of shapes one after the other. -/
def buildSequence : List Shape → Build Program
  | [] => return .empty
  | shape :: shapes => do
    let program ← shape.build
    return .sequence program (← buildSequence shapes)

/-- The program of shapes to choose from, in the order of preference. -/
def buildChoice : List Shape → Build Program
  | [] => return .character .nothing
  | shape :: shapes => do
    let label ← freshLabel
    let program ← shape.build
    match shapes with
    | [] => return program
    | _ :: _ => return .choice label program (← buildChoice shapes)

end

/-- The program of a shape, numbered from zero. -/
def Shape.program (shape : Shape) : Program := (shape.build.run 0).1

end SchemaBindings.Pattern
