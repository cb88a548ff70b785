import Std.Data.HashMap
import SchemaBindings.Pattern.Outline

/-!
# The size of a pattern

A pattern stands for two automata over the bytes of text: one that reads forward and
notes groups, and one that reads backward and does not. Counted repetitions are
written out in them, so a short pattern can stand for very large ones. A pattern is
refused when one of the two would take more room than the limit.

Room is taken by states, by the transitions of states that have several, and by the
alternatives of states that branch. States are numbered as they are added. Sets of
characters are the only part whose room depends on more than their form: equal ends
of their byte sequences share states, as far as a table of limited size remembers
the states that it has seen, and where a state stands in that table depends on the
numbers of the states that it leads to.
-/
namespace SchemaBindings.Pattern

/-- The greatest number of bytes that an automaton may take. -/
def sizeLimit : Nat := 10485760

/-- The bytes that a state takes by itself. -/
def stateSize : Nat := 32

/-- The bytes that a transition takes in a state with several. -/
def transitionSize : Nat := 8

/-- The bytes that an alternative takes in a state that branches. -/
def alternativeSize : Nat := 4

/-- The room that an automaton takes so far: how many states it has, and the bytes that are kept
beside them. -/
structure Room where
  states : Nat := 0
  beside : Nat := 0
deriving DecidableEq, Repr

namespace Room

/-- The bytes that an automaton takes. -/
def bytes (room : Room) : Nat := stateSize * room.states + room.beside

/-- Add states, with bytes kept beside them. -/
def add (room : Room) (states beside : Nat) : Room := ⟨room.states + states, room.beside + beside⟩

/-- Refuse room that goes beyond the limit. -/
def checked (room : Room) : Option Room := if room.bytes ≤ sizeLimit then some room else none

end Room

/-- Laying something out takes room, if there is enough of it. -/
abbrev Layout := Room → Option Room

/-! ## Sets read forward -/

/-- A transition of a state: the bytes that it is taken for, and the number of the next state. -/
structure Transition where
  bytes : ByteRange
  next : Nat
deriving DecidableEq, Repr

/-- The beginning of every hash. -/
def hashBasis : UInt64 := 14695981039346656037

/-- Mix a value into a hash. -/
def mixed (hash value : UInt64) : UInt64 := (hash ^^^ value) * 1099511628211

/-- Mix a range of bytes into a hash. -/
def mixedRange (hash : UInt64) (bytes : ByteRange) : UInt64 :=
  mixed (mixed hash bytes.first.toUInt64) bytes.last.toUInt64

/-- The place of a state in the table of states, by its transitions. -/
def transitionsPlace (transitions : List Transition) : UInt64 :=
  transitions.foldl (fun hash transition =>
    mixed (mixedRange hash transition.bytes) (.ofNat transition.next)) hashBasis % 10000

/-- An automaton that is being laid out with a table of the states it may share. -/
structure Shared (κ : Type) where
  room : Room
  table : Std.HashMap UInt64 (κ × Nat) := {}

/-- The number of the state with the given key. If its place in the table holds another one, the
state is added, and is the one that the place holds from now on. -/
def Shared.state {κ : Type} [DecidableEq κ] (shared : Shared κ) (key : κ) (place : UInt64)
    (beside : Nat) : Nat × Shared κ :=
  let fresh : Nat × Shared κ :=
    (shared.room.states,
      ⟨shared.room.add 1 beside, shared.table.insert place (key, shared.room.states)⟩)
  match shared.table[place]? with
  | some (known, number) => if known = key then (number, shared) else fresh
  | none => fresh

/-- A state that is still growing: its transitions so far, the latest first, and the bytes of the
one that leads on to the growing state after it. -/
structure Growing where
  transitions : List Transition
  outgoing : Option ByteRange

/-- Let the open transition of a growing state lead to a state. -/
def Growing.close (growing : Growing) (next : Nat) : Growing :=
  match growing.outgoing with
  | some bytes => ⟨⟨bytes, next⟩ :: growing.transitions, none⟩
  | none => growing

/-- The state that a growing state has become. -/
def Growing.settle (growing : Growing) (next : Nat) (shared : Shared (List Transition)) :
    Nat × Shared (List Transition) :=
  let transitions := (growing.close next).transitions.reverse
  shared.state transitions (transitionsPlace transitions) (transitionSize * transitions.length)

/-- Settle growing states that follow one another, from the last to the first; the last leads to
the state `stop`. -/
def settleAll (stop : Nat) : List Growing → Shared (List Transition) →
    Nat × Shared (List Transition)
  | [], shared => (stop, shared)
  | growing :: others, shared =>
    let (next, shared) := settleAll stop others shared
    growing.settle next shared

/-- Keep the first growing states, settle those after them, and close the last one kept. -/
def settleAfter (stop : Nat) : (keep : Nat) → List Growing → Shared (List Transition) →
    List Growing × Shared (List Transition)
  | _, [], shared => ([], shared)
  | 0, growing :: others, shared =>
    let (next, shared) := settleAll stop others shared
    ([growing.close next], shared)
  | keep + 1, growing :: others, shared =>
    let (kept, shared) := settleAfter stop keep others shared
    (growing :: kept, shared)

/-- How many ranges of a sequence are those of the open transitions of growing states. -/
def agreement : List ByteRange → List Growing → Nat
  | bytes :: sequence, growing :: others =>
    if growing.outgoing = some bytes then agreement sequence others + 1 else 0
  | _, _ => 0

/-- Open transitions for the ranges of a sequence, from the last growing state on. -/
def openAll (sequence : List ByteRange) : List Growing → List Growing
  | [] => []
  | [last] =>
    { last with outgoing := sequence.head? }
      :: (sequence.drop 1).map fun bytes => (⟨[], some bytes⟩ : Growing)
  | growing :: others => growing :: openAll sequence others

/-- Add a byte sequence to a set that is read forward. The sequences come in ascending order, so
what a sequence does not have in common with the one before it is settled. -/
def addSequence (stop : Nat) (growing : List Growing) (shared : Shared (List Transition))
    (sequence : List ByteRange) : List Growing × Shared (List Transition) :=
  let common := agreement sequence growing
  let (kept, shared) := settleAfter stop common growing shared
  (openAll (sequence.drop common) kept, shared)

/-- Lay out a set that is read forward. -/
def layForward (sequences : List (List ByteRange)) (room : Room) : Room :=
  let stop := room.states
  let (growing, shared) :=
    sequences.foldl (fun (state : List Growing × Shared (List Transition)) sequence =>
      addSequence stop state.1 state.2 sequence) ([⟨[], none⟩], ⟨room.add 1 0, {}⟩)
  let (kept, shared) := settleAfter stop 0 growing shared
  match kept with
  | [] => shared.room
  | root :: _ => (root.settle stop shared).2.room

/-! ## Sets read backward -/

/-- A state of a set that is read backward: the state that it leads to, and the bytes for which it
does. -/
structure BackwardKey where
  target : Nat
  bytes : ByteRange
deriving DecidableEq, Repr

/-- The place of a state in the table of states. -/
def BackwardKey.place (key : BackwardKey) : UInt64 :=
  mixedRange (mixed hashBasis (.ofNat key.target)) key.bytes % 1000

/-- Lay out a set that is read backward: one alternative for each byte sequence. -/
def layBackward (sequences : List (List ByteRange)) (room : Room) : Room :=
  let stop := room.states + 1
  let shared : Shared BackwardKey := ⟨room.add 2 (alternativeSize * sequences.length), {}⟩
  (sequences.foldl (fun shared sequence =>
    (sequence.foldl (fun (state : Nat × Shared BackwardKey) bytes =>
      let key : BackwardKey := ⟨state.1, bytes⟩
      state.2.state key key.place 0) (stop, shared)).2) shared).room

/-- Lay out a set. One of ASCII characters is a state with a transition for each range. -/
def laySet (backward : Bool) (ranges : List CodeRange) (sequences : List (List ByteRange))
    (room : Room) : Room :=
  if ranges.all fun range => range.last < 128 then
    room.add 2 (transitionSize * ranges.length)
  else if backward then layBackward sequences room
  else layForward sequences room

/-! ## Choices between texts -/

/-- Texts that share their beginnings. Texts that end are kept in the order of preference: at the
end of a text the branches so far are set aside, and later texts begin new ones. -/
inductive TextTree where
  | node (ended : List (List (UInt8 × TextTree))) (branches : List (UInt8 × TextTree))

namespace TextTree

/-- The tree of no texts. -/
def empty : TextTree := .node [] []

/-- Whether nothing comes after the texts that end here. -/
def isLeaf : TextTree → Bool
  | .node ended branches => ended.all List.isEmpty && branches.isEmpty

/-- The tree of one text. -/
def single : List UInt8 → TextTree
  | [] => .node [[]] []
  | byte :: bytes => .node [] [(byte, single bytes)]

mutual

/-- Add a text to a tree. -/
def insert : TextTree → List UInt8 → TextTree
  | .node ended branches, [] =>
    if branches.isEmpty && !ended.isEmpty && ended.all List.isEmpty then .node ended branches
    else .node (ended ++ [branches]) []
  | .node ended branches, byte :: bytes => .node ended (insertBranch byte bytes branches)

/-- Add a text to the branch of its first byte. -/
def insertBranch (byte : UInt8) (bytes : List UInt8) :
    List (UInt8 × TextTree) → List (UInt8 × TextTree)
  | [] => [(byte, single bytes)]
  | (known, tree) :: others =>
    if known == byte then (known, insert tree bytes) :: others
    else (known, tree) :: insertBranch byte bytes others

end

/-- The bytes kept beside the state of some branches. A single branch is kept in the state
itself. -/
def branchesSize (count : Nat) : Nat := if count = 1 then 0 else transitionSize * count

mutual

/-- The states of a tree, and the bytes beside them. A leaf has no state of its own. -/
def cost : TextTree → Nat × Nat
  | .node ended branches =>
    let (states, beside) := endedCost ended
    let (others, besideOthers) := branchesCost branches
    let filled := (if branches.isEmpty then 0 else 1)
      + (ended.filter fun entries => !entries.isEmpty).length
    let own := if branches.isEmpty then 0 else branchesSize branches.length
    (1 + filled + states + others,
      alternativeSize * (filled + ended.length) + own + beside + besideOthers)

/-- The costs below branches that have been set aside, with the bytes beside their own states. -/
def endedCost : List (List (UInt8 × TextTree)) → Nat × Nat
  | [] => (0, 0)
  | branches :: others =>
    let (states, beside) := branchesCost branches
    let (rest, besideRest) := endedCost others
    let own := if branches.isEmpty then 0 else branchesSize branches.length
    (states + rest, own + beside + besideRest)

/-- The costs below branches. -/
def branchesCost : List (UInt8 × TextTree) → Nat × Nat
  | [] => (0, 0)
  | (_, tree) :: others =>
    let (states, beside) := if tree.isLeaf then (0, 0) else tree.cost
    let (rest, besideRest) := branchesCost others
    (states + rest, beside + besideRest)

end

end TextTree

/-- The bytes of a literal in the order of reading. -/
def literalBytes (backward : Bool) (text : List Char) : List UInt8 :=
  let bytes := text.flatMap String.utf8EncodeChar
  if backward then bytes.reverse else bytes

/-- Lay out a choice between texts. -/
def layTexts (backward : Bool) (texts : List (List Char)) (room : Room) : Room :=
  let tree := texts.foldl (fun tree text => tree.insert (literalBytes backward text))
    TextTree.empty
  let (states, beside) := tree.cost
  room.add (states + 1) beside

/-! ## Whole patterns -/

/-- Lay something out several times. -/
def layCopies (lay : Layout) : (count : Nat) → Layout
  | 0, room => some room
  | count + 1, room =>
    match lay room with
    | some room => layCopies lay count room
    | none => none

/-- Lay something out a fixed number of times; no times at all take a state. -/
def layExactly (lay : Layout) (count : Nat) : Layout := fun room =>
  if count = 0 then (room.add 1 0).checked else layCopies lay count room

/-- Lay out a repetition. -/
def layRepetition (lay : Layout) (neverEmpty : Bool) (least : Nat) (most : Option Nat) : Layout :=
  fun room =>
    match least, most with
    | 0, some 1 => do (← lay (room.add 1 (2 * alternativeSize))).add 1 0 |>.checked
    | 0, none =>
      if neverEmpty then do (← lay (room.add 1 (2 * alternativeSize))).checked
      else do ((← lay room).add 3 (4 * alternativeSize)).checked
    | least, none => do ((← layCopies lay least room).add 1 (2 * alternativeSize)).checked
    | least, some most => do
      let room ← layExactly lay least room
      if least = most then return room
      else
        layCopies (fun room => lay (room.add 1 (2 * alternativeSize))) (most - least)
          (room.add 1 0)

/-- The text of an outline that is a literal. -/
def Outline.text? : Outline → Option (List Char)
  | .literal text => some text
  | _ => none

mutual

/-- Lay out an outline. -/
def Outline.lay (backward : Bool) : Outline → Layout
  | .empty, room => (room.add 1 0).checked
  | .literal text, room => (room.add (literalBytes backward text).length 0).checked
  | .set ranges sequences, room => (laySet backward ranges sequences room).checked
  | .look _, room => (room.add 1 0).checked
  | .group _ body, room =>
    if backward then body.lay backward room
    else do ((← body.lay backward (room.add 1 0)).add 1 0).checked
  | .sequence parts, room => layParts backward parts room
  | .choice branches, room =>
    match branches.mapM Outline.text? with
    | some texts => (layTexts backward texts room).checked
    | none => layBranches backward 0 branches room
  | .repetition least most _ body, room =>
    layRepetition (body.lay backward) body.isNeverEmpty least most room

/-- Lay out parts in the order of reading. -/
def layParts (backward : Bool) : List Outline → Layout
  | [], room => some room
  | part :: parts, room =>
    if backward then do part.lay backward (← layParts backward parts room)
    else do layParts backward parts (← part.lay backward room)

/-- Lay out branches; the state that branches and the one where the branches meet come after the
second branch. -/
def layBranches (backward : Bool) (before : Nat) : List Outline → Layout
  | [], room => some room
  | branch :: branches, room => do
    let room ← branch.lay backward room
    let room :=
      if before = 0 then room
      else if before = 1 then room.add 2 (2 * alternativeSize)
      else room.add 0 alternativeSize
    layBranches backward (before + 1) branches (← room.checked)

end

/-- Lay out the automaton of a pattern. One that may match anywhere begins with a loop over any
bytes, and the one that reads forward notes where the whole match begins and ends. -/
def Outline.layWhole (outline : Outline) (backward : Bool) : Option Room := do
  let fixed :=
    if backward then outline.mustEndWith .textEnd else outline.mustBeginWith .textStart
  let room : Room := if fixed then ⟨1, 0⟩ else ⟨3, transitionSize + 2 * alternativeSize⟩
  let noted := if backward then 0 else 1
  let room ← outline.lay backward (room.add noted 0)
  (room.add (noted + 1) 0).checked

/-- Whether a shape is larger than a pattern may be. -/
def Shape.isTooLarge (shape : Shape) : Bool :=
  let outline := shape.outline
  (outline.layWhole false).isNone || (outline.layWhole true).isNone

end SchemaBindings.Pattern
