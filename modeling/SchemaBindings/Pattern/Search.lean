import Std.Data.HashSet
import SchemaBindings.Pattern.Program

/-!
# Searching text

The search tries the ways to match in the order of preference and takes the first
that succeeds. A way that comes a second time to the same numbered place of the
program at the same place of the text is given up: it would only repeat what has
failed already, or go round without reading anything. So a failing attempt reports
which places were tried, later attempts do not try them again, also those that begin
further on in the text, and the work is bounded by the size of the program times the
length of the text.

The search is written with the rest of the match as a function, so that it follows
the structure of the program.
-/
namespace SchemaBindings.Pattern

open SchemaBindings.Unicode

/-- A place in a text: how many characters stand before it, the last of these, and what
follows. -/
structure Cursor where
  index : Nat
  before : Option Char
  after : List Char
deriving DecidableEq, Repr

/-- The beginning of a text. -/
def Cursor.start (text : List Char) : Cursor := ⟨0, none, text⟩

/-- The place one character further on. -/
def Cursor.next (cursor : Cursor) : Option Cursor :=
  match cursor.after with
  | [] => none
  | character :: rest => some ⟨cursor.index + 1, some character, rest⟩

/-- Whether a word character stands before a place and after it. -/
def Cursor.words (cursor : Cursor) (unicode : Bool) : Bool × Bool :=
  let isWordCharacter := if unicode then isWord else isAsciiWord
  ((cursor.before.map isWordCharacter).getD false,
    (cursor.after.head?.map isWordCharacter).getD false)

/-- Whether a condition holds at a place. A line break may be a pair of a carriage return and a
line feed, and there is no place for an anchor inside of the pair. -/
def Look.holds (look : Look) (cursor : Cursor) : Bool :=
  let before := cursor.before
  let after := cursor.after.head?
  match look with
  | .textStart => before.isNone
  | .textEnd => after.isNone
  | .lineStart false => before.isNone || before == some '\n'
  | .lineEnd false => after.isNone || after == some '\n'
  | .lineStart true =>
    before.isNone || before == some '\n' || (before == some '\r' && after != some '\n')
  | .lineEnd true =>
    after.isNone || after == some '\r' || (after == some '\n' && before != some '\r')
  | .boundary kind unicode =>
    let (left, right) := cursor.words unicode
    match kind with
    | .edge => left != right
    | .noEdge => left == right
    | .start => !left && right
    | .stop => left && !right
    | .startHalf => !left
    | .stopHalf => !right

/-- The stretches that groups have matched, the latest first: the number of the group and where
the stretch begins and ends. -/
abbrev Captures := List (Nat × Nat × Nat)

/-- Numbered places of the program that were tried, with the place of the text. -/
abbrev Tried := Std.HashSet (Nat × Nat)

/-- Where a match ends and what its groups matched, or what was tried in vain. -/
abbrev Attempt := Except Tried (Cursor × Captures)

/-- The rest of a match. -/
abbrev Rest := Cursor → Captures → Tried → Attempt

/-- Take the first way, or else the second. -/
def orElse (first : Attempt) (second : Tried → Attempt) : Attempt :=
  match first with
  | .ok found => .ok found
  | .error tried => second tried

/-- Go on from a numbered place, unless it was tried before at this place of the text. -/
def visit (label index : Nat) (tried : Tried) (way : Tried → Attempt) : Attempt :=
  if tried.contains (label, index) then .error tried else way (tried.insert (label, index))

/-- Rounds of a loop. Every round ends further on in the text than it began, or its end has been
tried, so the number of characters left bounds the rounds. -/
def rounds (round : Rest → Rest) (label : Nat) (greedy : Bool) (rest : Rest) :
    (bound : Nat) → Rest
  | 0, _, _, tried => .error tried
  | bound + 1, cursor, captures, tried =>
    visit label cursor.index tried fun tried =>
      let again := round (rounds round label greedy rest bound) cursor captures
      let leave := rest cursor captures
      if greedy then orElse (again tried) leave else orElse (leave tried) again

/-- The places up to the end of the longest stretch of characters of a set, the last one first, as
far as they have not been tried before. `reached` has the places passed so far. -/
def stretchPlaces (set : CharSet) (label : Nat) (index : Nat) (before : Option Char)
    (reached : List Cursor) (tried : Tried) : List Char → List Cursor × Tried
  | [] =>
    if tried.contains (label, index) then (reached, tried)
    else (⟨index, before, []⟩ :: reached, tried.insert (label, index))
  | next :: after =>
    if tried.contains (label, index) then (reached, tried)
    else
      let reached := ⟨index, before, next :: after⟩ :: reached
      let tried := tried.insert (label, index)
      if set.contains next then stretchPlaces set label (index + 1) (some next) reached tried after
      else (reached, tried)

/-- Go on from the first of several places from which that succeeds. -/
def firstPlace (rest : Rest) (captures : Captures) : List Cursor → Tried → Attempt
  | [], tried => .error tried
  | cursor :: cursors, tried =>
    match rest cursor captures tried with
    | .ok found => .ok found
    | .error tried => firstPlace rest captures cursors tried

/-- The shortest stretch of characters of a set after which the rest matches. -/
def shortStretch (set : CharSet) (label : Nat) (rest : Rest) (captures : Captures) (index : Nat)
    (before : Option Char) (tried : Tried) : List Char → Attempt
  | [] => visit label index tried fun tried => rest ⟨index, before, []⟩ captures tried
  | next :: after =>
    if tried.contains (label, index) then .error tried
    else
      match rest ⟨index, before, next :: after⟩ captures (tried.insert (label, index)) with
      | .ok found => .ok found
      | .error tried =>
        if set.contains next then
          shortStretch set label rest captures (index + 1) (some next) tried after
        else .error tried

/-- Copies one after the other, from the one with the given number on. -/
def runCopies (copy : Nat → Rest → Rest) : (count number : Nat) → Rest → Rest
  | 0, _, rest, cursor, captures, tried => rest cursor captures tried
  | count + 1, number, rest, cursor, captures, tried =>
    copy number (runCopies copy count (number + 1) rest) cursor captures tried

/-- Copies one after the other, each of which may be the last one or be left out with all that
follow. -/
def runOptional (copy : Nat → Rest → Rest) (label : Nat → Nat) (greedy : Bool) (rest : Rest) :
    (count number : Nat) → Rest
  | 0, _, cursor, captures, tried => rest cursor captures tried
  | count + 1, number, cursor, captures, tried =>
    visit (label number) cursor.index tried fun tried =>
      let again :=
        copy number (runOptional copy label greedy rest count (number + 1)) cursor captures
      let leave := rest cursor captures
      if greedy then orElse (again tried) leave else orElse (leave tried) again

/-- Match a program at a place and go on with the rest. The numbers of the program are moved on by
`shift`; no loop takes more rounds than `bound`, which is greater than the number of characters. -/
def Program.run (bound : Nat) : Program → (shift : Nat) → Rest → Rest
  | .empty, _, rest, cursor, captures, tried => rest cursor captures tried
  | .character set, _, rest, cursor, captures, tried =>
    match cursor.after with
    | [] => .error tried
    | next :: after =>
      if set.contains next then rest ⟨cursor.index + 1, some next, after⟩ captures tried
      else .error tried
  | .look condition, _, rest, cursor, captures, tried =>
    if condition.holds cursor then rest cursor captures tried else .error tried
  | .group index body, shift, rest, cursor, captures, tried =>
    body.run bound shift
      (fun stop inner => rest stop ((index, cursor.index, stop.index) :: inner))
      cursor captures tried
  | .sequence first second, shift, rest, cursor, captures, tried =>
    first.run bound shift (second.run bound shift rest) cursor captures tried
  | .choice label first second, shift, rest, cursor, captures, tried =>
    visit (shift + label) cursor.index tried fun tried =>
      orElse (first.run bound shift rest cursor captures tried)
        (second.run bound shift rest cursor captures)
  | .stretch label true set, shift, rest, cursor, captures, tried =>
    let (places, tried) :=
      stretchPlaces set (shift + label) cursor.index cursor.before [] tried cursor.after
    firstPlace rest captures places tried
  | .stretch label false set, shift, rest, cursor, captures, tried =>
    shortStretch set (shift + label) rest captures cursor.index cursor.before tried cursor.after
  | .star label greedy body, shift, rest, cursor, captures, tried =>
    rounds (body.run bound shift) (shift + label) greedy rest bound cursor captures tried
  | .copies count width body, shift, rest, cursor, captures, tried =>
    runCopies (fun number => body.run bound (shift + number * width)) count 0 rest cursor captures
      tried
  | .optionalCopies label count width greedy body, shift, rest, cursor, captures, tried =>
    runOptional (fun number => body.run bound (shift + number * width))
      (fun number => shift + number * width + label) greedy rest count 0 cursor captures tried

/-- A match: where it begins, the place where it ends, and what its groups matched. -/
structure Match where
  start : Nat
  stop : Cursor
  captures : Captures
deriving DecidableEq, Repr

/-- Match a program at one place, or report what was tried in vain. -/
def Program.matchAt (program : Program) (bound : Nat) (cursor : Cursor) (tried : Tried) :
    Except Tried Match :=
  match program.run bound 0 (fun stop captures _ => .ok (stop, captures)) cursor [] tried with
  | .ok (stop, captures) => .ok ⟨cursor.index, stop, captures⟩
  | .error tried => .error tried

/-- The leftmost match at a place or after it. -/
def Program.firstMatch (program : Program) (bound index : Nat) (before : Option Char)
    (tried : Tried) : List Char → Option Match
  | [] => (program.matchAt bound ⟨index, before, []⟩ tried).toOption
  | next :: rest =>
    match program.matchAt bound ⟨index, before, next :: rest⟩ tried with
    | .ok found => some found
    | .error tried => program.firstMatch bound (index + 1) (some next) tried rest

/-- The first match of a program in a text. -/
def Program.find (program : Program) (text : List Char) : Option Match :=
  program.firstMatch (text.length + 1) 0 none {} text

/-- The matches of a program in a text of the given length from left to right, without overlap. An
empty match directly after a match is passed over. Every round moves on in the text or notes an
empty match at its place, so twice the length of the text and two more bound the rounds. -/
def Program.matchesFrom (program : Program) (length : Nat) :
    (bound : Nat) → (cursor : Cursor) → (last : Option Nat) → List Match
  | 0, _, _ => []
  | bound + 1, cursor, last =>
    match program.firstMatch (length + 1) cursor.index cursor.before {} cursor.after with
    | none => []
    | some found =>
      if found.start = found.stop.index ∧ last = some found.stop.index then
        match cursor.next with
        | none => []
        | some next => program.matchesFrom length bound next last
      else found :: program.matchesFrom length bound found.stop (some found.stop.index)

/-- All matches of a program in a text. -/
def Program.matches (program : Program) (text : List Char) : List Match :=
  program.matchesFrom text.length (2 * text.length + 2) (.start text) none

/-- The stretch of a text that a group matched last; group zero is the whole match. A group that
took no part in the match has none. -/
def Match.captured (found : Match) (group : Nat) (text : List Char) : Option (List Char) :=
  if group = 0 then some ((text.drop found.start).take (found.stop.index - found.start))
  else
    (found.captures.lookup group).map fun bounds =>
      (text.drop bounds.1).take (bounds.2 - bounds.1)

end SchemaBindings.Pattern
