import SchemaBindings.Program.LinePattern

/-!
# Editing lines

A line editor goes over lines with a list of commands, each of which applies to the
lines that its addresses choose. A line is kept in a space of its own while commands
change it, and is written when all have been done, unless the editor is told to be
quiet. A second space holds what commands put aside.
-/
namespace SchemaBindings.Program

/-- Which line an address chooses. -/
inductive LineAddress where
  | number (value : Nat)
  | last
  | matching (pattern : LinePattern) (folded : Bool)
  /-- Every so many lines from a first one on. -/
  | step (first width : Nat)
  /-- So many lines after the first one of a range. -/
  | offset (count : Nat)

/-- A part of what is put in the place of a match. -/
inductive ReplacementPart where
  | text (value : Octets)
  | group (number : Nat)
deriving DecidableEq, Repr

/-- How a substitution is made. -/
structure SubstitutionFlags where
  all : Bool := false
  /-- The first match that is replaced. -/
  first : Option Nat := none
  shown : Bool := false
  folded : Bool := false

/-- What is done to a line. -/
inductive EditAction where
  | substitute (pattern : LinePattern) (replacement : List ReplacementPart)
      (flags : SubstitutionFlags)
  | transliterate (table : List (Char × Char))
  | delete
  | deleteFirst
  | print
  | printFirst
  | quit (quiet : Bool) (status : Nat)
  | writeNumber
  | append (text : Octets)
  | insert (text : Octets)
  | change (text : Octets)
  | next
  | nextAppended
  | hold (added : Bool)
  | fetch (added : Bool)
  | exchange
  /-- The commands up to the end of a block are passed over unless the block applies. -/
  | openBlock
  | closeBlock
  | label (name : Octets)
  /-- Go on at a label, or at the end if the label is empty; perhaps only if something has been
  replaced since the last line was taken or the last such jump. -/
  | jump (name : Octets) (ifReplaced : Bool)

/-- A command of the editor. The number tells commands apart. -/
structure EditCommand where
  number : Nat
  first : Option LineAddress := none
  second : Option LineAddress := none
  negated : Bool := false
  action : EditAction

namespace EditCommand

/-- The character that a letter after a backslash stands for. -/
def escapedCharacter? : Char → Option Char
  | 'n' => some '\n'
  | 't' => some '\t'
  | 'r' => some '\r'
  | 'f' => some '\x0C'
  | 'v' => some '\x0B'
  | 'a' => some '\x07'
  | _ => none

/-- Where a character of a pattern stands with respect to brackets. -/
inductive BracketPlace where
  | outside
  /-- After the opening bracket, where a closing one stands for itself. -/
  | opened
  | inside
  /-- In a class that is named between brackets. -/
  | named
  /-- Before the bracket that closes the name of a class. -/
  | closing
deriving DecidableEq, Repr

/-- The place after a character, which another one follows. -/
def BracketPlace.after (place : BracketPlace) (character : Char) (following : Option Char) :
    BracketPlace :=
  let entered : BracketPlace :=
    if character == '[' && following == some ':' then .named else .inside
  match place with
  | .outside => if character == '[' then .opened else .outside
  | .opened => if character == '^' then .opened else entered
  | .inside => if character == ']' then .outside else entered
  | .named => if character == ':' && following == some ']' then .closing else .named
  | .closing => .inside

/-- Read a text up to a delimiter that has no backslash before it and, in a pattern, does not stand
between brackets. A backslash before the delimiter is dropped. -/
def delimited (delimiter : Char) (isPattern : Bool) : BracketPlace → Octets →
    Option (Octets × Octets)
  | _, [] => none
  | .outside, '\\' :: character :: rest =>
    (delimited delimiter isPattern .outside rest).map fun found =>
      (if character == delimiter || character == '\n' then character :: found.1
        else '\\' :: character :: found.1, found.2)
  | place, character :: rest =>
    if character == delimiter && place = .outside then some ([], rest)
    else if character == '\n' then none
    else
      let place := if isPattern then place.after character rest.head? else place
      (delimited delimiter isPattern place rest).map fun found => (character :: found.1, found.2)

/-- The parts of a replacement. -/
def replacementParts : Octets → List ReplacementPart
  | [] => []
  | '&' :: rest => .group 0 :: replacementParts rest
  | '\\' :: character :: rest =>
    if character.isDigit then .group (character.toNat - '0'.toNat) :: replacementParts rest
    else
      .text [(escapedCharacter? character).getD character] :: replacementParts rest
  | character :: rest => .text [character] :: replacementParts rest

/-- Read an address. -/
def readAddress (extended : Bool) (text : Octets) :
    Except String (Option LineAddress × Octets) := do
  let pattern (delimiter : Char) (rest : Octets) : Except String (Option LineAddress × Octets) := do
    match delimited delimiter true .outside rest with
    | none => throw "unterminated address regex"
    | some (body, rest) =>
      let pattern ← LinePattern.ofOctets extended body
      match rest with
      | 'I' :: rest => return (some (.matching pattern true), rest)
      | _ => return (some (.matching pattern false), rest)
  match text with
  | '$' :: rest => return (some .last, rest)
  | '/' :: rest => pattern '/' rest
  | '\\' :: delimiter :: rest => pattern delimiter rest
  | _ =>
    let digits := text.takeWhile Char.isDigit
    match Octets.digits? digits with
    | none => return (none, text)
    | some first =>
      match text.drop digits.length with
      | '~' :: rest =>
        let width := rest.takeWhile Char.isDigit
        return (some (.step first ((Octets.digits? width).getD 0)), rest.drop width.length)
      | rest => return (some (.number first), rest)

/-- Whether a character separates commands. -/
def separates (character : Char) : Bool :=
  character == ';' || character == '\n' || character == ' ' || character == '\t'

/-- Read the flags of a substitution. A fault is given with what was left when it was found. -/
def readFlags : (bound : Nat) → SubstitutionFlags → Octets →
    Except (String × Nat) (SubstitutionFlags × Octets)
  | 0, flags, text => .ok (flags, text)
  | bound + 1, flags, text =>
    match text with
    | 'g' :: rest =>
      if flags.all then .error ("multiple \x60g' options to \x60s' command", rest.length)
      else readFlags bound { flags with all := true } rest
    | 'p' :: rest =>
      if flags.shown then .error ("multiple \x60p' options to \x60s' command", rest.length)
      else readFlags bound { flags with shown := true } rest
    | ' ' :: rest => readFlags bound flags rest
    | 'I' :: rest => readFlags bound { flags with folded := true } rest
    | 'i' :: rest => readFlags bound { flags with folded := true } rest
    | _ =>
      let digits := text.takeWhile Char.isDigit
      let rest := text.drop digits.length
      match Octets.digits? digits with
      | some 0 => .error ("number option to \x60s' command may not be zero", rest.length)
      | some number =>
        if flags.first.isSome then
          .error ("multiple number options to \x60s' command", rest.length)
        else readFlags bound { flags with first := some number } rest
      | none => .ok (flags, text)

/-- The text of a command that adds text: the rest of the line, which goes on after a backslash. -/
def addedText (text : Octets) : Octets × Octets :=
  let isBlank (character : Char) : Bool := character == ' ' || character == '\t'
  let body := text.dropWhile isBlank
  let body :=
    match body with
    | '\\' :: '\n' :: rest => rest
    | '\\' :: rest => rest
    | _ => body
  upToLine body
where
  /-- Read up to the end of the line. -/
  upToLine : Octets → Octets × Octets
    | [] => ([], [])
    | '\\' :: character :: rest =>
      let (text, rest) := upToLine rest
      (character :: text, rest)
    | '\n' :: rest => ([], rest)
    | character :: rest =>
      let (text, rest) := upToLine rest
      (character :: text, rest)

/-- The number of a group in a replacement that is not among so many groups. -/
def excess? (count : Nat) : ReplacementPart → Option Nat
  | .group number => if count < number then some number else none
  | .text _ => none

/-- The characters of a text in which a backslash gives letters another meaning. -/
def plainCharacters : Octets → Octets
  | '\\' :: character :: rest =>
    (escapedCharacter? character).getD character :: plainCharacters rest
  | character :: rest => character :: plainCharacters rest
  | [] => []

/-- Why commands are refused, and how much was left when that was found. -/
abbrev Fault := String × Nat

/-- Whether what follows a command ends it. -/
def endsCommand (text : Octets) : Bool :=
  match text.dropWhile (· == ' ') with
  | [] => true
  | character :: _ => separates character || character == '\x7d' || character == '#'

/-- Read two texts that stand between delimiters. -/
def readPair (letter : Char) (isPattern : Bool) (text : Octets) :
    Except Fault (Octets × Octets × Octets) :=
  let pair : Option (Octets × Octets × Octets) := do
    let delimiter ← text.head?
    let (first, rest) ← delimited delimiter isPattern .outside text.tail
    let (second, rest) ← delimited delimiter false .outside rest
    return (first, second, rest)
  match pair with
  | some pair => .ok pair
  | none => .error ("unterminated \x60" ++ .singleton letter ++ "' command", 0)

/-- Read a substitution. Its end is looked for before the pattern is read. -/
def readSubstitution (extended : Bool) (text : Octets) : Except Fault (EditAction × Octets) := do
  let (pattern, replacement, rest) ← readPair 's' true text
  let (flags, rest) ← readFlags rest.length {} rest
  let left := rest.length - 1
  if !endsCommand rest then throw ("unknown option to \x60s'", left)
  let pattern ← (LinePattern.ofOctets extended pattern).mapError fun message => (message, left)
  let parts := replacementParts replacement
  match parts.findSome? (excess? pattern.groupCount) with
  | some number =>
    throw ("invalid reference \\" ++ toString number ++ " on \x60s' command's RHS", left)
  | none => return (.substitute pattern parts flags, rest)

/-- Read what a command does. -/
def readAction (extended : Bool) (letter : Char) (text : Octets) :
    Except Fault (EditAction × Octets) := do
  match letter with
  | 's' => readSubstitution extended text
  | 'y' =>
    let (source, target, rest) ← readPair 'y' false text
    let source := plainCharacters source
    let target := plainCharacters target
    if source.length = target.length then return (.transliterate (source.zip target), rest)
    else throw ("strings for \x60y' command are different lengths", rest.length)
  | 'd' => return (.delete, text)
  | 'D' => return (.deleteFirst, text)
  | 'p' => return (.print, text)
  | 'P' => return (.printFirst, text)
  | '=' => return (.writeNumber, text)
  | 'n' => return (.next, text)
  | 'N' => return (.nextAppended, text)
  | 'h' => return (.hold false, text)
  | 'H' => return (.hold true, text)
  | 'g' => return (.fetch false, text)
  | 'G' => return (.fetch true, text)
  | 'x' => return (.exchange, text)
  | '\x7b' => return (.openBlock, text)
  | '\x7d' => return (.closeBlock, text)
  | ':' =>
    let body := text.dropWhile (· == ' ')
    let name := body.takeWhile fun character => !separates character
    if name.isEmpty then throw ("\":\" lacks a label", text.length)
    else return (.label name, '\n' :: body.drop name.length)
  | _ =>
    if letter == 'a' || letter == 'i' || letter == 'c' then
      if text.all (· == ' ') then throw ("expected \\ after \x60a', \x60c' or \x60i'", text.length)
      else
        let (added, rest) := addedText text
        let action :=
          if letter == 'a' then .append added
          else if letter == 'i' then .insert added
          else EditAction.change added
        return (action, '\n' :: rest)
    else if letter == 'b' || letter == 't' then
      let body := text.dropWhile (· == ' ')
      let name := body.takeWhile fun character => !separates character && character != '\x7d'
      return (.jump name (letter == 't'), body.drop name.length)
    else if letter == 'q' || letter == 'Q' then
      let body := text.dropWhile (· == ' ')
      let digits := body.takeWhile Char.isDigit
      return (.quit (letter == 'Q') ((Octets.digits? digits).getD 0), body.drop digits.length)
    else throw ("unknown command: \x60" ++ .singleton letter ++ "'", text.length)

/-- Read commands, of which at most the given number is read; `depth` is the number of open blocks.
A fault is reported with how much was left when it was found, if it was found at a place. -/
def readAll (extended : Bool) : (bound number depth : Nat) → Octets →
    Except (String × Option Nat) (List EditCommand)
  | 0, _, _, _ => .ok []
  | bound + 1, number, depth, text => do
    let text := text.dropWhile separates
    match text with
    | [] => if depth = 0 then return [] else throw ("unmatched \x60\x7b'", none)
    | '#' :: rest => readAll extended bound number depth (rest.dropWhile (· != '\n'))
    | _ =>
      let fault {α : Type} (left : Nat) (result : Except String α) :
          Except (String × Option Nat) α :=
        result.mapError fun message => (message, some left)
      let (first, rest) ← fault 0 (readAddress extended text)
      let (second, body) ←
        match first, rest.dropWhile (· == ' ') with
        | some _, ',' :: rest =>
          let rest := rest.dropWhile (· == ' ')
          let (second, rest') ← fault 0 (readLastAddress extended rest)
          if second.isNone then throw ("unexpected \x60,'", some (rest.length - 1))
          else pure (second, rest'.dropWhile (· == ' '))
        | _, rest => pure (none, rest)
      let (negated, body) :=
        match body with
        | '!' :: body => (true, body.dropWhile (· == ' '))
        | _ => (false, body)
      match body with
      | [] => throw ("missing command", some 0)
      | letter :: rest =>
        if first matches some (.number 0) && !second matches some (.matching ..) then
          throw ("invalid usage of line address 0", some rest.length)
        let (action, rest) ←
          (readAction extended letter rest).mapError fun (message, left) => (message, some left)
        let depth ←
          match action, depth with
          | .openBlock, _ => pure (depth + 1)
          | .closeBlock, 0 => throw ("unexpected \x60\x7d'", some rest.length)
          | .closeBlock, depth + 1 => pure depth
          | _, _ => pure depth
        if !action matches .openBlock && !endsCommand rest then
          throw ("extra characters after command", some ((rest.dropWhile (· == ' ')).length - 1))
        let others ← readAll extended bound (number + 1) depth rest
        return { number, first, second, negated, action } :: others
where
  /-- Read the last address of a range. -/
  readLastAddress (extended : Bool) (text : Octets) :
      Except String (Option LineAddress × Octets) :=
    match text with
    | '+' :: rest =>
      let digits := rest.takeWhile Char.isDigit
      .ok (some (.offset ((Octets.digits? digits).getD 0)), rest.drop digits.length)
    | _ => readAddress extended text

/-- Read the commands of a text. A fault is reported with the number of the character at which it was
found. -/
def ofOctets (extended : Bool) (text : Octets) : Except (String × Nat) (List EditCommand) :=
  (readAll extended (text.length + 1) 0 0 text).mapError fun (message, left) =>
    (message, (left.map (text.length - ·)).getD 0)

/-- A label that commands jump to and that is not there. -/
def missingLabel? (commands : List EditCommand) : Option Octets :=
  let labels := commands.filterMap fun command =>
    match command.action with
    | .label name => some name
    | _ => none
  commands.findSome? fun command =>
    match command.action with
    | .jump name _ => if name.isEmpty || labels.contains name then none else some name
    | _ => none

end EditCommand

/-- A line that is worked on or put aside, and whether its end is written after it. -/
structure EditSpace where
  text : Octets := []
  ended : Bool := true

/-- A line editor at work. -/
structure LineEditor where
  /-- Whether lines are written only when a command says so. -/
  quiet : Bool
  space : EditSpace := {}
  held : EditSpace := {}
  number : Nat := 0
  rest : List Octets
  /-- Whether the last line has an end. -/
  ended : Bool := true
  /-- The ranges that have begun and not ended: the numbers of their commands and, if it is known,
  the number of their last line. -/
  active : List (Nat × Option Nat) := []
  /-- Whether something has been replaced since the last line was taken. -/
  replaced : Bool := false
  added : List Octets := []
  /-- What has been written, in reverse. -/
  written : Octets := []
  /-- The status with which the editor has been told to stop. -/
  stopped : Option Nat := none

/-- A line with another one after it. -/
def EditSpace.extend (space other : EditSpace) : EditSpace :=
  { text := space.text ++ '\n' :: other.text, ended := other.ended }

namespace LineEditor

/-- The editor with another text as the line. -/
def withText (editor : LineEditor) (text : Octets) : LineEditor :=
  { editor with space := { editor.space with text } }

/-- Write a text, with an end of the line after it unless it is the end of a text without one. -/
def emit (editor : LineEditor) (text : Octets) (ended : Bool) : LineEditor :=
  let before :=
    match editor.written with
    | [] => []
    | '\n' :: _ => editor.written
    | written => '\n' :: written
  let after := text.reverse ++ before
  { editor with written := if ended then '\n' :: after else after }

/-- Write the line. -/
def writeSpace (editor : LineEditor) : LineEditor :=
  editor.emit editor.space.text editor.space.ended

/-- Write the line and what has been added after it. -/
def finishLine (editor : LineEditor) (shown : Bool) : LineEditor :=
  let editor := if shown then editor.writeSpace else editor
  let editor := editor.added.foldl (fun editor text => editor.emit text true) editor
  { editor with added := [] }

/-- Whether an address chooses the line. -/
def chooses (editor : LineEditor) : LineAddress → Bool
  | .number value => editor.number == value
  | .last => editor.rest.isEmpty
  | .matching pattern folded => pattern.matchesIn folded editor.space.text
  | .step first width =>
    if width = 0 then editor.number == first
    else first ≤ editor.number && (editor.number - first) % width == 0
  | .offset _ => false

/-- Whether a command applies to the line, and the editor that knows the ranges that go on. -/
def applies (editor : LineEditor) (command : EditCommand) : Bool × LineEditor :=
  let (holds, editor) :=
    match command.first, command.second with
    | none, _ => (true, editor)
    | some address, none => (editor.chooses address, editor)
    | some first, some second => range first second
  (holds != command.negated, editor)
where
  /-- Whether the line lies in a range. -/
  range (first second : LineAddress) : Bool × LineEditor :=
    let stop : LineEditor :=
      { editor with active := editor.active.filter fun range => range.1 != command.number }
    let go (last : Option Nat) : LineEditor :=
      { stop with active := (command.number, last) :: stop.active }
    let fromZero := first matches .number 0 && editor.number = 1
    match editor.active.lookup command.number, fromZero with
    | some (some last), _ =>
      (editor.number ≤ last, if editor.number < last then editor else stop)
    | some none, _ => (true, if editor.chooses second then stop else editor)
    | none, true => (true, if editor.chooses second then editor else go none)
    | none, false =>
      if editor.chooses first then
        let last :=
          match second with
          | .number value => some value
          | .offset count => some (editor.number + count)
          | _ => none
        let lasts := last.all (editor.number < ·) && !(second matches .last && editor.rest.isEmpty)
        (true, if lasts then go last else editor)
      else (false, editor)

/-- Take the next line, if there is one. -/
def advance (editor : LineEditor) : Option LineEditor :=
  match editor.rest with
  | [] => none
  | line :: rest =>
    let space := { text := line, ended := !rest.isEmpty || editor.ended }
    some { editor with space, number := editor.number + 1, rest }

/-- What is put in the place of a match. -/
def replacementText (text : Array Char) (first : Nat) (state : LineState)
    (parts : List ReplacementPart) : Octets :=
  parts.flatMap fun
    | .text value => value
    | .group 0 => (text.extract first state.position).toList
    | .group number =>
      match state.groups.lookup number with
      | some (first, last) => (text.extract first last).toList
      | none => []

/-- Replace matches from a place on; `count` is the number of the next match. -/
def substituted (pattern : LinePattern) (parts : List ReplacementPart) (flags : SubstitutionFlags)
    (text : Array Char) : (bound count start : Nat) → (after : Option Nat) →
    Octets × Bool
  | 0, _, start, _ => ((text.extract start text.size).toList, false)
  | bound + 1, count, start, after =>
    match pattern.find? flags.folded text (text.size + 1 - start) start with
    | none => ((text.extract start text.size).toList, false)
    | some (first, state) =>
      let before := (text.extract start first).toList
      if first = state.position && after == some first then
        if h : first < text.size then
          let (others, changed) :=
            substituted pattern parts flags text bound count (first + 1) none
          (before ++ text[first] :: others, changed)
        else (before, false)
      else
        let wanted := flags.first.getD 1
        let replaced := count == wanted || (flags.all && wanted < count)
        let middle :=
          if replaced then replacementText text first state parts
          else (text.extract first state.position).toList
        if replaced && !flags.all then
          (before ++ middle ++ (text.extract state.position text.size).toList, true)
        else
          let (others, changed) :=
            substituted pattern parts flags text bound (count + 1) state.position
              (some state.position)
          (before ++ middle ++ others, replaced || changed)

/-- Pass over commands up to the end of a block. -/
def afterBlock : (depth : Nat) → List EditCommand → List EditCommand
  | _, [] => []
  | depth, command :: commands =>
    match command.action, depth with
    | .openBlock, _ => afterBlock (depth + 1) commands
    | .closeBlock, 0 => commands
    | .closeBlock, depth + 1 => afterBlock depth commands
    | _, _ => afterBlock depth commands

/-- The commands after a label. -/
def afterLabel (name : Octets) : List EditCommand → List EditCommand
  | [] => []
  | command :: commands =>
    match command.action with
    | .label other => if other == name then commands else afterLabel name commands
    | _ => afterLabel name commands

/-- Do commands to the line. The second value says whether the line is written at the end, and none
that nothing more is to be done with it. -/
def perform (all : List EditCommand) : (bound : Nat) → List EditCommand → LineEditor →
    LineEditor × Option Bool
  | 0, _, editor => (editor, some true)
  | _ + 1, [], editor => (editor, some true)
  | bound + 1, command :: commands, editor =>
    let (holds, editor) := editor.applies command
    if !holds then
      match command.action with
      | .openBlock => perform all bound (afterBlock 0 commands) editor
      | _ => perform all bound commands editor
    else
      match command.action with
      | .openBlock => perform all bound commands editor
      | .closeBlock => perform all bound commands editor
      | .label _ => perform all bound commands editor
      | .jump name ifReplaced =>
        if ifReplaced && !editor.replaced then perform all bound commands editor
        else
          let editor := if ifReplaced then { editor with replaced := false } else editor
          if name.isEmpty then (editor, some true)
          else perform all bound (afterLabel name all) editor
      | .substitute pattern parts flags =>
        let text := editor.space.text.toArray
        let (text', changed) :=
          substituted pattern parts flags text (2 * text.size + 4) 1 0 none
        let editor := if changed then { editor.withText text' with replaced := true } else editor
        perform all bound commands (if changed && flags.shown then editor.writeSpace else editor)
      | .transliterate table =>
        perform all bound commands (editor.withText (editor.space.text.map fun character =>
          (table.lookup character).getD character))
      | .delete => (editor, some false)
      | .deleteFirst =>
        match editor.space.text.dropWhile (· != '\n') with
        | [] => (editor, some false)
        | _ :: text => perform all bound all ((editor.finishLine false).withText text)
      | .print => perform all bound commands editor.writeSpace
      | .printFirst =>
        let text := editor.space.text
        perform all bound commands
          (editor.emit (text.takeWhile (· != '\n')) (text.contains '\n' || editor.space.ended))
      | .quit quiet status => ({ editor with stopped := some status }, some !quiet)
      | .writeNumber =>
        perform all bound commands (editor.emit (Octets.ofNumber editor.number) true)
      | .append text => perform all bound commands { editor with added := editor.added ++ [text] }
      | .insert text =>
        perform all bound commands (editor.emit text true)
      | .change text =>
        let last := command.second.isNone || command.negated
          || (editor.active.lookup command.number).isNone
        (if last then editor.emit text true else editor, some false)
      | .next =>
        match (editor.finishLine (!editor.quiet)).advance with
        | some editor => perform all bound commands editor
        | none => ({ editor with stopped := some 0 }, some true)
      | .nextAppended =>
        match editor.advance with
        | some after =>
          perform all bound commands { after with space := editor.space.extend after.space }
        | none => ({ editor with stopped := some 0 }, some true)
      | .hold added =>
        let held := if added then editor.held.extend editor.space else editor.space
        perform all bound commands { editor with held }
      | .fetch added =>
        let space := if added then editor.space.extend editor.held else editor.held
        perform all bound commands { editor with space }
      | .exchange =>
        perform all bound commands { editor with space := editor.held, held := editor.space }

/-- The number of commands that may be done to a line. -/
def stepLimit : Nat := 1000000

/-- Go over all lines. -/
def runAll (commands : List EditCommand) : (bound : Nat) → LineEditor → LineEditor
  | 0, editor => editor
  | bound + 1, editor =>
    match editor.advance with
    | none => editor
    | some editor =>
      let editor := { editor with replaced := false }
      let (editor, shown) := perform commands stepLimit commands editor
      let editor := editor.finishLine (shown.getD false && !editor.quiet)
      if editor.stopped.isSome then editor else runAll commands bound editor

end LineEditor

end SchemaBindings.Program
