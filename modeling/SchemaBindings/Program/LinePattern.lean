import SchemaBindings.Program.Wildcard

/-!
# Patterns of lines

Tools that look for lines have patterns of their own. Such a pattern matches at the
first place it can, and there as much as it can, however its parts come to it. Two ways
of writing differ in whether parentheses, braces and signs of repetition have their
meaning with a backslash or without one.
-/
namespace SchemaBindings.Program

/-- A pattern of lines. -/
inductive LinePattern where
  | empty
  | plain (value : Char)
  | any
  | brackets (negated : Bool) (items : List BracketItem)
  | wordCharacter (negated : Bool)
  | blank (negated : Bool)
  | lineStart
  | lineEnd
  | wordStart
  | wordEnd
  | wordEdge (negated : Bool)
  /-- No word goes on to this place. -/
  | noWordBefore
  /-- No word goes on from this place. -/
  | noWordAfter
  | group (number : Nat) (inner : LinePattern)
  /-- The text of a group once more. -/
  | again (number : Nat)
  | sequence (first second : LinePattern)
  | choice (first second : LinePattern)
  | repeated (inner : LinePattern) (least : Nat) (most : Option Nat)
deriving Repr

/-- Where a match has come to, and the places of its groups. -/
structure LineState where
  position : Nat
  groups : List (Nat × Nat × Nat) := []
deriving DecidableEq, Repr

namespace LinePattern

/-- Whether a character may stand in a word. -/
def isWordCharacter (character : Char) : Bool := character.isAlphanum || character == '_'

/-- Whether two characters count as the same. -/
def same (folded : Bool) (left right : Char) : Bool :=
  left == right || (folded && left.toLower == right.toLower)

/-- Add states that are not there yet. -/
def union (states others : List LineState) : List LineState :=
  states ++ others.filter fun state => !states.contains state

/-- Repeat a step while it leads to new states; `count` repetitions have been made. -/
def repeatStep (step : LineState → List LineState) (least : Nat) (most : Option Nat) :
    (bound count : Nat) → (reached current : List LineState) → List LineState
  | 0, _, reached, _ => reached
  | bound + 1, count, reached, current =>
    let reached' := if least ≤ count then union reached current else reached
    if most == some count || current.isEmpty then reached'
    else
      let next := (current.flatMap step).eraseDups
      let next := if least ≤ count then next.filter (!reached'.contains ·) else next
      repeatStep step least most bound (count + 1) reached' next

/-- The states that a match of a pattern can lead to. -/
def follow (folded : Bool) (text : Array Char) : LinePattern → LineState → List LineState
  | .empty, state => [state]
  | .plain value, state => take state fun character => same folded value character
  | .any, state => take state fun _ => true
  | .brackets negated items, state =>
    take state fun character =>
      (items.any fun item =>
        item.lists character
          || (folded && (item.lists character.toLower || item.lists character.toUpper))) != negated
  | .wordCharacter negated, state => take state fun character => isWordCharacter character != negated
  | .blank negated, state => take state fun character => inNamedClass "space" character != negated
  | .lineStart, state => if state.position = 0 then [state] else []
  | .lineEnd, state => if state.position = text.size then [state] else []
  | .wordStart, state => if !wordBefore state && wordAfter state then [state] else []
  | .wordEnd, state => if wordBefore state && !wordAfter state then [state] else []
  | .wordEdge negated, state =>
    if (wordBefore state != wordAfter state) != negated then [state] else []
  | .noWordBefore, state => if wordBefore state then [] else [state]
  | .noWordAfter, state => if wordAfter state then [] else [state]
  | .group number inner, state =>
    (follow folded text inner state).map fun after =>
      { after with
        groups := (number, state.position, after.position)
          :: after.groups.filter fun group => group.1 != number }
  | .again number, state =>
    match state.groups.lookup number with
    | none => []
    | some (first, last) =>
      let part := (text.extract first last).toList
      let here := (text.extract state.position (state.position + part.length)).toList
      if here.length = part.length && (part.zip here).all fun pair => same folded pair.1 pair.2 then
        [{ state with position := state.position + part.length }]
      else []
  | .sequence first second, state =>
    ((follow folded text first state).flatMap (follow folded text second)).eraseDups
  | .choice first second, state =>
    union (follow folded text first state) (follow folded text second state)
  | .repeated inner least most, state =>
    repeatStep (follow folded text inner) least most (text.size + least + 2) 0 [] [state]
where
  /-- Go over a character that satisfies a condition. -/
  take (state : LineState) (condition : Char → Bool) : List LineState :=
    match text[state.position]? with
    | some character =>
      if condition character then [{ state with position := state.position + 1 }] else []
    | none => []
  /-- Whether a word stands before a place. -/
  wordBefore (state : LineState) : Bool :=
    state.position != 0 && (text[state.position - 1]?).any isWordCharacter
  /-- Whether a word stands after a place. -/
  wordAfter (state : LineState) : Bool := (text[state.position]?).any isWordCharacter

/-- The match at the first place from a given one on, of which at most the given number is tried:
where it begins, and where it has come to. -/
def find? (pattern : LinePattern) (folded : Bool) (text : Array Char) :
    (bound start : Nat) → Option (Nat × LineState)
  | 0, _ => none
  | bound + 1, start =>
    match follow folded text pattern { position := start } with
    | [] => find? pattern folded text bound (start + 1)
    | first :: others =>
      let longest := others.foldl (fun longest state =>
        if longest.position < state.position then state else longest) first
      some (start, longest)

/-- Whether a pattern matches in a line. -/
def matchesIn (pattern : LinePattern) (folded : Bool) (line : Octets) : Bool :=
  (pattern.find? folded line.toArray (line.length + 1) 0).isSome

/-- The greatest number of a group. -/
def groupCount : LinePattern → Nat
  | .group number inner => max number inner.groupCount
  | .sequence first second => max first.groupCount second.groupCount
  | .choice first second => max first.groupCount second.groupCount
  | .repeated inner _ _ => inner.groupCount
  | _ => 0

/-- A pattern that matches a text. -/
def ofText (text : Octets) : LinePattern :=
  text.foldr (fun character pattern => .sequence (.plain character) pattern) .empty

/-- Why a pattern is refused. -/
abbrev Refusal := String

/-- The bounds of a repetition in braces, and what follows the closing brace. -/
def bounds? (extended : Bool) (text : Octets) : Option (Nat × Option Nat × Octets) :=
  let first := text.takeWhile Char.isDigit
  let rest := text.drop first.length
  let close (least : Nat) (most : Option Nat) (rest : Octets) :
      Option (Nat × Option Nat × Octets) :=
    match extended, rest with
    | true, '}' :: rest => some (least, most, rest)
    | false, '\\' :: '}' :: rest => some (least, most, rest)
    | _, _ => none
  match rest with
  | ',' :: rest =>
    let last := rest.takeWhile Char.isDigit
    close ((Octets.digits? first).getD 0) (Octets.digits? last) (rest.drop last.length)
  | _ =>
    match Octets.digits? first with
    | some count => close count (some count) rest
    | none => none

/-- The repetition that comes next, and what follows it. -/
def repetition? (extended : Bool) (text : Octets) : Option (Nat × Option Nat × Octets) :=
  match extended, text with
  | _, '*' :: rest => some (0, none, rest)
  | true, '+' :: rest => some (1, none, rest)
  | true, '?' :: rest => some (0, some 1, rest)
  | true, '\x7b' :: rest => bounds? true rest
  | false, '\\' :: '+' :: rest => some (1, none, rest)
  | false, '\\' :: '?' :: rest => some (0, some 1, rest)
  | false, '\\' :: '\x7b' :: rest => bounds? false rest
  | _, _ => none

mutual

/-- Read alternatives up to a closing parenthesis or the end. -/
def readChoice (extended inGroup : Bool) : (bound groups : Nat) → Octets →
    Except Refusal (LinePattern × Nat × Octets)
  | 0, groups, text => .ok (.empty, groups, text)
  | bound + 1, groups, text => do
    let (first, groups, rest) ← readSequence extended inGroup true bound groups text
    let after :=
      match extended, rest with
      | true, '|' :: rest => some rest
      | false, '\\' :: '|' :: rest => some rest
      | _, _ => none
    match after with
    | some rest =>
      let (second, groups, rest) ← readChoice extended inGroup bound groups rest
      return (.choice first second, groups, rest)
    | none => return (first, groups, rest)

/-- Read parts that follow one another. -/
def readSequence (extended inGroup isFirst : Bool) : (bound groups : Nat) → Octets →
    Except Refusal (LinePattern × Nat × Octets)
  | 0, groups, text => .ok (.empty, groups, text)
  | bound + 1, groups, text => do
    let ends :=
      match extended, text with
      | _, [] => true
      | true, '|' :: _ => true
      | true, ')' :: _ => inGroup
      | false, '\\' :: '|' :: _ => true
      | false, '\\' :: ')' :: _ => true
      | _, _ => false
    if ends then return (.empty, groups, text)
    else
      let (part, groups, rest) ← readPart extended isFirst bound groups text
      let (part, rest) ← repetitions extended bound part rest
      let next := isFirst && part matches .lineStart
      let (others, groups, rest) ← readSequence extended inGroup next bound groups rest
      return (.sequence part others, groups, rest)

/-- Read the repetitions after a part. -/
def repetitions (extended : Bool) : (bound : Nat) → LinePattern → Octets →
    Except Refusal (LinePattern × Octets)
  | 0, part, text => .ok (part, text)
  | bound + 1, part, text =>
    match repetition? extended text with
    | some (least, most, rest) =>
      if !extended && part matches .lineStart then .ok (part, text)
      else if most.any (· < least) then throw "Invalid content of \\\x7b\\\x7d"
      else repetitions extended bound (.repeated part least most) rest
    | none => .ok (part, text)

/-- Read one part. -/
def readPart (extended isFirst : Bool) : (bound groups : Nat) → Octets →
    Except Refusal (LinePattern × Nat × Octets)
  | 0, groups, text => .ok (.empty, groups, text)
  | bound + 1, groups, text => do
    let single (pattern : LinePattern) (rest : Octets) :
        Except Refusal (LinePattern × Nat × Octets) := .ok (pattern, groups, rest)
    let grouped (rest : Octets) : Except Refusal (LinePattern × Nat × Octets) := do
      let number := groups + 1
      let (inner, groups, rest) ← readChoice extended true bound number rest
      match extended, rest with
      | true, ')' :: rest => return (.group number inner, groups, rest)
      | false, '\\' :: ')' :: rest => return (.group number inner, groups, rest)
      | _, _ => throw "Unmatched ( or \\("
    match text with
    | [] => single .empty []
    | '.' :: rest => single .any rest
    | '[' :: rest =>
      let (negated, inner) :=
        match rest with
        | '^' :: others => (true, others)
        | _ => (false, rest)
      match Wildcard.bracketItems (inner.length + 1) true (inner.map fun c => (c, false)) with
      | some (items, others) => single (.brackets negated items) (others.map Prod.fst)
      | none => throw "Unmatched [, [^, [:, [., or [="
    | '^' :: rest =>
      if extended || isFirst then single .lineStart rest else single (.plain '^') rest
    | '$' :: rest =>
      let atEnd :=
        match rest with
        | [] => true
        | '\\' :: ')' :: _ => true
        | '\\' :: '|' :: _ => true
        | _ => false
      if extended || atEnd then single .lineEnd rest else single (.plain '$') rest
    | '(' :: rest => if extended then grouped rest else single (.plain '(') rest
    | '\\' :: character :: rest =>
      match character with
      | '(' => if extended then single (.plain '(') rest else grouped rest
      | '\x7b' => if extended then single (.plain character) rest else throw "Unmatched \\\x7b"
      | 'n' => single (.plain '\n') rest
      | 't' => single (.plain '\t') rest
      | 'w' => single (.wordCharacter false) rest
      | 'W' => single (.wordCharacter true) rest
      | 's' => single (.blank false) rest
      | 'S' => single (.blank true) rest
      | '<' => single .wordStart rest
      | '>' => single .wordEnd rest
      | 'b' => single (.wordEdge false) rest
      | 'B' => single (.wordEdge true) rest
      | _ =>
        if character.isDigit && character != '0' then
          let number := character.toNat - '0'.toNat
          if number ≤ groups then single (.again number) rest else throw "Invalid back reference"
        else single (.plain character) rest
    | ['\\'] => throw "Trailing backslash"
    | character :: rest => single (.plain character) rest

end

/-- Read a pattern. -/
def ofOctets (extended : Bool) (text : Octets) : Except Refusal LinePattern := do
  let (pattern, _, rest) ← readChoice extended false (4 * text.length + 8) 0 text
  match rest with
  | [] => return pattern
  | _ => throw "Unmatched ) or \\)"

end LinePattern

end SchemaBindings.Program
