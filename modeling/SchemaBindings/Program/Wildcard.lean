import SchemaBindings.Program.Octets

/-!
# Wildcards

A wildcard pattern is matched against a whole text. An asterisk stands for any row of
characters, a question mark for one, and brackets for one of those they list. Characters
that were quoted stand for themselves.
-/
namespace SchemaBindings.Program

/-- A character and whether it was quoted. -/
abbrev Marked := Char × Bool

/-- What brackets list. -/
inductive BracketItem where
  | range (first last : Char)
  | named (name : String)
deriving DecidableEq, Repr

/-- A part of a wildcard pattern. -/
inductive Wildcard where
  | plain (value : Char)
  | any
  | row
  | brackets (negated : Bool) (items : List BracketItem)
deriving DecidableEq, Repr

/-- Whether a character is of a class that brackets name. -/
def inNamedClass (name : String) (character : Char) : Bool :=
  let code := character.toNat
  match name with
  | "alpha" => character.isAlpha
  | "digit" => character.isDigit
  | "alnum" => character.isAlphanum
  | "upper" => character.isUpper
  | "lower" => character.isLower
  | "space" => character == ' ' || (9 ≤ code && code ≤ 13)
  | "blank" => character == ' ' || character == '\t'
  | "punct" => 33 ≤ code && code ≤ 126 && !character.isAlphanum
  | "cntrl" => code < 32 || code == 127
  | "print" => 32 ≤ code && code ≤ 126
  | "graph" => 33 ≤ code && code ≤ 126
  | "xdigit" =>
    character.isDigit || ('a' ≤ character && character ≤ 'f')
      || ('A' ≤ character && character ≤ 'F')
  | _ => false

namespace BracketItem

/-- Whether an item lists a character. -/
def lists (character : Char) : BracketItem → Bool
  | .range first last => first ≤ character && character ≤ last
  | .named name => inNamedClass name character

end BracketItem

namespace Wildcard

/-- The class whose name stands between colons, and what follows it. -/
def className? (text : List Marked) : Option (String × List Marked) :=
  let name := text.takeWhile fun marked => marked.1.isAlpha
  match text.drop name.length with
  | (':', _) :: (']', false) :: rest => some (.ofList (name.map Prod.fst), rest)
  | _ => none

/-- Read the items of brackets up to the closing one, which may be the first item. -/
def bracketItems : (bound : Nat) → (isFirst : Bool) → List Marked →
    Option (List BracketItem × List Marked)
  | 0, _, _ => none
  | _ + 1, _, [] => none
  | bound + 1, isFirst, (character, quoted) :: rest =>
    let add (item : BracketItem) (rest : List Marked) :
        Option (List BracketItem × List Marked) :=
      (bracketItems bound false rest).map fun items => (item :: items.1, items.2)
    if character == ']' && !quoted && !isFirst then some ([], rest)
    else
      let single : Option (List BracketItem × List Marked) :=
        match rest with
        | ('-', false) :: (']', false) :: _ => add (.range character character) rest
        | ('-', false) :: (last, _) :: others => add (.range character last) others
        | _ => add (.range character character) rest
      match character, rest with
      | '[', (':', _) :: others =>
        match className? others with
        | some (name, others) => if quoted then single else add (.named name) others
        | none => single
      | _, _ => single

/-- The parts of a pattern, of which at most the given number is read. -/
def ofMarkedWithin : (bound : Nat) → List Marked → List Wildcard
  | 0, _ => []
  | _ + 1, [] => []
  | bound + 1, (character, true) :: rest => .plain character :: ofMarkedWithin bound rest
  | bound + 1, ('*', false) :: rest => .row :: ofMarkedWithin bound rest
  | bound + 1, ('?', false) :: rest => .any :: ofMarkedWithin bound rest
  | bound + 1, ('[', false) :: rest =>
    let (negated, inner) :=
      match rest with
      | ('!', false) :: others => (true, others)
      | ('^', false) :: others => (true, others)
      | _ => (false, rest)
    match bracketItems (inner.length + 1) true inner with
    | some (items, others) => .brackets negated items :: ofMarkedWithin bound others
    | none => .plain '[' :: ofMarkedWithin bound rest
  | bound + 1, (character, false) :: rest => .plain character :: ofMarkedWithin bound rest

/-- The parts of a pattern. -/
def ofMarked (pattern : List Marked) : List Wildcard := ofMarkedWithin pattern.length pattern

/-- Whether a part that stands for one character stands for this one. -/
def accepts (character : Char) : Wildcard → Bool
  | .plain value => value == character
  | .any => true
  | .row => false
  | .brackets negated items => (items.any (BracketItem.lists character)) != negated

/-- Which of the ends of a text are matched by patterns: the list says, for each place from the
first, whether what stands before it has been matched. -/
def afterRow (seen : Bool) : List Bool → List Bool
  | [] => []
  | reached :: others => (seen || reached) :: afterRow (seen || reached) others

/-- Go over one character wherever a part stands for it. -/
def afterCharacter (part : Wildcard) : List Bool → Octets → List Bool
  | reached :: others, character :: rest =>
    (reached && part.accepts character) :: afterCharacter part others rest
  | _, _ => []

/-- The places of a text that a pattern can lead to from given ones. -/
def reachable (text : Octets) : List Wildcard → List Bool → List Bool
  | [], reached => reached
  | .row :: parts, reached => reachable text parts (afterRow false reached)
  | part :: parts, reached => reachable text parts (false :: afterCharacter part reached text)

/-- The lengths of the beginnings of a text that a pattern matches, in order. -/
def headLengths (pattern : List Wildcard) (text : Octets) : List Nat :=
  let reached := reachable text pattern (true :: text.map fun _ => false)
  (reached.zipIdx.filter Prod.fst).map Prod.snd

/-- Whether a pattern matches a whole text. -/
def fits (pattern : List Wildcard) (text : Octets) : Bool :=
  (headLengths pattern text).contains text.length

/-- Whether a pattern has a part that is no plain character. -/
def isOpen (pattern : List Wildcard) : Bool :=
  pattern.any fun part => !(part matches .plain _)

end Wildcard

end SchemaBindings.Program
