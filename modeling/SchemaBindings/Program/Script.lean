/-!
# Scripts

A script is a list of commands. A command is a list of words with assignments in front
of them and with streams sent elsewhere, or it is made of other commands: a pipeline,
a choice by the outcome of a command or by a text, a loop, a group, a function.

A word is a row of pieces: text, and what is to be replaced by a value when the
command is run. Every piece knows whether it stands in quotes, because values out of
quotes may come to several words.
-/
namespace SchemaBindings.Program

/-- What a dollar sign refers to. -/
inductive Parameter where
  | variable (name : String)
  | position (number : Nat)
  | count
  /-- The arguments, each of which stays a word of its own. -/
  | separate
  /-- The arguments in a row. -/
  | joined
  | process
  | status
  | options
  /-- The last command in the background. -/
  | started
deriving DecidableEq, Repr

/-- What is done about a parameter without a value. -/
inductive Fallback where
  | use
  | assign
  | refuse
  /-- The word stands for a value that there is. -/
  | replace
deriving DecidableEq, Repr

/-- Which part of a value is cut off. -/
inductive Trim where
  | shortestHead
  | longestHead
  | shortestTail
  | longestTail
deriving DecidableEq, Repr

/-- Where a stream is sent, or what it is taken from. -/
inductive RedirectionKind where
  | read
  | write
  | append
  | readAndWrite
  /-- The other stream is named by a word that is a number or a hyphen. -/
  | duplicate
  /-- The text that comes after the command. -/
  | here (number : Nat)
deriving DecidableEq, Repr

mutual

/-- A piece of a word. -/
inductive Piece where
  | text (value : List Char) (quoted : Bool)
  | parameter (parameter : Parameter) (quoted : Bool)
  | length (parameter : Parameter) (quoted : Bool)
  | fallback (parameter : Parameter) (kind : Fallback) (whenEmpty : Bool) (word : List Piece)
      (quoted : Bool)
  | trimmed (parameter : Parameter) (trim : Trim) (pattern : List Piece) (quoted : Bool)
  | substitution (commands : List Command) (quoted : Bool)
  | arithmetic (expression : List Piece) (quoted : Bool)
  | malformed

/-- A stream that is sent elsewhere. -/
inductive Redirection where
  | mk (stream : Nat) (kind : RedirectionKind) (target : List Piece)

/-- A command. -/
inductive Command where
  | simple (line : Nat) (assignments : List (String × List Piece)) (words : List (List Piece))
      (redirections : List Redirection)
  | pipeline (negated : Bool) (commands : List Command)
  | both (first second : Command)
  | either (first second : Command)
  | background (command : Command)
  | group (commands : List Command)
  | subshell (commands : List Command)
  | branch (condition body otherwise : List Command)
  | loop (untilHolds : Bool) (condition body : List Command)
  /-- Without words the loop runs for the arguments. -/
  | forEach (name : String) (words : Option (List (List Piece))) (body : List Command)
  | choose (word : List Piece) (cases : List (List (List Piece) × List Command))
  | define (name : String) (body : Command)
  | redirected (command : Command) (redirections : List Redirection)

end

/-- A word before its parameters are replaced. -/
abbrev ScriptWord := List Piece

/-- Whether a character may begin the name of a variable. -/
def beginsName (character : Char) : Bool := character.isAlpha || character == '_'

/-- Whether a character may stand in the name of a variable. -/
def inName (character : Char) : Bool := character.isAlphanum || character == '_'

/-- Whether a text is the name of a variable. -/
def isName (text : List Char) : Bool :=
  (text.head?.map beginsName).getD false && text.all inName

/-- Join texts that follow one another and are quoted alike. -/
def joinTexts : ScriptWord → ScriptWord
  | [] => []
  | .text value quoted :: rest =>
    match joinTexts rest with
    | .text more quoted' :: others =>
      if quoted == quoted' && !value.isEmpty && !more.isEmpty then
        .text (value ++ more) quoted :: others
      else .text value quoted :: .text more quoted' :: others
    | others => .text value quoted :: others
  | piece :: rest => piece :: joinTexts rest

/-- The text of a word that is nothing but text out of quotes. -/
def bareText? : ScriptWord → Option (List Char)
  | [] => some []
  | .text value false :: pieces => (bareText? pieces).map (value ++ ·)
  | _ :: _ => none

/-- The text of a word that is nothing but text, and whether some of it is quoted. -/
def literalText? : ScriptWord → Option (List Char × Bool)
  | [] => some ([], false)
  | .text value quoted :: pieces =>
    (literalText? pieces).map fun rest => (value ++ rest.1, quoted || rest.2)
  | _ :: _ => none

/-- The variable and the value of a word that is an assignment. -/
def assignment? : ScriptWord → Option (String × ScriptWord)
  | .text value false :: pieces =>
    let name := value.takeWhile inName
    match value.drop name.length with
    | '=' :: rest =>
      if isName name then
        some (.ofList name, if rest.isEmpty then pieces else .text rest false :: pieces)
      else none
    | _ => none
  | _ => none

end SchemaBindings.Program
