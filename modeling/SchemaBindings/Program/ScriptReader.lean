import SchemaBindings.Program.Script

/-!
# Reading scripts

A script is read one complete line of commands at a time, so that what comes before a
fault has been run when the fault is found. The texts that follow a command on lines of
their own are kept apart, by numbers, and read when the line is complete.

Everything here is bounded by the length of the text: a reader that takes nothing from
the text is not called again at the same place.
-/
namespace SchemaBindings.Program

/-- A fault of a script, with the line on which it was found. -/
structure ScriptFault where
  line : Nat
  message : String
deriving DecidableEq, Repr

/-- What a script is made of. -/
inductive Token where
  | word (pieces : ScriptWord)
  | keyword (text : String)
  | operator (text : String)
  | redirection (stream : Option Nat) (text : String)
  | newline
  | endOfText

/-- How a token is called in messages. -/
def Token.name : Token → String
  | .word _ => "word"
  | .keyword text => "\"" ++ text ++ "\""
  | .operator text => "\"" ++ text ++ "\""
  | .redirection _ _ => "redirection"
  | .newline => "newline"
  | .endOfText => "end of file"

/-- A text after a command that has still to be read: its number, the line that ends it, whether
its parameters are left alone, and whether tabs before its lines are dropped. -/
structure PendingText where
  number : Nat
  delimiter : List Char
  quoted : Bool
  dropTabs : Bool

/-- A script that has been read up to a place. -/
structure Scanner where
  rest : List Char
  line : Nat := 1
  pushed : Option Token := none
  pending : List PendingText := []
  /-- The texts after commands, by their numbers. -/
  texts : List (Nat × ScriptWord) := []
  count : Nat := 0

/-- A step of reading. -/
abbrev Reader := StateT Scanner (Except ScriptFault)

namespace Reader

/-- Report a fault on the line that has been reached. -/
def refuse {α : Type} (message : String) : Reader α := fun scanner =>
  .error ⟨scanner.line, "Syntax error: " ++ message⟩

/-- Report a token that does not fit. -/
def unexpected {α : Type} (token : Token) (expected : Option String) : Reader α :=
  refuse (token.name ++ " unexpected"
    ++ match expected with
      | some text => " (expecting " ++ text ++ ")"
      | none => "")

/-- The next character. -/
def peek : Reader (Option Char) := fun scanner => .ok (scanner.rest.head?, scanner)

/-- Whether a text comes next. -/
def looksAt (text : List Char) : Reader Bool := fun scanner =>
  .ok (text.isPrefixOf scanner.rest, scanner)

/-- Read a character. -/
def advance : Reader Unit := fun scanner =>
  match scanner.rest with
  | [] => .ok ((), scanner)
  | character :: rest =>
    .ok ((), { scanner with
      rest, line := if character == '\n' then scanner.line + 1 else scanner.line })

/-- Read several characters. -/
def advanceBy : Nat → Reader Unit
  | 0 => return
  | count + 1 => do
    advance
    advanceBy count

/-- The number of characters left. -/
def remaining : Reader Nat := fun scanner => .ok (scanner.rest.length, scanner)

/-- Read the characters that satisfy a condition. -/
def span (condition : Char → Bool) : Reader (List Char) := fun scanner =>
  let taken := scanner.rest.takeWhile condition
  .ok (taken, { scanner with
    rest := scanner.rest.drop taken.length, line := scanner.line + taken.count '\n' })

/-- Read a text of its own, whose announced texts count on. -/
def apart {α : Type} (text : List Char) (reader : Reader α) : Reader α := fun scanner =>
  match reader.run { rest := text, line := scanner.line, count := scanner.count,
                     texts := scanner.texts } with
  | .error fault => .error fault
  | .ok (value, inner) => .ok (value, { scanner with count := inner.count, texts := inner.texts })

/-- Give a token back. -/
def push (token : Token) : Reader Unit := modify fun scanner => { scanner with pushed := some token }

end Reader

open Reader

/-- Where pieces of a word are read. -/
inductive WordContext where
  | plain
  | quoted
  /-- The text after a command. -/
  | text
  /-- Inside of braces, which may stand in quotes. -/
  | braced (quoted : Bool)
  | arithmetic
deriving DecidableEq, Repr

namespace WordContext

/-- Whether text is protected as if in quotes. -/
def protects : WordContext → Bool
  | .plain => false
  | .braced within => within
  | _ => true

/-- Whether quotes have their meaning. -/
def hasQuotes : WordContext → Bool
  | .plain => true
  | .braced within => !within
  | _ => false

/-- The characters that a backslash takes their meaning from; out of quotes these are all. -/
def escapes (context : WordContext) (character : Char) : Bool :=
  match context with
  | .plain => true
  | .braced false => true
  | .braced true => ['$', '"', '\\', '\x60', '}'].contains character
  | .quoted => ['$', '"', '\\', '\x60'].contains character
  | .arithmetic => ['$', '"', '\\', '\x60'].contains character
  | .text => ['$', '\\', '\x60'].contains character

end WordContext

/-- Whether a character ends a word out of quotes. -/
def endsWord (character : Char) : Bool :=
  [' ', '\t', '\n', ';', '&', '|', '(', ')', '<', '>'].contains character

/-- The words that have a meaning of their own at the beginning of a command. -/
def keywords : List String :=
  ["if", "then", "elif", "else", "fi", "while", "until", "do", "done", "for", "in", "case", "esac",
   "!", "\x7b", "\x7d"]

/-- The keywords and operators that end a list of commands. -/
def endsList : Token → Bool
  | .keyword text => ["then", "elif", "else", "fi", "do", "done", "esac", "\x7d"].contains text
  | .operator text => [")", ";;"].contains text
  | .endOfText => true
  | _ => false

/-- Read backslashes at the ends of lines, which join them. -/
def skipContinuations : (bound : Nat) → Reader Unit
  | 0 => return
  | bound + 1 => do
    if ← looksAt ['\\', '\n'] then
      advanceBy 2
      skipContinuations bound

/-- Read the raw text between back quotes, without the backslashes that protect characters in it. -/
def backquoted (inQuotes : Bool) : (bound : Nat) → Reader (List Char)
  | 0 => refuse "EOF in backquote substitution"
  | bound + 1 => do
    match ← peek with
    | none => refuse "EOF in backquote substitution"
    | some '\x60' =>
      advance
      return []
    | some '\\' =>
      advance
      match ← peek with
      | some character =>
        advance
        if ['$', '\\', '\x60'].contains character || (inQuotes && character == '"') then
          return character :: (← backquoted inQuotes bound)
        else return '\\' :: character :: (← backquoted inQuotes bound)
      | none => refuse "EOF in backquote substitution"
    | some character =>
      advance
      return character :: (← backquoted inQuotes bound)

/-- Read single-quoted text after its opening quote. -/
def singleQuoted : Reader (List Char) := do
  let text ← span (· != '\'')
  match ← peek with
  | none => refuse "Unterminated quoted string"
  | some _ =>
    advance
    return text

/-- The parameter that comes next, if one does. -/
def parameterNext (bracesAround : Bool) : Reader (Option Parameter) := do
  let special (parameter : Parameter) : Reader (Option Parameter) := do
    advance
    return some parameter
  match ← peek with
  | none => return none
  | some '@' => special .separate
  | some '*' => special .joined
  | some '#' => special .count
  | some '?' => special .status
  | some '-' => special .options
  | some '$' => special .process
  | some '!' => special .started
  | some character =>
    if character.isDigit then
      if bracesAround then
        let digits ← span Char.isDigit
        return some (.position ((String.ofList digits).toNat?.getD 0))
      else special (.position (character.toNat - '0'.toNat))
    else if beginsName character then return some (.variable (.ofList (← span inName)))
    else return none

/-- The operator after a parameter in braces: what is done about a missing value, and whether an
empty value counts as one. -/
def fallbackNext : Reader (Option (Fallback × Bool)) := do
  let kindOf (character : Char) : Option Fallback :=
    [('-', Fallback.use), ('=', .assign), ('?', .refuse), ('+', .replace)].lookup character
  let scanner ← get
  match scanner.rest with
  | ':' :: character :: _ =>
    match kindOf character with
    | some kind =>
      advanceBy 2
      return some (kind, true)
    | none => return none
  | character :: _ =>
    match kindOf character with
    | some kind =>
      advance
      return some (kind, false)
    | none => return none
  | [] => return none

/-- The operator after a parameter in braces that cuts off a part of its value. -/
def trimNext : Reader (Option Trim) := do
  let scanner ← get
  match scanner.rest with
  | '#' :: '#' :: _ =>
    advanceBy 2
    return some .longestHead
  | '%' :: '%' :: _ =>
    advanceBy 2
    return some .longestTail
  | '#' :: _ =>
    advance
    return some .shortestHead
  | '%' :: _ =>
    advance
    return some .shortestTail
  | _ => return none

/-- Whether a line ends in a backslash that is not itself after one. -/
def continues (line : List Char) : Bool :=
  (line.reverse.takeWhile (· == '\\')).length % 2 == 1

/-- Read a here text: lines up to the delimiter or the end of the script. A line that belongs to the
one before is not taken for the delimiter. -/
def hereLines (pending : PendingText) : (joined : Bool) → (bound : Nat) → Reader (List Char)
  | _, 0 => return []
  | joined, bound + 1 => do
    match ← peek with
    | none => return []
    | some _ =>
      let line ← span (· != '\n')
      let line := if pending.dropTabs && !joined then line.dropWhile (· == '\t') else line
      let ended := (← peek).isNone
      advance
      if !joined && line = pending.delimiter then return []
      else
        let joined := !pending.quoted && continues line
        return line ++ (if ended then [] else ['\n']) ++ (← hereLines pending joined bound)

/-- Announce the text after a command. -/
def announce (stream : Nat) (pieces : ScriptWord) (dropTabs : Bool) : Reader Redirection := do
  let (delimiter, quoted) := (literalText? pieces).getD ([], false)
  let scanner ← get
  set { scanner with
    count := scanner.count + 1
    pending := scanner.pending ++ [(⟨scanner.count, delimiter, quoted, dropTabs⟩ : PendingText)] }
  return .mk stream (.here scanner.count) []

mutual

/-- Read the pieces of a word up to what ends them, which is left. `depth` counts open parentheses
of an arithmetic expression. -/
def wordPieces (context : WordContext) (depth : Nat) : (bound : Nat) → Reader ScriptWord
  | 0 => return []
  | bound + 1 => do
    match ← peek with
    | none =>
      match context with
      | .quoted => refuse "Unterminated quoted string"
      | .braced _ => refuse "Missing '\x7d'"
      | .arithmetic => refuse "Missing '))'"
      | _ => return []
    | some character =>
      let goOn (pieces : ScriptWord) : Reader ScriptWord := do
        return pieces ++ (← wordPieces context depth bound)
      let single : Reader ScriptWord := do
        advance
        goOn [.text [character] context.protects]
      if (context = .plain && endsWord character)
          || (context = .quoted && character == '"')
          || (character == '}' && context matches .braced _)
          || (context = .arithmetic && depth == 0 && (← looksAt [')', ')'])) then
        return []
      else
        match character with
        | '\\' => do
          advance
          match ← peek with
          | none => goOn [.text ['\\'] context.protects]
          | some '\n' =>
            advance
            goOn []
          | some next =>
            advance
            if context.escapes next then goOn [.text [next] true]
            else goOn [.text ['\\', next] context.protects]
        | '\'' =>
          if context.hasQuotes then do
            advance
            goOn [.text (← singleQuoted) true]
          else single
        | '"' =>
          if context = .text || context = .arithmetic then single
          else do
            advance
            let inner ← wordPieces .quoted 0 bound
            advance
            goOn (if inner.any fun piece => piece matches .parameter .separate _ then inner
              else .text [] true :: inner)
        | '\x60' => do
          advance
          let script ← backquoted (context = .quoted) bound
          let commands ← apart script (substituted bound)
          goOn [.substitution commands context.protects]
        | '$' => do
          advance
          goOn [← dollarPiece context.protects bound]
        | '(' =>
          if context = .arithmetic then do
            advance
            return .text ['('] true :: (← wordPieces context (depth + 1) bound)
          else single
        | ')' =>
          if context = .arithmetic then do
            advance
            return .text [')'] true :: (← wordPieces context (depth - 1) bound)
          else single
        | _ => single

/-- Read what a dollar sign begins. -/
def dollarPiece (quoted : Bool) : (bound : Nat) → Reader Piece
  | 0 => return .text ['$'] quoted
  | bound + 1 => do
    skipContinuations bound
    if ← looksAt ['(', '('] then
      advanceBy 2
      let expression ← wordPieces .arithmetic 0 bound
      advanceBy 2
      return .arithmetic expression quoted
    else if ← looksAt ['('] then
      advance
      let commands ← commandList false true bound
      match ← nextToken false false bound with
      | .operator ")" => return .substitution commands quoted
      | token => unexpected token (some "\")\"")
    else if ← looksAt ['\x7b'] then
      advance
      bracedPiece quoted bound
    else
      match ← parameterNext false with
      | some parameter => return .parameter parameter quoted
      | none => return .text ['$'] quoted

/-- Read a parameter in braces after the opening brace. -/
def bracedPiece (quoted : Bool) : (bound : Nat) → Reader Piece
  | 0 => return .malformed
  | bound + 1 => do
    let close (piece : Piece) : Reader Piece := do
      if ← looksAt ['\x7d'] then
        advance
        return piece
      else
        if ← looksAt [':'] then advance
        modify fun scanner => { scanner with rest := scanner.rest.tail }
        let _ ← wordPieces (.braced quoted) 0 bound
        advance
        return .malformed
    if (← looksAt ['#']) && !(← looksAt ['#', '\x7d']) then
      advance
      match ← parameterNext true with
      | some parameter => close (.length parameter quoted)
      | none => close .malformed
    else
      match ← parameterNext true with
      | none => close .malformed
      | some parameter =>
        match ← fallbackNext with
        | some (kind, whenEmpty) =>
          let word ← wordPieces (.braced quoted) 0 bound
          close (.fallback parameter kind whenEmpty word quoted)
        | none =>
          match ← trimNext with
          | some trim =>
            let pattern ← wordPieces (.braced false) 0 bound
            close (.trimmed parameter trim pattern quoted)
          | none => close (.parameter parameter quoted)

/-- Read the commands of a text between back quotes. -/
def substituted : (bound : Nat) → Reader (List Command)
  | 0 => return []
  | bound + 1 => do
    let commands ← commandList false true bound
    match ← nextToken false false bound with
    | .endOfText => return commands
    | token => unexpected token none

/-- Read the texts that the line before has announced. -/
def hereTexts : (bound : Nat) → Reader Unit
  | 0 => return
  | bound + 1 => do
    match (← get).pending with
    | [] => return
    | pending :: others =>
      modify fun scanner => { scanner with pending := others }
      let body ← hereLines pending false bound
      let word : ScriptWord ←
        if pending.quoted then pure [.text body true]
        else apart body (joinTexts <$> wordPieces .text 0 bound)
      modify fun scanner => { scanner with texts := (pending.number, word) :: scanner.texts }
      hereTexts bound

/-- Read the next token. If asked to, newlines are passed over and keywords are told from words. -/
def nextToken (skipNewlines withKeywords : Bool) : (bound : Nat) → Reader Token
  | 0 => return .endOfText
  | bound + 1 => do
    let scanner ← get
    let token ←
      match scanner.pushed with
      | some token =>
        set { scanner with pushed := none }
        pure token
      | none => freshToken bound
    match token with
    | .newline => if skipNewlines then nextToken skipNewlines withKeywords bound else return token
    | .word pieces =>
      match bareText? pieces with
      | some text =>
        let text := String.ofList text
        if withKeywords && keywords.contains text then return .keyword text else return token
      | none => return token
    | _ => return token

/-- Read a token from the text. -/
def freshToken : (bound : Nat) → Reader Token
  | 0 => return .endOfText
  | bound + 1 => do
    let operator (text : String) : Reader Token := do
      advanceBy text.length
      return .operator text
    let redirection (text : String) : Reader Token := do
      advanceBy text.length
      return .redirection none text
    match (← get).rest with
    | [] => return .endOfText
    | ' ' :: _ =>
      advance
      freshToken bound
    | '\t' :: _ =>
      advance
      freshToken bound
    | '\\' :: '\n' :: _ =>
      advanceBy 2
      freshToken bound
    | '#' :: _ =>
      let _ ← span (· != '\n')
      freshToken bound
    | '\n' :: _ =>
      advance
      hereTexts bound
      return .newline
    | '&' :: '&' :: _ => operator "&&"
    | '&' :: _ => operator "&"
    | '|' :: '|' :: _ => operator "||"
    | '|' :: _ => operator "|"
    | ';' :: ';' :: _ => operator ";;"
    | ';' :: _ => operator ";"
    | '(' :: _ => operator "("
    | ')' :: _ => operator ")"
    | '<' :: '<' :: '-' :: _ => redirection "<<-"
    | '<' :: '<' :: _ => redirection "<<"
    | '<' :: '&' :: _ => redirection "<&"
    | '<' :: '>' :: _ => redirection "<>"
    | '<' :: _ => redirection "<"
    | '>' :: '>' :: _ => redirection ">>"
    | '>' :: '&' :: _ => redirection ">&"
    | '>' :: '|' :: _ => redirection ">|"
    | '>' :: _ => redirection ">"
    | _ =>
      let pieces := joinTexts (← wordPieces .plain 0 bound)
      match pieces, (← peek) with
      | [.text [digit] false], some next =>
        if digit.isDigit && (next == '<' || next == '>') then
          match ← freshToken bound with
          | .redirection _ text =>
            return .redirection (some (digit.toNat - '0'.toNat)) text
          | token => return token
        else return .word pieces
      | _, _ => return .word pieces

/-- Read the word after a redirection. -/
def redirectionTarget (stream : Option Nat) (text : String) : (bound : Nat) → Reader Redirection
  | 0 => return .mk 1 .write []
  | bound + 1 => do
    match ← nextToken false false bound with
    | .word pieces =>
      match text with
      | "<" => return .mk (stream.getD 0) .read pieces
      | "<>" => return .mk (stream.getD 0) .readAndWrite pieces
      | ">>" => return .mk (stream.getD 1) .append pieces
      | "<&" => return .mk (stream.getD 0) .duplicate pieces
      | ">&" => return .mk (stream.getD 1) .duplicate pieces
      | "<<" => announce (stream.getD 0) pieces false
      | "<<-" => announce (stream.getD 0) pieces true
      | _ => return .mk (stream.getD 1) .write pieces
    | token => unexpected token none

/-- Read the redirections after a compound command. -/
def redirectionsAfter : (bound : Nat) → Reader (List Redirection)
  | 0 => return []
  | bound + 1 => do
    match ← nextToken false true bound with
    | .redirection stream text => do
      let redirection ← redirectionTarget stream text bound
      return redirection :: (← redirectionsAfter bound)
    | token =>
      push token
      return []

/-- Read a simple command or the definition of a function. `words` and the others have what has been
read, in order. -/
def simpleCommand (line : Nat) (assignments : List (String × ScriptWord)) (words : List ScriptWord)
    (redirections : List Redirection) : (bound : Nat) → Reader Command
  | 0 => return .simple line assignments words redirections
  | bound + 1 => do
    match ← nextToken false false bound with
    | .word pieces =>
      match (if words.isEmpty then assignment? pieces else none) with
      | some assignment =>
        simpleCommand line (assignments ++ [assignment]) words redirections bound
      | none => simpleCommand line assignments (words ++ [pieces]) redirections bound
    | .redirection stream text =>
      let redirection ← redirectionTarget stream text bound
      simpleCommand line assignments words (redirections ++ [redirection]) bound
    | .operator "(" =>
      match words, assignments, redirections with
      | [word], [], [] =>
        match ← nextToken false false bound with
        | .operator ")" =>
          match bareText? word with
          | some name =>
            if isName name then
              return .define (.ofList name) (← oneCommand true bound)
            else refuse "Bad function name"
          | none => refuse "Bad function name"
        | token => unexpected token (some "\")\"")
      | _, _, _ =>
        push (.operator "(")
        return .simple line assignments words redirections
    | token =>
      push token
      return .simple line assignments words redirections

/-- Read the words of a loop up to the end of the line. -/
def loopWords : (bound : Nat) → Reader (List ScriptWord)
  | 0 => return []
  | bound + 1 => do
    match ← nextToken false false bound with
    | .word pieces => return pieces :: (← loopWords bound)
    | .newline => return []
    | .operator ";" => return []
    | token => unexpected token none

/-- Read the cases of a choice up to its end. -/
def choiceCases : (bound : Nat) → Reader (List (List ScriptWord × List Command))
  | 0 => return []
  | bound + 1 => do
    match ← nextToken true true bound with
    | .keyword "esac" => return []
    | token => do
      match token with
      | .operator "(" => pure ()
      | _ => push token
      let patterns ← casePatterns bound
      let body ← commandList false true bound
      match ← nextToken true true bound with
      | .keyword "esac" => return [(patterns, body)]
      | .operator ";;" => return (patterns, body) :: (← choiceCases bound)
      | token => unexpected token (some "\";;\"")

/-- Read the patterns of a case. -/
def casePatterns : (bound : Nat) → Reader (List ScriptWord)
  | 0 => return []
  | bound + 1 => do
    let pattern : ScriptWord ←
      match ← nextToken false false bound with
      | .word pieces => pure pieces
      | .keyword text => pure [.text text.toList false]
      | _ => pure []
    match ← nextToken false false bound with
    | .operator "|" => return pattern :: (← casePatterns bound)
    | .operator ")" => return [pattern]
    | token => unexpected token (some "\")\"")

/-- Read a keyword that has to come. -/
def expectKeyword (text : String) : (bound : Nat) → Reader Unit
  | 0 => return
  | bound + 1 => do
    match ← nextToken true true bound with
    | .keyword found =>
      if found = text then return else unexpected (.keyword found) (some ("\"" ++ text ++ "\""))
    | token => unexpected token (some ("\"" ++ text ++ "\""))

/-- Read what comes after the condition of a branch. -/
def branchRest : (bound : Nat) → Reader Command
  | 0 => return .group []
  | bound + 1 => do
    let condition ← commandList false false bound
    expectKeyword "then" bound
    let body ← commandList false false bound
    match ← nextToken true true bound with
    | .keyword "elif" => return .branch condition body [← branchRest bound]
    | .keyword "else" =>
      let otherwise ← commandList false false bound
      expectKeyword "fi" bound
      return .branch condition body otherwise
    | .keyword "fi" => return .branch condition body []
    | token => unexpected token (some "\"fi\"")

/-- Read one command. -/
def oneCommand (skipNewlines : Bool) : (bound : Nat) → Reader Command
  | 0 => return .group []
  | bound + 1 => do
    let redirectable (command : Command) : Reader Command := do
      match ← redirectionsAfter bound with
      | [] => return command
      | redirections => return .redirected command redirections
    match ← nextToken skipNewlines true bound with
    | .keyword "if" => redirectable (← branchRest bound)
    | .keyword "while" => redirectable (← loopRest false bound)
    | .keyword "until" => redirectable (← loopRest true bound)
    | .keyword "for" =>
      match ← nextToken false false bound with
      | .word pieces =>
        match bareText? pieces with
        | some name =>
          if isName name then do
            let words : Option (List ScriptWord) ←
              match ← nextToken true true bound with
              | .keyword "in" => do pure (some (← loopWords bound))
              | .operator ";" => pure none
              | token => do
                push token
                pure none
            expectKeyword "do" bound
            let body ← commandList false false bound
            expectKeyword "done" bound
            redirectable (.forEach (.ofList name) words body)
          else refuse "Bad for loop variable"
        | none => refuse "Bad for loop variable"
      | _ => refuse "Bad for loop variable"
    | .keyword "case" =>
      match ← nextToken false false bound with
      | .word pieces =>
        expectKeyword "in" bound
        redirectable (.choose pieces (← choiceCases bound))
      | token => unexpected token (some "word")
    | .operator "(" =>
      let commands ← commandList false false bound
      match ← nextToken true true bound with
      | .operator ")" => redirectable (.subshell commands)
      | token => unexpected token (some "\")\"")
    | .keyword "\x7b" =>
      let commands ← commandList false false bound
      expectKeyword "\x7d" bound
      redirectable (.group commands)
    | .word pieces =>
      push (.word pieces)
      simpleCommand (← get).line [] [] [] bound
    | .redirection stream text =>
      push (.redirection stream text)
      simpleCommand (← get).line [] [] [] bound
    | token => unexpected token none

/-- Read a loop after its keyword. -/
def loopRest (untilHolds : Bool) : (bound : Nat) → Reader Command
  | 0 => return .group []
  | bound + 1 => do
    let condition ← commandList false false bound
    expectKeyword "do" bound
    let body ← commandList false false bound
    expectKeyword "done" bound
    return .loop untilHolds condition body

/-- Read the commands of a pipeline after the first one. -/
def pipelineRest : (bound : Nat) → Reader (List Command)
  | 0 => return []
  | bound + 1 => do
    match ← nextToken false false bound with
    | .operator "|" => do
      let command ← oneCommand true bound
      return command :: (← pipelineRest bound)
    | token =>
      push token
      return []

/-- Read a pipeline. -/
def onePipeline : (bound : Nat) → Reader Command
  | 0 => return .group []
  | bound + 1 => do
    let negated ←
      match ← nextToken true true bound with
      | .keyword "!" => pure true
      | token => do
        push token
        pure false
    let first ← oneCommand false bound
    match ← pipelineRest bound with
    | [] => return if negated then .pipeline true [first] else first
    | others => return .pipeline negated (first :: others)

/-- Read what is joined to a pipeline by its outcome. -/
def joinedRest (command : Command) : (bound : Nat) → Reader Command
  | 0 => return command
  | bound + 1 => do
    match ← nextToken false false bound with
    | .operator "&&" => do
      let second ← onePipeline bound
      joinedRest (.both command second) bound
    | .operator "||" => do
      let second ← onePipeline bound
      joinedRest (.either command second) bound
    | token =>
      push token
      return command

/-- Read commands. At the top the list ends with the line; otherwise it ends where it cannot go on,
and may be empty only if `mayBeEmpty`. -/
def commandList (top mayBeEmpty : Bool) : (bound : Nat) → Reader (List Command)
  | 0 => return []
  | bound + 1 => do
    match ← nextToken (!top) true bound with
    | .newline => return []
    | .endOfText =>
      push .endOfText
      return []
    | token =>
      push token
      if mayBeEmpty && !top && endsList token then return []
      else
        let command ← joinedRest (← onePipeline bound) bound
        match ← nextToken false false bound with
        | .endOfText =>
          push .endOfText
          return [command]
        | .newline =>
          if top then return [command]
          else return command :: (← commandList top true bound)
        | .operator ";" => return command :: (← commandList top true bound)
        | .operator "&" => return .background command :: (← commandList top true bound)
        | token =>
          if top then unexpected token none
          else
            push token
            return [command]

end

/-- Read the next line of commands; none at the end of the script. -/
def scriptLine : Reader (Option (List Command)) := do
  let scanner ← get
  if scanner.rest.isEmpty && scanner.pushed.isNone then return none
  else
    let bound := 10 * (← remaining) + 64
    let commands ← commandList true false bound
    match (← get).pushed with
    | some .endOfText =>
      hereTexts bound
      modify fun scanner => { scanner with pushed := none, rest := [] }
    | _ => pure ()
    return some commands

end SchemaBindings.Program
