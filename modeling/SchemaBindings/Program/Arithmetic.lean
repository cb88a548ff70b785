import SchemaBindings.Program.Format
import SchemaBindings.Program.Script

/-!
# Arithmetic

An expression has the operators and the precedence of arithmetic on words of 64 bits,
which wraps around. Names stand for the numbers that variables hold, and an assignment
gives a variable a new number. An operand that is not needed is read but not evaluated.
-/
namespace SchemaBindings.Program

/-- Why an expression is refused. -/
inductive ArithmeticError where
  | expected (what : String)
  | divisionByZero
  | illegalNumber (text : Octets)
deriving DecidableEq, Repr

/-- The text that describes why an expression is refused. -/
def ArithmeticError.message (expression : Octets) : ArithmeticError → String
  | .expected what =>
    "arithmetic expression: expecting " ++ what ++ ": \"" ++ .ofList expression ++ "\""
  | .divisionByZero =>
    "arithmetic expression: division by zero: \"" ++ .ofList expression ++ "\""
  | .illegalNumber text => "Illegal number: " ++ .ofList text

/-- What an expression is made of. -/
inductive ArithmeticToken where
  | number (value : Int64)
  | name (name : String)
  | operator (text : String)
  /-- A character that has no meaning. -/
  | strange
deriving DecidableEq, Repr

/-- The operators, the longer ones first. -/
def arithmeticOperators : List String :=
  ["<<=", ">>=", "<<", ">>", "<=", ">=", "==", "!=", "&&", "||", "+=", "-=", "*=", "/=", "%=", "&=",
   "^=", "|=", "+", "-", "*", "/", "%", "<", ">", "=", "!", "&", "^", "|", "~", "?", ":", "(", ")"]

/-- A number as a word; numbers that are too large become the outermost ones. -/
def wordOf (value : Int) : Int64 := .ofInt (max (-signedLimit) (min value (signedLimit - 1)))

/-- The tokens of an expression, of which at most the given number is read. -/
def arithmeticTokens : (bound : Nat) → Octets → List ArithmeticToken
  | 0, _ => []
  | _ + 1, [] => []
  | bound + 1, character :: rest =>
    if character == ' ' || character == '\t' || character == '\n' then arithmeticTokens bound rest
    else if character.isDigit then
      let (value, rest) := readInteger (character :: rest)
      .number (wordOf value) :: arithmeticTokens bound rest
    else if beginsName character then
      let name := character :: rest.takeWhile inName
      .name (.ofList name) :: arithmeticTokens bound (rest.dropWhile inName)
    else
      match arithmeticOperators.find? fun operator =>
          operator.toList.isPrefixOf (character :: rest) with
      | some operator =>
        .operator operator :: arithmeticTokens bound (rest.drop (operator.length - 1))
      | none => .strange :: arithmeticTokens bound rest

/-- What is left of an expression, and what has been assigned. -/
structure ArithmeticState where
  tokens : List ArithmeticToken
  assigned : List (String × Int64) := []

/-- A step of evaluation. -/
abbrev Arithmetic := StateT ArithmeticState (Except ArithmeticError)

namespace Arithmetic

/-- Refuse an expression. -/
def refuse {α : Type} (error : ArithmeticError) : Arithmetic α := fun _ => .error error

/-- The operators between two operands, from those that bind least. -/
def levels : List (List String) :=
  [["|"], ["^"], ["&"], ["==", "!="], ["<", "<=", ">", ">="], ["<<", ">>"], ["+", "-"],
   ["*", "/", "%"]]

/-- A word for whether something holds. -/
def truth (holds : Bool) : Int64 := if holds then 1 else 0

/-- What an operator comes to. -/
def combine (operator : String) (left right : Int64) : Arithmetic Int64 :=
  match operator with
  | "|" => return left ||| right
  | "^" => return left ^^^ right
  | "&" => return left &&& right
  | "==" => return truth (left == right)
  | "!=" => return truth (left != right)
  | "<" => return truth (decide (left < right))
  | "<=" => return truth (decide (left ≤ right))
  | ">" => return truth (decide (right < left))
  | ">=" => return truth (decide (right ≤ left))
  | "<<" => return left <<< right
  | ">>" => return left >>> right
  | "+" => return left + right
  | "-" => return left - right
  | "*" => return left * right
  | _ =>
    if right == 0 then refuse .divisionByZero
    else return if operator == "/" then left / right else left % right

/-- The number that a variable holds. -/
def numberIn (values : String → Octets) (name : String) : Arithmetic Int64 := do
  match (← get).assigned.lookup name with
  | some value => return value
  | none =>
    let text := values name
    let (value, rest) := readInteger text
    if rest.all Char.isWhitespace then return wordOf value else refuse (.illegalNumber text)

/-- Read an operator if it is one of those given. -/
def operatorAmong (operators : List String) : Arithmetic (Option String) := do
  let state ← get
  match state.tokens with
  | .operator text :: rest =>
    if operators.contains text then
      set { state with tokens := rest }
      return some text
    else return none
  | _ => return none

/-- The operators of assignments. -/
def assignments : List String := ["=", "*=", "/=", "%=", "+=", "-=", "<<=", ">>=", "&=", "^=", "|="]

mutual

/-- Evaluate an assignment or what may stand in place of one. `live` says whether the value is
needed. -/
def assignment (values : String → Octets) (live : Bool) : (bound : Nat) → Arithmetic Int64
  | 0 => refuse (.expected "primary")
  | bound + 1 => do
    let state ← get
    match state.tokens with
    | .name name :: .operator operator :: rest =>
      if assignments.contains operator then
        set { state with tokens := rest }
        let value ← assignment values live bound
        if live then
          let value ←
            if operator == "=" then pure value
            else combine (operator.dropEnd 1).toString (← numberIn values name) value
          modify fun state => { state with assigned := (name, value) :: state.assigned }
          return value
        else return value
      else choice values live bound
    | _ => choice values live bound

/-- Evaluate a choice. -/
def choice (values : String → Octets) (live : Bool) : (bound : Nat) → Arithmetic Int64
  | 0 => refuse (.expected "primary")
  | bound + 1 => do
    let condition ← disjunction values live bound
    match ← operatorAmong ["?"] with
    | none => return condition
    | some _ =>
      let holds := condition != 0
      let first ← assignment values (live && holds) bound
      match ← operatorAmong [":"] with
      | none => refuse (.expected "':'")
      | some _ =>
        let second ← choice values (live && !holds) bound
        return if holds then first else second

/-- Evaluate operands joined by `||`. -/
def disjunction (values : String → Octets) (live : Bool) : (bound : Nat) → Arithmetic Int64
  | 0 => refuse (.expected "primary")
  | bound + 1 => do
    let left ← conjunction values live bound
    match ← operatorAmong ["||"] with
    | none => return left
    | some _ =>
      let right ← disjunction values (live && left == 0) bound
      return truth (left != 0 || right != 0)

/-- Evaluate operands joined by `&&`. -/
def conjunction (values : String → Octets) (live : Bool) : (bound : Nat) → Arithmetic Int64
  | 0 => refuse (.expected "primary")
  | bound + 1 => do
    let left ← operand values live levels bound
    match ← operatorAmong ["&&"] with
    | none => return left
    | some _ =>
      let right ← conjunction values (live && left != 0) bound
      return truth (left != 0 && right != 0)

/-- Evaluate operands joined by operators of some levels. -/
def operand (values : String → Octets) (live : Bool) (levels : List (List String)) :
    (bound : Nat) → Arithmetic Int64
  | 0 => refuse (.expected "primary")
  | bound + 1 => do
    match levels with
    | [] => primary values live bound
    | operators :: higher =>
      let left ← operand values live higher bound
      operandsAfter values live operators higher left bound

/-- Evaluate what follows an operand on one level. -/
def operandsAfter (values : String → Octets) (live : Bool) (operators : List String)
    (higher : List (List String)) (left : Int64) : (bound : Nat) → Arithmetic Int64
  | 0 => return left
  | bound + 1 => do
    match ← operatorAmong operators with
    | none => return left
    | some operator =>
      let right ← operand values live higher bound
      let value ← if live then combine operator left right else pure right
      operandsAfter values live operators higher value bound

/-- Evaluate a number, a variable, or an expression in parentheses, with signs before it. -/
def primary (values : String → Octets) (live : Bool) : (bound : Nat) → Arithmetic Int64
  | 0 => refuse (.expected "primary")
  | bound + 1 => do
    let state ← get
    set { state with tokens := state.tokens.tail }
    match state.tokens with
    | .number value :: _ => return value
    | .name name :: _ => if live then numberIn values name else return 0
    | .operator "(" :: _ =>
      let value ← assignment values live bound
      match ← operatorAmong [")"] with
      | none => refuse (.expected "')'")
      | some _ => return value
    | .operator "+" :: _ => primary values live bound
    | .operator "-" :: _ => return -(← primary values live bound)
    | .operator "!" :: _ => return truth ((← primary values live bound) == 0)
    | .operator "~" :: _ => return ~~~(← primary values live bound)
    | _ => refuse (.expected "primary")

end

end Arithmetic

/-- The value of an expression, and what it assigns, the last first. -/
def evaluateArithmetic (values : String → Octets) (expression : Octets) :
    Except ArithmeticError (Int64 × List (String × Int64)) := do
  let tokens := arithmeticTokens expression.length expression
  let (value, state) ←
    (Arithmetic.assignment values true (24 * tokens.length + 24)).run { tokens }
  if state.tokens.isEmpty then return (value, state.assigned)
  else throw (.expected "EOF")

end SchemaBindings.Program
