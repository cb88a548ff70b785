import SchemaBindings.Program.Octets
import SchemaBindings.Workspace.Files

/-!
# Conditions

A condition is a row of words: operators on texts, numbers and files, joined by `-a`,
`-o`, exclamation marks and parentheses. A word that could be an operator is taken as a
text where an operator would have nothing to work on. The condition has to use up all
words.
-/
namespace SchemaBindings.Program

/-- Why a condition is refused. -/
inductive ConditionError where
  | unexpectedOperator (word : Octets)
  | argumentExpected (operator : Octets)
  | parenthesisExpected
  | illegalNumber (word : Octets)
  | missingBracket
deriving DecidableEq, Repr

/-- The text that describes why a condition is refused. -/
def ConditionError.message : ConditionError → String
  | .unexpectedOperator word => .ofList word ++ ": unexpected operator"
  | .argumentExpected operator => .ofList operator ++ ": argument expected"
  | .parenthesisExpected => "closing paren expected"
  | .illegalNumber word => "Illegal number: " ++ .ofList word
  | .missingBracket => "missing ]"

/-- What a word is in a condition. -/
inductive ConditionToken where
  | nothing
  | operand
  | unary (operator : String)
  | binary (operator : String)
  | negation
  | conjunction
  | disjunction
  | opening
  | closing
deriving DecidableEq, Repr

namespace ConditionToken

/-- The operator that a word is. -/
def operator? (word : Octets) : Option ConditionToken :=
  let text := String.ofList word
  if ["-r", "-w", "-x", "-f", "-d", "-c", "-b", "-p", "-u", "-g", "-k", "-s", "-t", "-z", "-n", "-h",
      "-O", "-G", "-L", "-S", "-e"].contains text then some (.unary text)
  else if ["=", "!=", "<", ">", "-eq", "-ne", "-ge", "-gt", "-le", "-lt", "-nt", "-ot",
      "-ef"].contains text then some (.binary text)
  else
    match text with
    | "!" => some .negation
    | "-a" => some .conjunction
    | "-o" => some .disjunction
    | "(" => some .opening
    | ")" => some .closing
    | _ => none

/-- Whether a word is an operator between two others. -/
def isBinary (word : Octets) : Bool :=
  match operator? word with
  | some (.binary _) => true
  | _ => false

/-- What the first of some words is. -/
def ofWords : List Octets → ConditionToken
  | [] => .nothing
  | word :: others =>
    match operator? word, others with
    | none, _ => .operand
    | some (.unary _), [] => .operand
    | some (.unary operator), [_] => .unary operator
    | some (.unary operator), next :: _ => if isBinary next then .operand else .unary operator
    | some .opening, [] => .operand
    | some token, _ => token

end ConditionToken

/-- A number in a condition. -/
def conditionNumber (word : Octets) : Except ConditionError Int :=
  match Octets.integer? word with
  | some value =>
    if -signedLimit ≤ value && value < signedLimit then .ok value else .error (.illegalNumber word)
  | none => .error (.illegalNumber word)

/-- Whether an operator holds of a word. -/
def holdsOf (files : Files) (operator : String) (word : Octets) : Bool :=
  match operator with
  | "-z" => word.isEmpty
  | "-n" => !word.isEmpty
  | _ =>
    match files.find? (Octets.text word) with
    | none => false
    | some .directory => ["-r", "-w", "-x", "-d", "-s", "-O", "-G", "-e"].contains operator
    | some (.file content executable) =>
      match operator with
      | "-x" => executable
      | "-s" => !content.isEmpty
      | _ => ["-r", "-w", "-f", "-O", "-G", "-e"].contains operator

/-- Whether an operator holds between two words. -/
def holdsBetween (files : Files) (left : Octets) (operator : String) (right : Octets) :
    Except ConditionError Bool := do
  match operator with
  | "=" => return left == right
  | "!=" => return left != right
  | "<" => return decide (left < right)
  | ">" => return decide (right < left)
  | "-ef" =>
    match files.locate (Octets.text left), files.locate (Octets.text right) with
    | .ok left, .ok right => return left == right
    | _, _ => return false
  | "-nt" => return files.hasPath (Octets.text left) && !files.hasPath (Octets.text right)
  | "-ot" => return !files.hasPath (Octets.text left) && files.hasPath (Octets.text right)
  | _ =>
    let left ← conditionNumber left
    let right ← conditionNumber right
    return match operator with
      | "-eq" => left == right
      | "-ne" => left != right
      | "-gt" => right < left
      | "-ge" => right ≤ left
      | "-lt" => left < right
      | _ => left ≤ right

mutual

/-- Decide parts joined by `-o`. What is given back begins with the last word that was used. -/
def anyHolds (files : Files) : (bound : Nat) → List Octets → Except ConditionError (Bool × List Octets)
  | 0, words => .ok (false, words)
  | bound + 1, words => do
    let (holds, rest) ← allHold files bound words
    match ConditionToken.ofWords rest.tail with
    | .disjunction =>
      let (others, rest) ← anyHolds files bound rest.tail.tail
      return (holds || others, rest)
    | _ => return (holds, rest)

/-- Decide parts joined by `-a`. -/
def allHold (files : Files) : (bound : Nat) → List Octets → Except ConditionError (Bool × List Octets)
  | 0, words => .ok (false, words)
  | bound + 1, words => do
    let (holds, rest) ← partHolds files bound words
    match ConditionToken.ofWords rest.tail with
    | .conjunction =>
      let (others, rest) ← allHold files bound rest.tail.tail
      return (holds && others, rest)
    | _ => return (holds, rest)

/-- Decide a part of a condition. -/
def partHolds (files : Files) : (bound : Nat) → List Octets →
    Except ConditionError (Bool × List Octets)
  | 0, words => .ok (false, words)
  | bound + 1, words => do
    match ConditionToken.ofWords words with
    | .nothing => return (false, words)
    | .negation =>
      match words.tail with
      | [] => return (true, words)
      | others =>
        let (holds, rest) ← partHolds files bound others
        return (!holds, rest)
    | .opening =>
      match ConditionToken.ofWords words.tail with
      | .closing => return (false, words.tail)
      | _ =>
        let (holds, rest) ← anyHolds files bound words.tail
        match ConditionToken.ofWords rest.tail with
        | .closing => return (holds, rest.tail)
        | _ => throw .parenthesisExpected
    | .unary operator =>
      match words.tail with
      | [] => throw (.argumentExpected operator.toList)
      | word :: others => return (holdsOf files operator word, word :: others)
    | _ =>
      match words with
      | left :: operator :: right :: others =>
        match ConditionToken.ofWords words.tail with
        | .binary _ =>
          return (← holdsBetween files left (.ofList operator) right, right :: others)
        | _ => return (!left.isEmpty, words)
      | [left, operator] =>
        match ConditionToken.ofWords words.tail with
        | .binary _ => throw (.argumentExpected operator)
        | _ => return (!left.isEmpty, words)
      | [left] => return (!left.isEmpty, words)
      | [] => return (false, words)

end

/-- A condition of three or four words without the parentheses around it, or the exclamation mark
before it, and whether there was such a mark. -/
def unwrapped (words : List Octets) : Bool × List Octets :=
  if words.length = 3 || words.length = 4 then
    if words.head? == some ['('] && words.getLast? == some [')'] then
      (false, words.tail.dropLast)
    else if words.head? == some ['!'] then (true, words.tail)
    else (false, words)
  else (false, words)

/-- Decide a condition. -/
def conditionHolds (files : Files) (words : List Octets) : Except ConditionError Bool := do
  let usual : Except ConditionError Bool := do
    let (negated, inner) := unwrapped words
    let (holds, rest) ← anyHolds files (4 * inner.length + 4) inner
    match rest with
    | last :: _ :: _ => throw (.unexpectedOperator last)
    | _ => return holds != negated
  match words with
  | [left, operator, right] =>
    if ConditionToken.isBinary operator then holdsBetween files left (.ofList operator) right
    else usual
  | _ => usual

end SchemaBindings.Program
