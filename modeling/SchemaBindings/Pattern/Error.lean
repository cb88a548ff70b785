import SchemaBindings.Pattern.Expression
import SchemaBindings.Text.Lines

/-!
# Faults in patterns

A fault is a cause together with the stretch of the pattern that shows it, and for
repeated names and flags the earlier stretch that it repeats. The report prints the
pattern and marks the stretches below it.

A pattern of one line is indented by four blanks. A longer one stands between two
rules, with numbered lines, and a stretch that crosses lines is described below it
instead of being marked. A pattern that is too large is faulty as a whole, and its
report shows nothing of it.
-/
namespace SchemaBindings.Pattern

/-- Why a pattern is refused. -/
inductive Fault where
  | classEscapeInvalid
  | classRangeInvalid
  | classRangeLiteral
  | classUnclosed
  | decimalEmpty
  | decimalInvalid
  | hexEmpty
  | hexInvalid
  | hexInvalidDigit
  | escapeUnexpectedEnd
  | escapeUnrecognized
  | flagDanglingNegation
  | flagDuplicate
  | flagRepeatedNegation
  | flagUnexpectedEnd
  | flagUnrecognized
  | groupNameDuplicate
  | groupNameEmpty
  | groupNameInvalid
  | groupNameUnexpectedEnd
  | groupUnclosed
  | groupUnopened
  | nestLimitExceeded (limit : Nat)
  | repetitionCountInvalid
  | repetitionCountEmpty
  | repetitionCountUnclosed
  | repetitionMissing
  | boundaryUnclosed
  | boundaryUnrecognized
  | boundaryUnexpectedEnd
  | className
  | backreference
  | lookAround
  | unicodeNotAllowed
  | invalidUtf8
  | propertyNotFound
  | propertyValueNotFound
  | tooLarge (limit : Nat)
deriving DecidableEq, Repr

/-- The text that describes a cause. -/
def Fault.message : Fault → String
  | .classEscapeInvalid => "invalid escape sequence found in character class"
  | .classRangeInvalid => "invalid character class range, the start must be <= the end"
  | .classRangeLiteral => "invalid range boundary, must be a literal"
  | .classUnclosed => "unclosed character class"
  | .decimalEmpty => "decimal literal empty"
  | .decimalInvalid => "decimal literal invalid"
  | .hexEmpty => "hexadecimal literal empty"
  | .hexInvalid => "hexadecimal literal is not a Unicode scalar value"
  | .hexInvalidDigit => "invalid hexadecimal digit"
  | .escapeUnexpectedEnd => "incomplete escape sequence, reached end of pattern prematurely"
  | .escapeUnrecognized => "unrecognized escape sequence"
  | .flagDanglingNegation => "dangling flag negation operator"
  | .flagDuplicate => "duplicate flag"
  | .flagRepeatedNegation => "flag negation operator repeated"
  | .flagUnexpectedEnd => "expected flag but got end of regex"
  | .flagUnrecognized => "unrecognized flag"
  | .groupNameDuplicate => "duplicate capture group name"
  | .groupNameEmpty => "empty capture group name"
  | .groupNameInvalid => "invalid capture group character"
  | .groupNameUnexpectedEnd => "unclosed capture group name"
  | .groupUnclosed => "unclosed group"
  | .groupUnopened => "unopened group"
  | .nestLimitExceeded limit =>
    "exceed the maximum number of nested parentheses/brackets (" ++ toString limit ++ ")"
  | .repetitionCountInvalid =>
    "invalid repetition count range, the start must be <= the end"
  | .repetitionCountEmpty => "repetition quantifier expects a valid decimal"
  | .repetitionCountUnclosed => "unclosed counted repetition"
  | .repetitionMissing => "repetition operator missing expression"
  | .boundaryUnclosed =>
    "special word boundary assertion is either unclosed or contains an invalid character"
  | .boundaryUnrecognized =>
    "unrecognized special word boundary assertion, valid choices are: start, end, start-half "
     ++ "or end-half"
  | .boundaryUnexpectedEnd =>
    "found either the beginning of a special word boundary or a bounded repetition on a \\b with "
     ++ "an opening brace, but no closing brace"
  | .className => "invalid Unicode character class"
  | .backreference => "backreferences are not supported"
  | .lookAround => "look-around, including look-ahead and look-behind, is not supported"
  | .unicodeNotAllowed => "Unicode not allowed here"
  | .invalidUtf8 => "pattern can match invalid UTF-8"
  | .propertyNotFound => "Unicode property not found"
  | .propertyValueNotFound => "Unicode property value not found"
  | .tooLarge limit =>
    "Compiled regex exceeds size limit of " ++ toString limit ++ " bytes."

/-- A fault in place. -/
structure Error where
  fault : Fault
  span : Span
  /-- The earlier stretch that the fault repeats. -/
  earlier : Option Span := none
deriving DecidableEq, Repr

/-- Order two stretches by their beginnings. -/
def sortedSpans (spans : List Span) : List Span :=
  spans.mergeSort fun left right =>
    left.start.offset < right.start.offset
      || (left.start.offset == right.start.offset && left.stop.offset ≤ right.stop.offset)

/-- Marks below a line for the given stretches; `reached` columns are already filled. An empty
stretch still gets one mark. -/
def marks (reached : Nat) : List Span → List Char
  | [] => []
  | span :: spans =>
    let start := span.start.column - 1
    let width := max 1 (span.stop.column - span.start.column)
    List.replicate (start - reached) ' ' ++ List.replicate width '^'
      ++ marks (max reached start + width) spans

/-- The lines of a pattern with the marks of the given stretches below them. -/
def notatedLines (width : Nat) (spans : List Span) : Nat → List (List Char) → List Char
  | _, [] => []
  | number, line :: lines =>
    let label :=
      if width == 0 then List.replicate 4 ' '
      else
        let digits := (toString number).toList
        List.replicate (width - digits.length) ' ' ++ digits ++ [':', ' ']
    let here := spans.filter fun span => span.start.line == number
    let below :=
      if here.isEmpty then []
      else List.replicate (if width == 0 then 4 else 2 + width) ' ' ++ marks 0 here ++ ['\n']
    label ++ line ++ ['\n'] ++ below ++ notatedLines width spans (number + 1) lines

/-- The description of a stretch that crosses lines. -/
def crossingNote (span : Span) : String :=
  "on line " ++ toString span.start.line ++ " (column " ++ toString span.start.column
    ++ ") through line " ++ toString span.stop.line ++ " (column "
    ++ toString (span.stop.column - 1) ++ ")"

/-- The report of a fault in the given pattern, which shows the place of the fault. -/
def Error.report (error : Error) (pattern : String) : String :=
  let text := pattern.toList
  let lines := Text.linesFrom [] text
  let count := lines.length + (if text.getLast? == some '\n' then 1 else 0)
  let width := if count ≤ 1 then 0 else (toString count).length
  let spans := sortedSpans (error.span :: error.earlier.toList)
  let within := spans.filter fun span => span.start.line == span.stop.line
  let crossing := spans.filter fun span => span.start.line != span.stop.line
  let notated := String.ofList (notatedLines width within 1 lines)
  if text.contains '\n' then
    let divider := String.ofList (List.replicate 79 '~') ++ "\n"
    let notes :=
      if crossing.isEmpty then "" else "\n".intercalate (crossing.map crossingNote) ++ "\n"
    "regex parse error:\n" ++ divider ++ notated ++ divider ++ notes ++ "error: "
      ++ error.fault.message
  else
    "regex parse error:\n" ++ notated ++ "error: " ++ error.fault.message

/-- The text that describes a fault in the given pattern. A pattern that is too large has no place
to show. -/
def Error.message (error : Error) (pattern : String) : String :=
  match error.fault with
  | .tooLarge _ => error.fault.message
  | _ => error.report pattern

end SchemaBindings.Pattern
