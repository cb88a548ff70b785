import SchemaBindings.Rule.Replacement

/-!
# Rules of replacement

A rule is a pattern, flags and a replacement. Its flags are read from left to right:
one replaces all matches instead of the first, three change how the pattern is
matched, and three are accepted without effect, because matching is always by
Unicode and always begins at the beginning of the text. Then the pattern is
compiled, and last the replacement is turned into a template; the first fault in
this order is the one reported.
-/
namespace SchemaBindings

open SchemaBindings.Pattern

/-- What a list of flags asks for. -/
structure RuleFlags where
  everywhere : Bool := false
  matching : Pattern.Flags := {}
deriving DecidableEq, Repr

/-- Read the flags of a rule. -/
def RuleFlags.read (flags : RuleFlags) : List Char → Except RuleError RuleFlags
  | [] => .ok flags
  | 'g' :: rest => RuleFlags.read { flags with everywhere := true } rest
  | 'i' :: rest =>
    RuleFlags.read { flags with matching := { flags.matching with caseInsensitive := true } } rest
  | 'm' :: rest =>
    RuleFlags.read { flags with matching := { flags.matching with multiLine := true } } rest
  | 's' :: rest =>
    RuleFlags.read { flags with matching := { flags.matching with dotMatchesNewline := true } } rest
  | 'u' :: rest => flags.read rest
  | 'd' :: rest => flags.read rest
  | 'y' :: rest => flags.read rest
  | flag :: _ => .error (.unsupportedFlag flag)

/-- Compile a pattern with the flags of a rule. -/
def compilePattern (pattern flags : String) : Except RuleError (Regex × Bool) := do
  let flags ← RuleFlags.read {} flags.toList
  match Regex.compile pattern flags.matching with
  | .ok regex => return (regex, flags.everywhere)
  | .error fault => .error (.pattern pattern fault)

/-- A compiled rule. -/
structure Rule where
  regex : Regex
  template : List Char
  everywhere : Bool

namespace Rule

/-- Compile a rule. -/
def compile (pattern flags replacement : String) : Except RuleError Rule := do
  let (regex, everywhere) ← compilePattern pattern flags
  let template ← Replacement.toTemplate regex.groupCount (regex.groupNames.filterMap id)
    replacement.toList
  return ⟨regex, template, everywhere⟩

/-- The matches of a rule in a text that the rule replaces. -/
def matched (rule : Rule) (text : List Char) : List Match :=
  if rule.everywhere then rule.regex.program.matches text
  else (rule.regex.program.find text).toList

/-- Replace in a text what the rule matches. -/
def apply (rule : Rule) (text : String) : String :=
  let characters := text.toList
  .ofList (splice (expand rule.template rule.regex characters) 0 characters
    (rule.matched characters))

end Rule

end SchemaBindings
