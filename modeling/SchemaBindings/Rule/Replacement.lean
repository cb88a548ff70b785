import SchemaBindings.Pattern.Template

/-!
# Replacements as authors write them

Authors write references as a dollar sign with a number of one or two digits, an
ampersand for the whole match, or a name between angle brackets. A number of two
digits counts only if there is such a group; otherwise its first digit does, under
the same condition. A dollar sign that begins no reference stands for itself, and
reading goes on right after it. The text before or after a match cannot be asked
for.

Such a replacement is turned into a template, in which every reference is in
braces, so that characters after it can never become part of it.
-/
namespace SchemaBindings

open SchemaBindings.Pattern SchemaBindings.Unicode

/-- Why a rule is refused. -/
inductive RuleError where
  | unsupportedFlag (flag : Char)
  | unsupportedReplacement (token : String)
  | pattern (source : String) (error : Pattern.Error)
deriving DecidableEq, Repr

namespace RuleError

/-- The text that describes the cause. -/
def message : RuleError → String
  | .unsupportedFlag flag => "unsupported regex flag '" ++ String.ofList [flag] ++ "'"
  | .unsupportedReplacement token => "unsupported replacement token '" ++ token ++ "'"
  | .pattern source error => error.message source

end RuleError

namespace Replacement

/-- The value of a digit. -/
def digitNumber (digit : Char) : Nat := digit.toNat - '0'.toNat

/-- A reference by number in a template. -/
def numberReference (number : Nat) : List Char := ['$', '{'] ++ (toString number).toList ++ ['}']

/-- A reference by name in a template. -/
def nameReference (name : List Char) : List Char := ['$', '{'] ++ name ++ ['}']

/-- The reference by number at the beginning of what follows a dollar sign: its number, and what
comes after it. -/
def numberAt (groups : Nat) (following : List Char) : Option (Nat × List Char) :=
  match following with
  | [] => none
  | first :: rest =>
    if isAsciiDigit first then
      let single := digitNumber first
      let shorter := if 1 ≤ single ∧ single ≤ groups then some (single, rest) else none
      match rest with
      | [] => shorter
      | second :: tail =>
        let double := single * 10 + digitNumber second
        if isAsciiDigit second ∧ 1 ≤ double ∧ double ≤ groups then some (double, tail)
        else shorter
    else none

/-- The reference by name at the beginning of what follows a dollar sign: its name, and what comes
after it. The name ends at the first closing bracket. -/
def nameAt (names : List String) (following : List Char) : Option (List Char × List Char) :=
  match following with
  | '<' :: inside =>
    let name := inside.takeWhile (· != '>')
    match inside.drop name.length with
    | [] => none
    | _ :: rest => if names.contains (.ofList name) then some (name, rest) else none
  | _ => none

/-- Turn a replacement into a template, reading at most the given number of its parts. -/
def toTemplateWithin (groups : Nat) (names : List String) :
    (bound : Nat) → List Char → Except RuleError (List Char)
  | 0, _ => .ok []
  | _ + 1, [] => .ok []
  | bound + 1, '$' :: following =>
    match following with
    | '$' :: rest => (['$', '$'] ++ ·) <$> toTemplateWithin groups names bound rest
    | '&' :: rest => (numberReference 0 ++ ·) <$> toTemplateWithin groups names bound rest
    | '\x60' :: _ => .error (.unsupportedReplacement "$`")
    | '\'' :: _ => .error (.unsupportedReplacement "$'")
    | _ =>
      match numberAt groups following with
      | some (number, rest) =>
        (numberReference number ++ ·) <$> toTemplateWithin groups names bound rest
      | none =>
        match nameAt names following with
        | some (name, rest) =>
          (nameReference name ++ ·) <$> toTemplateWithin groups names bound rest
        | none => (['$', '$'] ++ ·) <$> toTemplateWithin groups names bound following
  | bound + 1, character :: rest =>
    (character :: ·) <$> toTemplateWithin groups names bound rest

/-- Turn a replacement into a template for a pattern with the given number of groups and the given
names. -/
def toTemplate (groups : Nat) (names : List String) (replacement : List Char) :
    Except RuleError (List Char) :=
  toTemplateWithin groups names replacement.length replacement

end Replacement

end SchemaBindings
