/-!
# Texts inside of texts
-/
namespace SchemaBindings.Text

/-- What follows a beginning of a text, if the text has that beginning. -/
def afterStart? : (start text : List Char) → Option (List Char)
  | [], text => some text
  | _ :: _, [] => none
  | expected :: start, character :: text =>
    if expected = character then afterStart? start text else none

/-- Whether a text begins with another. -/
def startsWith (start text : List Char) : Bool := (afterStart? start text).isSome

/-- Whether a text occurs in another. The empty text occurs everywhere. -/
def occurs (part : List Char) : List Char → Bool
  | [] => part.isEmpty
  | character :: rest => startsWith part (character :: rest) || occurs part rest

/-- Replace the first occurrence of a part of a text. -/
def replaceFirst (part replacement : List Char) : List Char → List Char
  | [] => if part.isEmpty then replacement else []
  | character :: rest =>
    match afterStart? part (character :: rest) with
    | some following => replacement ++ following
    | none => character :: replaceFirst part replacement rest

end SchemaBindings.Text
