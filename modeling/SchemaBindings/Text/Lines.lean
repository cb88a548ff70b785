import SchemaBindings.Unicode.Classes

/-!
# Lines

A line ends at a line feed, and a carriage return directly before it belongs to the
end of the line. A text that ends with a line feed has no empty line after it, and a
carriage return at the very end of the text is an ordinary character.
-/
namespace SchemaBindings.Text

/-- A line without the carriage return at its end; the line is given in reverse. -/
def withoutReturn : List Char → List Char
  | '\r' :: before => before.reverse
  | line => line.reverse

/-- The lines of a text, of whose first line some characters have been read; these are kept in
reverse. -/
def linesFrom : (pending : List Char) → List Char → List (List Char)
  | [], [] => []
  | pending, [] => [pending.reverse]
  | pending, '\n' :: rest => withoutReturn pending :: linesFrom [] rest
  | pending, character :: rest => linesFrom (character :: pending) rest

/-- The lines of a text. -/
def lines (text : String) : List String := (linesFrom [] text.toList).map String.ofList

/-- Whether a text consists of white space. -/
def isBlankText (text : String) : Bool := text.toList.all Unicode.isBlank

/-- A text without the white space at its ends. -/
def trimmed (text : List Char) : List Char :=
  ((text.dropWhile Unicode.isBlank).reverse.dropWhile Unicode.isBlank).reverse

end SchemaBindings.Text
