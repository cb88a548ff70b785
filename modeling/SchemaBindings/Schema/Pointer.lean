import SchemaBindings.Json.Value

/-!
# Pointers into documents

A pointer names a value of a document by the steps that lead to it: keys of objects
and indices of arrays, written as tokens. In the written form every token follows a
slash; a slash inside a token is written `~1` and a tilde `~0`.

A part of a document may be read on its own. Its pointers then go on from an origin,
the text that names the part.
-/
namespace SchemaBindings

/-- The written form of a token. The two characters that have a meaning in pointers are written as
two characters each, so that every token has a form and no two have the same. -/
def escapeToken : List Char → List Char
  | [] => []
  | '~' :: rest => '~' :: '0' :: escapeToken rest
  | '/' :: rest => '~' :: '1' :: escapeToken rest
  | character :: rest => character :: escapeToken rest

/-- The token with the given written form. A tilde before any other character stands for itself, so
forms that no token is written as are read as well. -/
def unescapeToken : List Char → List Char
  | [] => []
  | '~' :: '0' :: rest => '~' :: unescapeToken rest
  | '~' :: '1' :: rest => '/' :: unescapeToken rest
  | character :: rest => character :: unescapeToken rest

/-- The steps from an origin to a value. The origin is a text that is written in front of the steps
and not itself made of tokens. -/
structure Pointer where
  origin : String := ""
  tokens : List String := []
deriving DecidableEq, Repr

namespace Pointer

/-- The pointer to a whole document, which is written as the empty text. -/
def root : Pointer := {}

/-- Go one step further. The token is any text; it is written in its escaped form only when the
pointer is. -/
def child (pointer : Pointer) (token : String) : Pointer :=
  { pointer with tokens := pointer.tokens ++ [token] }

/-- Go to an item of an array. The index is a token like any other, so a pointer does not tell an
item from a property with a number for its name. -/
def item (pointer : Pointer) (index : Nat) : Pointer := pointer.child (toString index)

/-- The written form of tokens, each of them behind a slash. An empty token leaves nothing but its
slash. -/
def tokensText : List String → List Char
  | [] => []
  | token :: tokens => '/' :: escapeToken token.toList ++ tokensText tokens

/-- The written form of a pointer. Two pointers with the same origin have the same form only if they
have the same tokens. -/
def text (pointer : Pointer) : String :=
  pointer.origin ++ String.ofList (tokensText pointer.tokens)

/-- Whether a pointer is written as the empty text, and so names a whole document. The schema below
an origin is no whole document. -/
def isRoot (pointer : Pointer) : Bool := pointer.origin.isEmpty && pointer.tokens.isEmpty

end Pointer

end SchemaBindings
