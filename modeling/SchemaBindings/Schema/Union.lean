import SchemaBindings.Schema.Document
import SchemaBindings.Text.Lines
import SchemaBindings.Text.Search

/-!
# Unions

A generator that has no notion of unions turns a union of definitions into types that
have nothing to do with one another. An alias with the names of all members, written
after the generated text, lets a reader of the text name the union again.
-/
namespace SchemaBindings

/-- What follows the key of a table of definitions in the target of a reference. The target has to
begin with it; other documents and other places are not looked for. -/
def afterDefinitionsKey (key : DefinitionsKey) (target : List Char) : Option (List Char) :=
  Text.afterStart? (['#', '/'] ++ key.text.toList ++ ['/']) target

/-- The definition that a reference names. A reference that goes deeper names none, and neither does
one to the table itself. The key need not be the one that the schema has. -/
def definitionName (target : String) : Option String :=
  let token :=
    match afterDefinitionsKey .definitions target.toList with
    | some token => some token
    | none => afterDefinitionsKey .defs target.toList
  match token with
  | some token =>
    if token.isEmpty || token.contains '/' then none else some (.ofList (unescapeToken token))
  | none => none

/-- The definitions that branches name, in their order and as often as they are named. A branch that
is no reference names none, and it is no fault that it does not. -/
def memberNames : List Node → List String
  | [] => []
  | .reference target _ :: branches =>
    match definitionName target with
    | some name => name :: memberNames branches
    | none => memberNames branches
  | _ :: branches => memberNames branches

namespace Schema

/-- The node that a top-level type stands for: the definition of that name, or the top level if
there is none. References are not followed, so a definition that is only a reference is no union. -/
def topLevelNode (schema : Schema) (topLevel : String) : Node :=
  (schema.definitions.lookup topLevel).getD schema.root

/-- The members of the union that a top-level type is, in the order of its branches. An intersection
has none, and nor has any other node. -/
def unionMembers (schema : Schema) (topLevel : String) : List String :=
  match schema.topLevelNode topLevel with
  | .composition kind branches _ => if kind.isUnion then memberNames branches else []
  | _ => []

end Schema

/-- How the alias of a union is written. The template is the text of a declaration with a place for
the members, in the language of the generated text. -/
structure UnionAlias where
  enabled : Bool
  template : String
  separator : String
deriving DecidableEq, Repr

namespace UnionAlias

/-- The place in a template where the members go. Only the first one counts; another one is written
as it is. -/
def memberMark : List Char := ['$', '1']

/-- The lines of an alias of some members. The names are put in as they are, even if one of them has
the mark for the members in it; a template with several lines gives as many. -/
def write (union : UnionAlias) (members : List String) : List String :=
  Text.lines (.ofList (Text.replaceFirst memberMark
    (union.separator.intercalate members).toList union.template.toList))

/-- The lines that name the union of a schema again. There are none if the alias is not wanted or
the union has no members, and then nothing is written for it, not even an empty line. -/
def lines (union : UnionAlias) (schema : Schema) (topLevel : String) : List String :=
  let members := schema.unionMembers topLevel
  if !union.enabled || members.isEmpty then [] else union.write members

end UnionAlias

end SchemaBindings
