import SchemaBindings.Rule.Basic
import SchemaBindings.Schema.Visit
import SchemaBindings.Text.Search

/-!
# Reserved words

Before a generator reads a schema, every property whose name is reserved in the
target language gets a marker in front of its name. After generation a rule of the
language takes the marker out of the text, and the same rule applied to the names
of the schema gives the names that the text now has.

Whether that can be undone is checked on the schema with the markers in it: a plain
name must not contain the marker at all, because the rule replaces text wherever it
stands, and every marked name must become one that has lost the marker, is not
reserved and differs from the other names of its object.
-/
namespace SchemaBindings

/-- The reserved words of a language, in the order of their characters and each of them once. The
order shows only in faults, where the first word that has one is named. -/
structure ReservedWords where
  words : List String
deriving DecidableEq, Repr

namespace ReservedWords

/-- Put a word in its place. A word that is present already stays alone, so a list that names it
twice gives the same words. -/
def insertWord (word : String) : List String → List String
  | [] => [word]
  | first :: rest =>
    if word = first then first :: rest
    else if word < first then word :: first :: rest
    else first :: insertWord word rest

/-- The reserved words that a list has. Words are taken as they are, with their case and with blanks
around them. -/
def ofList (words : List String) : ReservedWords := ⟨words.foldr insertWord []⟩

/-- Whether a name is reserved. It has to be one of the words as a whole. -/
def contains (reserved : ReservedWords) (name : String) : Bool := reserved.words.contains name

/-- Whether no word is reserved. Then nothing is marked, and the passes need not look at any object.
-/
def isEmpty (reserved : ReservedWords) : Bool := reserved.words.isEmpty

end ReservedWords

/-- How reserved names are marked. The marker is any text that is not empty, if it comes from
settings. -/
structure EscapeRule where
  /-- The text in front of a marked name. -/
  marker : String := "quicktype_"
deriving DecidableEq, Repr

namespace EscapeRule

/-- Mark a name. A name may be marked that has the marker already, and has it twice then. -/
def escape (rule : EscapeRule) (name : String) : String := rule.marker ++ name

/-- What follows the marker at the beginning of a name. It is nothing if the name does not begin
with it, and one marker is taken away at most. -/
def unmarked? (rule : EscapeRule) (name : String) : Option String :=
  (Text.afterStart? rule.marker.toList name.toList).map String.ofList

/-- Whether a name begins with the marker. It goes by the name alone, so a name that was never
marked may be taken for one that was. -/
def isEscaped (rule : EscapeRule) (name : String) : Bool := (rule.unmarked? name).isSome

/-- Whether a text has the marker anywhere, at its beginning or not. -/
def occursIn (rule : EscapeRule) (text : String) : Bool :=
  Text.occurs rule.marker.toList text.toList

/-- Whether a name is that of a marked reserved word. This too goes by the form of the name: it says
that marking could have given it, and not that it has. -/
def produces (rule : EscapeRule) (reserved : ReservedWords) (name : String) : Bool :=
  match rule.unmarked? name with
  | some word => reserved.contains word
  | none => false

end EscapeRule

namespace ObjectShape

variable {α : Type}

/-- Mark some properties of an object, one after the other. A name whose marked form is taken ends
this, and those before it stay marked; the number that is handed on counts what has been renamed. -/
def escapeNames (rule : EscapeRule) (pointer : Pointer) :
    List String → ObjectShape α → Nat → Visited SchemaError Nat (ObjectShape α)
  | [], shape, renamed => (shape, .ok renamed)
  | name :: names, shape, renamed =>
    match shape.rename? name (rule.escape name) with
    | some shape => escapeNames rule pointer names shape (renamed + 1)
    | none => (shape, .error (.escapeCollision pointer (rule.escape name) name))

/-- Mark the reserved properties of an object. They are collected beforehand, so that a name which
is marked is not looked at again, whatever it is then. -/
def escape (reserved : ReservedWords) (rule : EscapeRule) (pointer : Pointer)
    (shape : ObjectShape α) (renamed : Nat) : Visited SchemaError Nat (ObjectShape α) :=
  escapeNames rule pointer ((Table.keys shape.properties).filter reserved.contains) shape renamed

/-- Restore some properties of an object, one after the other. A name that the rule does not change
is passed over, since it could not be renamed to itself, and it is not counted. -/
def restoreNames (restoring : Rule) (pointer : Pointer) :
    List String → ObjectShape α → Nat → Visited SchemaError Nat (ObjectShape α)
  | [], shape, renamed => (shape, .ok renamed)
  | name :: names, shape, renamed =>
    let restored := restoring.apply name
    if restored = name then restoreNames restoring pointer names shape renamed
    else
      match shape.rename? name restored with
      | some shape => restoreNames restoring pointer names shape (renamed + 1)
      | none => (shape, .error (.escapeCollision pointer name restored))

/-- Restore the properties of an object whose names have the marker. Which names these are goes by
the marker anywhere in them, though marking puts it in front, because the rule is applied to whole
texts and may change it in any place. -/
def restore (rule : EscapeRule) (restoring : Rule) (pointer : Pointer) (shape : ObjectShape α)
    (renamed : Nat) : Visited SchemaError Nat (ObjectShape α) :=
  restoreNames restoring pointer ((Table.keys shape.properties).filter rule.occursIn) shape renamed

/-- Check what marked names of an object restore to, against the plain names and the names that
earlier ones have restored to. Of several faults of one name, the marker that is still there comes
first, then the reserved word, and then the name that is taken. -/
def checkRestored (reserved : ReservedWords) (rule : EscapeRule) (restoring : Rule)
    (pointer : Pointer) (plain : List String) :
    (seen names : List String) → Except SchemaError Unit
  | _, [] => .ok ()
  | seen, name :: names =>
    let restored := restoring.apply name
    if rule.occursIn restored then .error (.restoreIncomplete pointer name restored)
    else if reserved.contains restored then .error (.restoredReserved pointer name restored)
    else if plain.contains restored || seen.contains restored then
      .error (.escapeCollision pointer name restored)
    else checkRestored reserved rule restoring pointer plain (restored :: seen) names

/-- Check that the markers of an object can be taken away again. Plain names are those that marking
cannot have given, and none of them may have the marker, as it would be taken away too. A plain name
that looks like a marked one is not found out here. -/
def checkRoundTrip (reserved : ReservedWords) (rule : EscapeRule) (restoring : Rule)
    (pointer : Pointer) (shape : ObjectShape α) : Except SchemaError Unit :=
  let names := Table.keys shape.properties
  let plain := names.filter fun name => !rule.produces reserved name
  match plain.find? rule.occursIn with
  | some name => .error (.markerInPlainName pointer name rule.marker)
  | none =>
    checkRestored reserved rule restoring pointer plain [] (names.filter (rule.produces reserved))

end ObjectShape

namespace Schema

/-- Mark every reserved property, at any depth, and count them. Without reserved words nothing is
visited. Where an object cannot be marked, those that were visited before it stay marked. -/
def escape (reserved : ReservedWords) (rule : EscapeRule) (schema : Schema) :
    Visited SchemaError Nat Schema :=
  if reserved.isEmpty then (schema, .ok 0)
  else schema.visit (fun pointer shape => shape.escape reserved rule pointer) 0

/-- Apply a restoring rule to every property whose name has the marker, and count those that
changed. Required entries follow their properties, and references are left as they are. -/
def restore (rule : EscapeRule) (restoring : Rule) (schema : Schema) :
    Visited SchemaError Nat Schema :=
  schema.visit (fun pointer shape => shape.restore rule restoring pointer) 0

/-- Check that the markers of a schema can be taken away again. The objects are looked at in the
order of visits, and the first one with a fault is reported. Nothing but names is looked at. -/
def checkRoundTrip (reserved : ReservedWords) (rule : EscapeRule) (restoring : Rule)
    (schema : Schema) : Except SchemaError Unit :=
  schema.objects.forM fun (pointer, shape) =>
    shape.checkRoundTrip reserved rule restoring pointer

end Schema

end SchemaBindings
