import SchemaBindings.Schema.Document

/-!
# Equality of schemas

Two schemas are the same if they have the same parts. The order of tables does not
count, that of lists does; a key of the definitions that is present differs from one
that is absent.
-/
namespace SchemaBindings

/-- Whether kept keywords are the same. They are compared as objects, so their order does not count.
-/
def sameExtra (left right : Fields) : Bool := (Json.object left).same (.object right)

mutual

/-- Whether two nodes are the same. They have to be of the same kind, with the same parts; two nodes
that say the same in different words are not. -/
def Node.same : Node → Node → Bool
  | .bool left, .bool right => left == right
  | .scalar left, .scalar right => sameExtra left right
  | .reference left leftExtra, .reference right rightExtra =>
    left == right && sameExtra leftExtra rightExtra
  | .composition leftKind left leftExtra, .composition rightKind right rightExtra =>
    leftKind == rightKind && Node.sameList left right && sameExtra leftExtra rightExtra
  | .array .absent leftExtra, .array .absent rightExtra => sameExtra leftExtra rightExtra
  | .array (.single left) leftExtra, .array (.single right) rightExtra =>
    left.same right && sameExtra leftExtra rightExtra
  | .array (.tuple left) leftExtra, .array (.tuple right) rightExtra =>
    Node.sameList left right && sameExtra leftExtra rightExtra
  | .object ⟨properties, declared, required, additional, extra⟩, .object right =>
    properties.length == right.properties.length && Node.sameTable properties right.properties
      && declared == right.declared && required == right.required
      && (match additional, right.additional with
        | .absent, .absent => true
        | .allowed left, .allowed right => left == right
        | .schema left, .schema right => left.same right
        | _, _ => false)
      && sameExtra extra right.extra
  | _, _ => false

/-- Whether two lists have the same nodes in the same order. One list must not go on where the other
one ends. -/
def Node.sameList : List Node → List Node → Bool
  | [], [] => true
  | left :: lefts, right :: rights => left.same right && Node.sameList lefts rights
  | _, _ => false

/-- Whether each node of a table stands in another one under the same name. The other one may have
more, so the lengths are compared besides. -/
def Node.sameTable : Table Node → Table Node → Bool
  | [], _ => true
  | (name, left) :: lefts, rights =>
    (match rights.lookup name with
      | some right => left.same right
      | none => false) && Node.sameTable lefts rights

end

/-- Whether two schemas are the same. The key of the definitions counts, and one that is not settled
on differs from the one that it would be. -/
def Schema.same (left right : Schema) : Bool :=
  left.root.same right.root && left.definitions.length == right.definitions.length
    && Node.sameTable left.definitions right.definitions && left.writtenKey == right.writtenKey

end SchemaBindings
