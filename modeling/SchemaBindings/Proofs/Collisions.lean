import SchemaBindings.Proofs.Interruptions

/-!
# The first name that cannot be marked

Marking fails at the first object that has both a reserved property and a property with
its marked name, and there at the first such property. No earlier marking helps or hurts:
a marked name is not reserved, and different words have different marked names. What is
left of the schema is fully marked before that object, in the object itself up to that
property, and as it was behind it. The error names the place where the object then
stands, so that both names are found there in the document that is written.
-/
namespace SchemaBindings

namespace EscapeRule

variable (rule : EscapeRule) (reserved : ReservedWords)

/-- A reserved word stands among names together with its marked form. -/
def blocked (names : List String) (word : String) : Bool :=
  reserved.contains word && names.contains (rule.escape word)

/-- The names before the first one that is blocked. -/
def unblocked (names : List String) : List String :=
  names.takeWhile fun word => !rule.blocked reserved names word

/-- The first name that is blocked. -/
def firstBlocked (names : List String) : String :=
  (names.find? (rule.blocked reserved names)).getD ""

variable {rule reserved} {names front back : List String} {word : String}

/-- A word is in the way of itself if it is reserved and its marked form is another name of the
object. -/
theorem blocked_iff : rule.blocked reserved names word = true ↔
    reserved.contains word = true ∧ rule.escape word ∈ names := by
  simp [blocked]

/-- A name among distinct ones is not before itself. -/
theorem not_mem_front (distinct : names.Nodup) (split : names = front ++ word :: back) :
    word ∉ front := by
  rw [split] at distinct
  intro member
  exact (List.nodup_append.mp distinct).2.2 word member word List.mem_cons_self rfl

/-- What stands in front of a blocked name is before the first one, if none of it is blocked. -/
theorem unblocked_eq (split : names = front ++ word :: back)
    (free : ∀ name ∈ front, rule.blocked reserved names name = false)
    (stuck : rule.blocked reserved names word = true) :
    rule.unblocked reserved names = front ∧ rule.firstBlocked reserved names = word := by
  constructor
  · have first : names.takeWhile (fun word => !rule.blocked reserved names word) =
        (front ++ word :: back).takeWhile fun word => !rule.blocked reserved names word := by
      rw [← split]
    rw [unblocked, first, List.takeWhile_append_of_pos (by simpa using free),
      List.takeWhile_cons_of_neg (by simp [stuck]), List.append_nil]
  · have found : names.find? (rule.blocked reserved names) = some word :=
      List.find?_eq_some_iff_append.mpr ⟨stuck, front, back, split, by simpa using free⟩
    rw [firstBlocked, found, Option.getD_some]

/-- Names that cannot be marked have a first one that is blocked. -/
theorem exists_blocked (bad : ¬ rule.Markable reserved names) :
    ∃ front back, names = front ++ rule.firstBlocked reserved names :: back ∧
      rule.unblocked reserved names = front ∧
      (∀ name ∈ front, rule.blocked reserved names name = false) ∧
      rule.blocked reserved names (rule.firstBlocked reserved names) = true := by
  cases found : names.find? (rule.blocked reserved names) with
  | none =>
    refine absurd (fun word present contained taken => ?_) bad
    exact List.find?_eq_none.mp found word present (blocked_iff.mpr ⟨contained, taken⟩)
  | some word =>
    obtain ⟨stuck, front, back, split, free⟩ := List.find?_eq_some_iff_append.mp found
    have free : ∀ name ∈ front, rule.blocked reserved names name = false := by simpa using free
    obtain ⟨before, first⟩ := unblocked_eq split free stuck
    exact ⟨front, back, first ▸ split, before, free, first ▸ stuck⟩

/-- The names before the first blocked one can be marked in turn. -/
theorem admits_unblocked (distinct : names.Nodup) (split : names = front ++ back)
    (free : ∀ name ∈ front, rule.blocked reserved names name = false) :
    Admits rule.escape (front.filter reserved.contains) names := by
  have once : front.Nodup := (List.nodup_append.mp (split ▸ distinct)).1
  refine admits_of_free ?_ ?_
  · exact (once.filter reserved.contains).map fun left right => (rule.escape_inj left right).mp
  · intro name member taken
    obtain ⟨present, contained⟩ := List.mem_filter.mp member
    have stuck := blocked_iff.mpr ⟨contained, taken⟩
    rw [free name present] at stuck
    contradiction

/-- A marked name is not taken by the marking of other words. -/
theorem mem_of_mem_map_within {before : List String} (absent : word ∉ before)
    (taken : rule.escape word ∈ names.map (within before rule.escape)) :
    rule.escape word ∈ names := by
  obtain ⟨key, present, same⟩ := List.mem_map.mp taken
  by_cases changed : key ∈ before
  · rw [within_of_mem rule.escape changed, rule.escape_inj] at same
    subst same
    exact absurd changed absent
  · rw [within_of_not_mem rule.escape changed] at same
    exact same ▸ present

end EscapeRule

open EscapeRule

/-- Marking an object stops at the first name that is blocked. The reserved names before it are
marked. -/
theorem ObjectShape.escape_stops {rule : EscapeRule} {reserved : ReservedWords}
    (spares : rule.Spares reserved) :
    StopsObjects (fun pointer shape => shape.escape reserved rule pointer) (rule.marked reserved)
      (rule.Markable reserved) (·.countP reserved.contains)
      (fun names => within ((rule.unblocked reserved names).filter reserved.contains) rule.escape)
      (fun pointer names => .escapeCollision pointer
        (rule.escape (rule.firstBlocked reserved names)) (rule.firstBlocked reserved names)) := by
  refine { escape_renames spares with stops := ?_ }
  intro pointer shape count distinct bad
  have moved : ∀ name ∈ shape.names.filter reserved.contains, rule.escape name ≠ name := by
    intro name member
    exact spares.escape_ne ((reserved.contains_iff name).mp (List.mem_filter.mp member).2)
  obtain ⟨before, word, after, split, admitted, _, taken, ended⟩ :=
    renameNames_of_not_admits
      (fun name => SchemaError.escapeCollision pointer (rule.escape name) name)
      (distinct.filter reserved.contains) (List.filter_subset_self _)
      (fun admitted => bad ((spares.admits_iff distinct).mp admitted)) count
  obtain ⟨first, rest, halves, chosen, others⟩ := List.filter_eq_append_iff.mp split
  obtain ⟨plain, back, behind, unreserved, contained, _⟩ := List.filter_eq_cons_iff.mp others
  -- The word is the first reserved one after those that have been marked.
  have whole : shape.names = (first ++ plain) ++ word :: back := by
    rw [halves, behind, List.append_assoc]
  have marked : (first ++ plain).filter reserved.contains = before := by
    rw [List.filter_append, chosen, List.filter_eq_nil_iff.mpr unreserved, List.append_nil]
  have absent := not_mem_front distinct whole
  have stuck : rule.blocked reserved shape.names word = true := by
    refine blocked_iff.mpr ⟨contained, mem_of_mem_map_within (fun member => ?_) taken⟩
    rw [← marked] at member
    exact absent (List.mem_filter.mp member).1
  have free : ∀ name ∈ first ++ plain, rule.blocked reserved shape.names name = false := by
    intro name member
    by_contra met
    obtain ⟨met, taken⟩ := blocked_iff.mp (Bool.not_eq_false _ ▸ met)
    refine Admits.free ?_ admitted name (marked ▸ List.mem_filter.mpr ⟨member, met⟩) taken
    intro other listed again
    rw [← marked] at again
    exact spares.escape_not_reserved other
      ((reserved.contains_iff _).mp (List.mem_filter.mp again).2)
  obtain ⟨earlier, named⟩ := unblocked_eq whole free stuck
  rw [earlier, named, marked]
  exact (escapeNames_eq rule pointer _ moved shape count).trans ended

/-- A property whose name a renaming keeps is still there. -/
theorem ObjectShape.has_renamed_of_kept {shape : ObjectNode} {change : String → String}
    {name : String} (present : name ∈ shape.names) (kept : change name = name) :
    Table.has (shape.renamed change).properties name = true := by
  rw [Table.has_iff, ObjectShape.renamed, Table.keys_mapKeys]
  exact List.mem_map.mpr ⟨name, present, kept⟩

/-- An object in which marking has stopped at a name still has this name and its marked form. -/
theorem ObjectShape.has_of_blocked {rule : EscapeRule} {reserved : ReservedWords}
    {shape : ObjectNode} {word : String} {before after : List String}
    (spares : rule.Spares reserved) (distinct : shape.names.Nodup)
    (split : shape.names = before ++ word :: after)
    (stuck : rule.blocked reserved shape.names word = true) :
    Table.has (shape.renamed (within (before.filter reserved.contains) rule.escape)).properties
        word = true ∧
      Table.has (shape.renamed (within (before.filter reserved.contains) rule.escape)).properties
        (rule.escape word) = true := by
  constructor
  · have present : word ∈ shape.names := by
      rw [split]
      exact List.mem_append_right _ List.mem_cons_self
    refine has_renamed_of_kept present (within_of_not_mem rule.escape fun member => ?_)
    exact not_mem_front distinct split (List.mem_filter.mp member).1
  · refine has_renamed_of_kept (blocked_iff.mp stuck).2
      (within_of_not_mem rule.escape fun member => ?_)
    exact spares.escape_not_reserved word
      ((reserved.contains_iff _).mp (List.mem_filter.mp member).2)

namespace Node

variable {name : Pointer → String → String}

/-- The names of an object do not depend on the trees below it. -/
theorem names_own_refilled {node : Node} {nodes : List Node}
    (fits : nodes.length = node.children.length) :
    (node.refilled nodes).own.map ObjectShape.names = node.own.map ObjectShape.names := by
  cases node with
  | object shape =>
    obtain ⟨properties, declared, required, additional, extra⟩ := shape
    have enough : properties.length ≤ nodes.length := by
      rw [fits, children, ObjectShape.nodes, List.length_append, List.length_map]
      exact Nat.le_add_right _ _
    exact congrArg (fun keys => [keys]) (map_fst_refill enough)
  | array items extra => cases items <;> rfl
  | _ => rfl

/-- A tree has distinct keys after its objects have been renamed if the new names of each differ. -/
theorem Distinct.renamedAt {node : Node} {place : Pointer}
    (apart : ∀ placed ∈ node.objects place, (placed.2.names.map (name placed.1)).Nodup) :
    (node.renamedAt name place).Distinct := by
  induction node using child_induction generalizing place with
  | step node inductionHypothesis =>
    rw [objects_eq, List.forall_mem_append] at apart
    obtain ⟨own, below⟩ := apart
    have fits : ((node.placed place).map fun tree => tree.2.renamedAt name tree.1).length =
        (node.topRenamed (name place)).children.length := by simp
    rw [renamedAt_eq, distinct_iff, children_refilled fits]
    constructor
    · intro shape member
      have listed := List.mem_map_of_mem (f := ObjectShape.names) member
      rw [names_own_refilled fits] at listed
      cases node with
      | object present =>
        obtain same := List.mem_singleton.mp listed
        have once := own (place, present) List.mem_cons_self
        rw [← ObjectShape.names_renamed, ← same] at once
        exact once
      | _ => contradiction
    · intro child member
      obtain ⟨tree, listed, rfl⟩ := List.mem_map.mp member
      exact inductionHypothesis tree.2 (mem_children_of_mem_placed listed) fun placed present =>
        below placed (List.mem_flatMap.mpr ⟨tree, listed, present⟩)

end Node

namespace Schema

/-- The same for a schema. -/
theorem Distinct.renamedAt {schema : Schema} (distinct : schema.Distinct)
    {name : Pointer → String → String}
    (apart : ∀ placed ∈ schema.objects, (placed.2.names.map (name placed.1)).Nodup) :
    (schema.renamedAt name).Distinct := by
  rw [objects, List.forall_mem_append, Node.tableObjects_eq] at apart
  obtain ⟨root, below⟩ := apart
  refine (distinct_iff _).mpr ⟨?_, Node.Distinct.renamedAt root, ?_⟩
  · have keys : Table.keys (schema.renamedAt name).definitions = Table.keys schema.definitions := by
      simp [Schema.renamedAt, Node.tableRenamedAt_eq, Table.keys, Function.comp_def]
    rw [keys]
    exact distinct.definitions
  · intro entry member
    rw [Schema.renamedAt, Node.tableRenamedAt_eq] at member
    obtain ⟨old, present, rfl⟩ := List.mem_map.mp member
    exact Node.Distinct.renamedAt fun placed listed =>
      below placed (List.mem_flatMap.mpr ⟨_, List.mem_map_of_mem present, listed⟩)

/-- The renaming for a place, after marking has stopped at some object among those of a schema. -/
def turnAt (reserved : ReservedWords) (rule : EscapeRule) (earlier : List PlacedObject)
    (spot : Pointer) (before : List String) (place : Pointer) : String → String :=
  if place ∈ earlier.map (·.1) then rule.marked reserved
  else if place = spot then within (before.filter reserved.contains) rule.escape
  else id

/-- Every visited object of a schema with distinct keys has distinct names. -/
theorem Distinct.names {schema : Schema} (distinct : schema.Distinct) :
    ∀ placed ∈ schema.objects, placed.2.names.Nodup :=
  fun placed member => distinct.properties placed.2 (List.mem_map_of_mem member)

section Stopped

variable {schema : Schema} {reserved : ReservedWords} {rule : EscapeRule}

/-- That renaming follows the stop, as no two objects stand at the same place. -/
theorem follows_turnAt (distinct : schema.Distinct)
    (stop : Stop (rule.Markable reserved) schema.objects) :
    stop.Follows (rule.marked reserved)
      (fun names => within ((rule.unblocked reserved names).filter reserved.contains) rule.escape)
      (turnAt reserved rule stop.earlier stop.spot
        (rule.unblocked reserved stop.shape.names)) := by
  have once := nodup_pointers distinct
  rw [stop.split, List.map_append, List.map_cons, List.nodup_append] at once
  obtain ⟨_, behind, apart⟩ := once
  obtain ⟨alone, _⟩ := List.nodup_cons.mp behind
  have aside : ∀ place ∈ stop.spot :: stop.later.map (·.1), place ∉ stop.earlier.map (·.1) :=
    fun place member listed => apart place listed place member rfl
  constructor
  · intro placed member
    exact if_pos (List.mem_map_of_mem member)
  · exact (if_neg (aside _ List.mem_cons_self)).trans (if_pos rfl)
  · intro placed member
    have listed : placed.1 ∈ stop.later.map (·.1) := List.mem_map_of_mem member
    exact (if_neg (aside _ (List.mem_cons_of_mem _ listed))).trans
      (if_neg fun (same : placed.1 = stop.spot) => alone (same ▸ listed))

/-- What is left when marking stops has distinct keys. -/
theorem distinct_of_stop (distinct : schema.Distinct) (spares : rule.Spares reserved)
    (stop : Stop (rule.Markable reserved) schema.objects) :
    (schema.renamedAt (turnAt reserved rule stop.earlier stop.spot
      (rule.unblocked reserved stop.shape.names))).Distinct := by
  obtain ⟨whole, partly, none⟩ := follows_turnAt distinct stop
  obtain ⟨earlier, here, later⟩ := (stop.forall_mem_iff _).mp distinct.names
  refine Distinct.renamedAt distinct ((stop.forall_mem_iff _).mpr ⟨?_, ?_, ?_⟩)
  · intro placed member
    rw [whole placed member]
    exact (stop.good placed member).nodup_marked spares (earlier placed member)
  · obtain ⟨front, back, split, before, free, _⟩ := exists_blocked stop.bad
    have admitted := admits_unblocked here split free
    have once : front.Nodup := (List.nodup_append.mp (split ▸ here)).1
    have present : front ⊆ stop.shape.names := by
      rw [split]
      exact List.subset_append_left _ _
    rw [partly, before]
    exact admitted.nodup here (once.filter _)
      (List.Subset.trans (List.filter_subset_self _) present)
  · intro placed member
    rw [none placed member, List.map_id]
    exact later placed member

end Stopped

/-- If marking fails, it fails at the first object that has both a reserved property and a property
with its marked name, and there at the first such property. The error has the two names and a place.
In what is left, every object before that one is marked, in the object itself the reserved properties
before the one that is named are, and every object after it is as it was. The place is where the
object then stands, in the schema and in the document that is written from it, and it still has both
names. -/
theorem escape_collides {schema left : Schema} {reserved : ReservedWords} {rule : EscapeRule}
    {error : SchemaError} (distinct : schema.Distinct) (spares : rule.Spares reserved)
    (ended : schema.escape reserved rule = (left, .error error)) :
    ∃ earlier spot shape later before word after pointer,
      schema.objects = earlier ++ (spot, shape) :: later ∧
      (∀ placed ∈ earlier, ∀ name, reserved.contains name = true →
        Table.has placed.2.properties name = true →
          Table.has placed.2.properties (rule.escape name) = false) ∧
      Table.keys shape.properties = before ++ word :: after ∧
      (∀ name ∈ before, reserved.contains name = true →
        Table.has shape.properties (rule.escape name) = false) ∧
      reserved.contains word = true ∧ Table.has shape.properties (rule.escape word) = true ∧
      error = .escapeCollision pointer (rule.escape word) word ∧
      left = schema.renamedAt (turnAt reserved rule earlier spot before) ∧
      ∃ object, left.objects[earlier.length]? = some (pointer, object) ∧
        object = shape.renamed (within (before.filter reserved.contains) rule.escape) ∧
        left.WrittenAt pointer object ∧
        Table.has object.properties word = true ∧
        Table.has object.properties (rule.escape word) = true := by
  have outcome := schema.escape_renames spares distinct
  have bad : ¬ AllAcceptable (rule.Markable reserved) schema.shapes := by
    intro good
    rw [outcome.1 good] at ended
    have succeeded := congrArg Prod.snd ended
    contradiction
  have visited : schema.visit (fun pointer shape => shape.escape reserved rule pointer) 0 =
      (left, .error error) := by
    rw [escape] at ended
    split at ended
    case isTrue =>
      have succeeded := congrArg Prod.snd ended
      contradiction
    case isFalse => exact ended
  obtain ⟨stop, _, pointer, halted, listed, turned⟩ :=
    visit_halts (ObjectShape.escape_stops spares) distinct bad 0
  obtain ⟨rfl, same⟩ := Prod.mk.inj (visited.symm.trans halted)
  obtain rfl := Except.error.inj same
  obtain ⟨front, back, split, before, free, stuck⟩ := exists_blocked stop.bad
  have whole := turned _ (follows_turnAt distinct stop)
  have apart := distinct_of_stop distinct spares stop
  rw [before] at whole apart
  simp only [before] at listed
  have written := writtenAt_of_mem (whole ▸ apart) (List.mem_of_getElem? listed)
  have once := ((stop.forall_mem_iff _).mp distinct.names).2.1
  clear halted ended visited same
  generalize rule.firstBlocked reserved stop.shape.names = word at split stuck ⊢
  obtain ⟨contained, taken⟩ := blocked_iff.mp stuck
  refine ⟨stop.earlier, stop.spot, stop.shape, stop.later, front, word, back, pointer, stop.split,
    ?_, split, ?_, contained, (Table.has_iff _ _).mpr taken, rfl, whole, _, listed, rfl, written,
    ObjectShape.has_of_blocked spares once split stuck⟩
  · intro placed member name met present
    rw [Table.has_eq_false_iff]
    exact stop.good placed member name ((Table.has_iff _ _).mp present) met
  · intro name member met
    rw [Table.has_eq_false_iff]
    intro again
    have blocked : rule.blocked reserved stop.shape.names name = true :=
      blocked_iff.mpr ⟨met, again⟩
    rw [free name member] at blocked
    contradiction

/-- A schema with a reserved name on the way to the object where marking fails, and with another
object after it. -/
def collidingBelow : Schema where
  root := .object
    ⟨[("else", .object
        ⟨[("if", .scalar []), ("else", .scalar []), ("quicktype_else", .scalar [])], true,
          some ["else", "if"], .absent, []⟩)], true, some ["else"], .absent, []⟩
  definitions := [("Later", .object ⟨[("if", .scalar [])], true, none, .absent, []⟩)]
  writtenKey := none

/-- What is left when marking fails there: the error names the object by the new key on the way. -/
theorem escape_collides_at_collidingBelow :
    collidingBelow.Distinct ∧ EscapeRule.Spares {} ⟨["else", "if"]⟩ ∧
      ∃ left object, collidingBelow.escape ⟨["else", "if"]⟩ {} = (left, .error (.escapeCollision
          ⟨"", ["properties", "quicktype_else"]⟩ "quicktype_else" "else")) ∧
        left.root = .object ⟨[("quicktype_else", .object object)], true, some ["quicktype_else"],
          .absent, []⟩ ∧
        left.definitions = collidingBelow.definitions ∧
        left.WrittenAt ⟨"", ["properties", "quicktype_else"]⟩ object ∧
        object.names = ["quicktype_if", "else", "quicktype_else"] ∧
        object.required = some ["else", "quicktype_if"] := by
  have distinct : collidingBelow.Distinct := by decide
  have spares : EscapeRule.Spares {} ⟨["else", "if"]⟩ := by decide
  have ended : collidingBelow.escape ⟨["else", "if"]⟩ {} =
      ((collidingBelow.escape ⟨["else", "if"]⟩ {}).1, .error (.escapeCollision
        ⟨"", ["properties", "quicktype_else"]⟩ "quicktype_else" "else")) := rfl
  obtain ⟨_, _, _, _, _, _, _, pointer, _, _, _, _, _, _, same, _, object, listed, _, written, _⟩ :=
    escape_collides distinct spares ended
  obtain ⟨rfl, _, _⟩ := SchemaError.escapeCollision.inj same
  have objects : (collidingBelow.escape ⟨["else", "if"]⟩ {}).1.objects =
      [(.root, _), (⟨"", ["properties", "quicktype_else"]⟩, _),
        (⟨"", ["definitions", "Later"]⟩, _)] := rfl
  have present := List.mem_of_getElem? listed
  rw [objects] at present
  rcases List.mem_cons.mp present with top | present
  · have place : (⟨"", ["properties", "quicktype_else"]⟩ : Pointer) = .root :=
      congrArg Prod.fst top
    exact absurd place (by decide)
  · rcases List.mem_cons.mp present with here | later
    · obtain rfl := congrArg Prod.snd here
      exact ⟨distinct, spares, _, _, ended, rfl, rfl, written, rfl, rfl⟩
    · have place : (⟨"", ["properties", "quicktype_else"]⟩ : Pointer) =
          ⟨"", ["definitions", "Later"]⟩ :=
        congrArg Prod.fst (List.mem_singleton.mp later)
      exact absurd place (by decide)

end Schema

end SchemaBindings
