import SchemaBindings.Proofs.Markers
import SchemaBindings.Proofs.Passes
import SchemaBindings.Proofs.Succession

/-!
# What marking does to a schema

Marking renames the reserved properties of every object, one after the other. Where no
reserved word begins with the marker, a marked name is never reserved, so that no
renaming stands in the way of another. Marking then succeeds exactly if no object has
both a reserved property and a property with its marked name, and it changes nothing
but the reserved properties and the required entries that name them.
-/
namespace SchemaBindings

/-- A name is reserved if it is one of the words. -/
@[simp] theorem ReservedWords.contains_iff (reserved : ReservedWords) (name : String) :
    reserved.contains name = true ↔ name ∈ reserved.words := by
  simp [contains]

namespace EscapeRule

variable (rule : EscapeRule) (reserved : ReservedWords)

/-- No reserved word begins with the marker. Settings are refused otherwise. -/
def Spares : Prop := ∀ word ∈ reserved.words, rule.isEscaped word = false

instance : Decidable (rule.Spares reserved) :=
  inferInstanceAs (Decidable (∀ word ∈ reserved.words, rule.isEscaped word = false))

/-- The name that marking gives to a property: a reserved name is marked, any other stays. -/
def marked (name : String) : String :=
  if reserved.contains name then rule.escape name else name

/-- The names of an object can be marked: none of them is the marked form of a reserved one. -/
def Markable (names : List String) : Prop :=
  ∀ word ∈ names, reserved.contains word = true → rule.escape word ∉ names

variable {rule reserved}

/-- A marked name is not reserved. -/
theorem Spares.escape_not_reserved (spares : rule.Spares reserved) (name : String) :
    rule.escape name ∉ reserved.words := by
  intro member
  have free := spares _ member
  rw [rule.isEscaped_escape] at free
  contradiction

/-- A reserved word is not its own marked form. -/
theorem Spares.escape_ne (spares : rule.Spares reserved) {word : String}
    (member : word ∈ reserved.words) : rule.escape word ≠ word := by
  intro same
  refine spares.escape_not_reserved word ?_
  rwa [same]

/-- Marking the reserved names of an object in turn is admitted exactly if they can be marked. -/
theorem Spares.admits_iff (spares : rule.Spares reserved) {names : List String}
    (distinct : names.Nodup) :
    Admits rule.escape (names.filter reserved.contains) names ↔ rule.Markable reserved names := by
  constructor
  · intro admitted word present contained
    refine admitted.free ?_ word (List.mem_filter.mpr ⟨present, contained⟩)
    intro name _ met
    exact spares.escape_not_reserved name
      ((reserved.contains_iff _).mp (List.mem_filter.mp met).2)
  · intro markable
    refine admits_of_free ?_ ?_
    · exact (distinct.filter reserved.contains).map fun left right => (rule.escape_inj left right).mp
    · intro word member
      obtain ⟨present, contained⟩ := List.mem_filter.mp member
      exact markable word present contained

/-- Marking keeps the names of an object distinct. -/
theorem Markable.nodup_marked {names : List String} (markable : rule.Markable reserved names)
    (spares : rule.Spares reserved) (distinct : names.Nodup) :
    (names.map (rule.marked reserved)).Nodup :=
  ((spares.admits_iff distinct).mpr markable).nodup_filter reserved.contains distinct

/-- No name is reserved after marking. -/
theorem Spares.marked_not_reserved (spares : rule.Spares reserved) (name : String) :
    reserved.contains (rule.marked reserved name) = false := by
  rw [marked]
  split
  case isTrue =>
    have free := spares.escape_not_reserved name
    rwa [← ReservedWords.contains_iff, Bool.not_eq_true] at free
  case isFalse plain => rwa [Bool.not_eq_true] at plain

end EscapeRule

/-- Marking an object marks its reserved names at once, if they can be marked. -/
theorem ObjectShape.escape_renames {rule : EscapeRule} {reserved : ReservedWords}
    (spares : rule.Spares reserved) :
    RenamesObjects (fun pointer shape => shape.escape reserved rule pointer)
      (rule.marked reserved) (rule.Markable reserved) (·.countP reserved.contains) := by
  have turns : RenamesObjects (fun pointer shape => shape.escape reserved rule pointer)
      (rule.marked reserved) _ _ :=
    RenamesObjects.of_turns reserved.contains rule.escape
      (fun pointer name => .escapeCollision pointer (rule.escape name) name) (by
        intro pointer shape count
        refine escapeNames_eq rule pointer _ (fun name member => ?_) shape count
        exact spares.escape_ne ((reserved.contains_iff name).mp (List.mem_filter.mp member).2))
  have counted (names : List String) :
      (names.filter reserved.contains).countP (fun name => rule.escape name ≠ name) =
        names.countP reserved.contains := by
    rw [List.countP_eq_length_filter (p := reserved.contains), List.countP_eq_length]
    intro name member
    have contained := (List.mem_filter.mp member).2
    simpa using spares.escape_ne ((reserved.contains_iff name).mp contained)
  constructor
  · intro pointer shape count distinct markable
    rw [← counted]
    exact turns.succeeds pointer shape count distinct ((spares.admits_iff distinct).mpr markable)
  · intro pointer shape count distinct unmarkable
    exact turns.fails pointer shape count distinct fun admitted =>
      unmarkable ((spares.admits_iff distinct).mp admitted)

namespace Schema

/-- The number of reserved properties of a schema, in all its objects. -/
def reservedCount (schema : Schema) (reserved : ReservedWords) : Nat :=
  (schema.objects.map fun placed => (Table.keys placed.2.properties).countP reserved.contains).sum

variable {rule : EscapeRule} {reserved : ReservedWords}

/-- Marking a schema marks its reserved properties at once, if those of every object can be
marked, and fails otherwise. -/
theorem escape_renames (spares : rule.Spares reserved) (schema : Schema)
    (distinct : schema.Distinct) :
    Renames (rule.Markable reserved) (·.countP reserved.contains) schema.shapes 0
      (schema.renamed (rule.marked reserved)) (schema.escape reserved rule) := by
  have visited := schema.visit_renames (ObjectShape.escape_renames spares) distinct 0
  rw [escape]
  split
  case isTrue none =>
    have absent (name : String) : reserved.contains name = false := by
      have empty : reserved.words = [] := by simpa [ReservedWords.isEmpty] using none
      simp [ReservedWords.contains, empty]
    have unchanged : schema.renamed (rule.marked reserved) = schema :=
      renamed_of_unchanged fun _ _ name _ => by simp [EscapeRule.marked, absent]
    have weightless : tally (·.countP reserved.contains) schema.shapes = 0 := by
      simp [tally, absent, List.countP_eq_zero.mpr]
    constructor
    · intro _
      rw [unchanged, weightless]
    · intro unmarkable
      refine absurd (fun shape _ word _ contained => ?_) unmarkable
      rw [absent] at contained
      contradiction
  case isFalse => exact visited

/-- Marking a schema of distinct keys succeeds only by marking its names at once, all of which can
be marked. -/
theorem escape_ok {schema escaped : Schema} {count : Nat} (spares : rule.Spares reserved)
    (distinct : schema.Distinct) (ended : schema.escape reserved rule = (escaped, .ok count)) :
    AllAcceptable (rule.Markable reserved) schema.shapes ∧
      escaped = schema.renamed (rule.marked reserved) := by
  have outcome := schema.escape_renames spares distinct
  rw [ended] at outcome
  exact outcome.of_ok

/-- A schema has distinct keys after a successful marking. -/
theorem Distinct.escaped {schema escaped : Schema} {count : Nat} (distinct : schema.Distinct)
    (spares : rule.Spares reserved)
    (ended : schema.escape reserved rule = (escaped, .ok count)) : escaped.Distinct := by
  obtain ⟨markable, rfl⟩ := escape_ok spares distinct ended
  exact distinct.renamed fun shape member =>
    (markable shape member).nodup_marked spares (distinct.properties shape member)

/-- After a successful marking no object of a schema has a reserved name. -/
theorem escaped_not_reserved {schema escaped : Schema} {count : Nat}
    (spares : rule.Spares reserved) (distinct : schema.Distinct)
    (ended : schema.escape reserved rule = (escaped, .ok count)) :
    ∀ shape ∈ escaped.shapes, ∀ name ∈ shape.names, reserved.contains name = false := by
  obtain ⟨_, rfl⟩ := escape_ok spares distinct ended
  intro shape member name listed
  rw [shapes_renamed] at member
  obtain ⟨before, _, rfl⟩ := List.mem_map.mp member
  rw [Node.names_renamedObject] at listed
  obtain ⟨old, _, rfl⟩ := List.mem_map.mp listed
  exact spares.marked_not_reserved old

/-- Marking leaves a schema as it is when none of its names is reserved. -/
theorem escape_of_unreserved {schema : Schema} (spares : rule.Spares reserved)
    (distinct : schema.Distinct)
    (unreserved : ∀ shape ∈ schema.shapes, ∀ name ∈ shape.names, reserved.contains name = false) :
    schema.escape reserved rule = (schema, .ok 0) := by
  have markable : AllAcceptable (rule.Markable reserved) schema.shapes := by
    intro shape member word present contained
    rw [unreserved shape member word present] at contained
    contradiction
  have unchanged : schema.renamed (rule.marked reserved) = schema :=
    renamed_of_unchanged fun shape member name present => by
      simp [EscapeRule.marked, unreserved shape member name present]
  have none : tally (·.countP reserved.contains) schema.shapes = 0 := by
    refine List.sum_eq_zero_iff_forall_eq_nat.mpr fun count listed => ?_
    obtain ⟨shape, member, rfl⟩ := List.mem_map.mp listed
    exact List.countP_eq_zero.mpr fun name present => by simp [unreserved shape member name present]
  rw [(schema.escape_renames spares distinct).1 markable, unchanged, none]

/-- Marking succeeds exactly if no object of the schema has both a reserved property and a property
with its marked name. When it succeeds, every reserved key of every object is marked, at its place
and over the same tree, every required entry that names a reserved property of its object is marked
at its place, all else is as it was, and the count is the number of reserved properties that the
schema had. The marker need not be asked to have a character: under an empty one every word begins
with it, so that no word is spared. -/
theorem escape_exact (rule : EscapeRule) (reserved : ReservedWords) (schema : Schema)
    (distinct : schema.Distinct) (spares : rule.Spares reserved) :
    ((∃ count, (schema.escape reserved rule).2 = .ok count) ↔
      ∀ placed ∈ schema.objects, ¬ ∃ word, reserved.contains word = true ∧
        Table.has placed.2.properties word = true ∧
        Table.has placed.2.properties (rule.escape word) = true) ∧
    ∀ count, (schema.escape reserved rule).2 = .ok count →
      (schema.escape reserved rule).1 = schema.renamed (rule.marked reserved) ∧
        count = schema.reservedCount reserved := by
  have outcome := schema.escape_renames spares distinct
  have condition : AllAcceptable (rule.Markable reserved) schema.shapes ↔
      ∀ placed ∈ schema.objects, ¬ ∃ word, reserved.contains word = true ∧
        Table.has placed.2.properties word = true ∧
        Table.has placed.2.properties (rule.escape word) = true := by
    simp only [AllAcceptable, shapes, List.mem_map, forall_exists_index, and_imp,
      forall_apply_eq_imp_iff₂, Table.has_iff]
    constructor
    · rintro markable placed member ⟨word, contained, present, taken⟩
      exact markable placed member word present contained taken
    · intro apart placed member word present contained taken
      exact apart placed member ⟨word, contained, present, taken⟩
  have counted : tally (·.countP reserved.contains) schema.shapes =
      schema.reservedCount reserved := by
    simp [tally, reservedCount, shapes, ObjectShape.names, Function.comp_def]
  rw [← condition]
  by_cases markable : AllAcceptable (rule.Markable reserved) schema.shapes
  · rw [outcome.1 markable, counted, Nat.zero_add]
    refine ⟨⟨fun _ => markable, fun _ => ⟨_, rfl⟩⟩, ?_⟩
    intro count ended
    exact ⟨rfl, (Except.ok.inj ended).symm⟩
  · obtain ⟨left, error, failed⟩ := outcome.2 markable
    rw [failed]
    refine ⟨⟨?_, fun allowed => absurd allowed markable⟩, ?_⟩
    · rintro ⟨count, ended⟩
      contradiction
    · intro count ended
      contradiction

/-- A schema with reserved names in a property, in an item, and in what is allowed beyond the
properties. -/
def nestedObjects : Schema where
  root := .reference "#/definitions/Cond" []
  definitions :=
    [("Cond", .object {
      properties :=
        [("when", .scalar []),
         ("else", .array (.single
            (.object ⟨[("class", .bool true)], true, some ["class"], .absent, []⟩)) [])]
      declared := true
      required := some ["when", "else"]
      additional := .schema
        (.object ⟨[("name", .scalar []), ("return", .scalar [])], true, none, .absent, []⟩)
      extra := [] })]
  writtenKey := some .definitions

/-- Each of the three objects has one reserved name, and one of them requires it. All three names
are marked, and three is the count. -/
theorem escape_exact_at_nested_objects :
    nestedObjects.Distinct ∧ EscapeRule.Spares ⟨"esc_"⟩ ⟨["class", "else", "return"]⟩ ∧
      nestedObjects.escape ⟨["class", "else", "return"]⟩ ⟨"esc_"⟩ =
        (nestedObjects.renamed (EscapeRule.marked ⟨"esc_"⟩ ⟨["class", "else", "return"]⟩),
          .ok 3) := by
  have distinct : nestedObjects.Distinct := by decide
  have spares : EscapeRule.Spares ⟨"esc_"⟩ ⟨["class", "else", "return"]⟩ := by decide
  have ended : (nestedObjects.escape ⟨["class", "else", "return"]⟩ ⟨"esc_"⟩).2 = .ok 3 := by decide
  have effect := (escape_exact _ _ nestedObjects distinct spares).2 3 ended
  exact ⟨distinct, spares, Prod.ext effect.1 ended⟩

end Schema

end SchemaBindings
