import SchemaBindings.Proofs.Tables

/-!
# Keys in values

What is asked of the keys of a value is asked of every object in it, at any depth. The
objects of a value are listed once, so that a condition on keys is a condition on the
members of a list: that no key occurs twice, or that all keys are of some kind.

Renaming the keys of a value leaves everything else in it where it is.
-/
namespace SchemaBindings.Json

mutual

/-- The objects in a value, each before those inside of it. -/
def tables : Json → List Fields
  | .array items => itemsTables items
  | .object fields => fields :: fieldsTables fields
  | _ => []

/-- The objects in some items. -/
def itemsTables : List Json → List Fields
  | [] => []
  | item :: items => item.tables ++ itemsTables items

/-- The objects in the values of some fields. -/
def fieldsTables : List (String × Json) → List Fields
  | [] => []
  | (_, value) :: fields => value.tables ++ fieldsTables fields

end

/-- The objects in some items are those of the items, one after the other. -/
theorem itemsTables_eq (items : List Json) : itemsTables items = items.flatMap tables := by
  induction items with
  | nil => rfl
  | cons item items inductionHypothesis => simp [itemsTables, inductionHypothesis]

/-- The objects in some fields are those of the values, and keys have none. -/
theorem fieldsTables_eq (fields : Fields) :
    fieldsTables fields = fields.flatMap fun field => field.2.tables := by
  induction fields with
  | nil => rfl
  | cons field fields inductionHypothesis => simp [fieldsTables, inductionHypothesis]

section Conditions

variable {condition : Fields → Prop}

/-- All objects in an array are those of its items. -/
theorem forall_tables_array (items : List Json) :
    (∀ table ∈ (Json.array items).tables, condition table) ↔
      ∀ item ∈ items, ∀ table ∈ item.tables, condition table := by
  simp only [tables, itemsTables_eq, List.mem_flatMap, forall_exists_index, and_imp]
  exact forall_comm.trans (forall_congr' fun _ => forall_comm)

/-- All objects in an object are the object itself and those of its values. -/
theorem forall_tables_object (fields : Fields) :
    (∀ table ∈ (Json.object fields).tables, condition table) ↔
      condition fields ∧ ∀ field ∈ fields, ∀ table ∈ field.2.tables, condition table := by
  simp only [tables, fieldsTables_eq, List.forall_mem_cons, List.mem_flatMap,
    forall_exists_index, and_imp]
  exact and_congr_right fun _ => forall_comm.trans (forall_congr' fun _ => forall_comm)

end Conditions

/-- No object in a value has a key twice. -/
def Distinct (value : Json) : Prop := ∀ table ∈ value.tables, (Table.keys table).Nodup

instance (value : Json) : Decidable value.Distinct :=
  inferInstanceAs (Decidable (∀ table ∈ value.tables, (Table.keys table).Nodup))

/-- A value without objects has no key twice. -/
theorem distinct_of_tables_eq_nil {value : Json} (none : value.tables = []) : value.Distinct := by
  simp [Distinct, none]

/-- An array has no key twice if none of its items has; the items may well have the same keys. -/
theorem distinct_array (items : List Json) :
    (Json.array items).Distinct ↔ ∀ item ∈ items, item.Distinct :=
  forall_tables_array items

/-- An object has no key twice if this holds of its own keys and, apart from them, of each value. -/
theorem distinct_object (fields : Fields) :
    (Json.object fields).Distinct ↔
      (Table.keys fields).Nodup ∧ ∀ field ∈ fields, field.2.Distinct :=
  forall_tables_object fields

/-- Every key in a value, at any depth, is of some kind. -/
def EveryKey (good : String → Prop) (value : Json) : Prop :=
  ∀ table ∈ value.tables, ∀ key ∈ Table.keys table, good key

instance (good : String → Prop) [DecidablePred good] (value : Json) :
    Decidable (value.EveryKey good) :=
  inferInstanceAs (Decidable (∀ table ∈ value.tables, ∀ key ∈ Table.keys table, good key))

/-- All keys in an array are those in its items. -/
theorem everyKey_array (good : String → Prop) (items : List Json) :
    (Json.array items).EveryKey good ↔ ∀ item ∈ items, item.EveryKey good :=
  forall_tables_array items

/-- All keys in an object are its own and those in its values. -/
theorem everyKey_object (good : String → Prop) (fields : Fields) :
    (Json.object fields).EveryKey good ↔
      (∀ key ∈ Table.keys fields, good key) ∧ ∀ field ∈ fields, field.2.EveryKey good :=
  forall_tables_object fields

mutual

/-- The same value with every key renamed, at any depth. -/
def renamedKeys (name : String → String) : Json → Json
  | .array items => .array (itemsRenamedKeys name items)
  | .object fields => .object (fieldsRenamedKeys name fields)
  | value => value

/-- The same items with every key renamed. -/
def itemsRenamedKeys (name : String → String) : List Json → List Json
  | [] => []
  | item :: items => item.renamedKeys name :: itemsRenamedKeys name items

/-- The same fields with every key renamed, their own included. -/
def fieldsRenamedKeys (name : String → String) : List (String × Json) → List (String × Json)
  | [] => []
  | (key, value) :: fields => (name key, value.renamedKeys name) :: fieldsRenamedKeys name fields

end

/-- Items are renamed one by one, and stay in their order. -/
theorem itemsRenamedKeys_eq (name : String → String) (items : List Json) :
    itemsRenamedKeys name items = items.map (renamedKeys name) := by
  induction items with
  | nil => rfl
  | cons item items inductionHypothesis => simp [itemsRenamedKeys, inductionHypothesis]

/-- Fields are renamed by a change of all values and a change of all keys, of which neither touches
what the other one does. -/
theorem fieldsRenamedKeys_eq (name : String → String) (fields : Fields) :
    fieldsRenamedKeys name fields =
      Table.mapKeys name (Table.mapValues (renamedKeys name) fields) := by
  induction fields with
  | nil => rfl
  | cons field fields inductionHypothesis =>
    simp [fieldsRenamedKeys, inductionHypothesis, Table.mapKeys, Table.mapValues]

end SchemaBindings.Json
