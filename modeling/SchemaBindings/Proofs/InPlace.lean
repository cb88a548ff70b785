import Mathlib.Data.List.InsertIdx
import SchemaBindings.Proofs.Succession

/-!
# Renaming a property in place

Renaming a property puts a new key in the place of an old one. A table that only knows
how to take entries out, to put them last and to move them from place to place needs three
steps for it: the property is taken out, so that all behind it move up; it is put in
under its new key, which comes last; and it is moved back to the place it had. The
places agree for a property that is first, last or the only one, and the table comes out
with one key substituted.

Nothing else of the object changes but the required entries that name the property, each
in its place. So a renaming is undone by the opposite one, unless the new name was
required before: then there are two entries for what was one name.
-/
namespace SchemaBindings

namespace Table

variable {α : Type} {table : Table α} {key : String} {index : Nat}

/-- The place of a key. -/
def indexOf? (table : Table α) (key : String) : Option Nat :=
  table.findIdx? fun entry => entry.1 == key

/-- Take out the entry at a place; those behind it move up. -/
def takeOut (table : Table α) (index : Nat) : Option ((String × α) × Table α) :=
  table[index]?.map fun entry => (entry, table.eraseIdx index)

/-- Give a key a value, and tell in which place it stands. -/
def put (table : Table α) (key : String) (value : α) : Nat × Table α :=
  ((table.indexOf? key).getD table.length, table.insert key value)

/-- Move the entry at one place to another; those in between make room. -/
def move (table : Table α) (source target : Nat) : Table α :=
  match table[source]? with
  | some entry => (table.eraseIdx source).insertIdx target entry
  | none => table

/-- A key without a place is not present. -/
theorem indexOf?_eq_none_iff : table.indexOf? key = none ↔ key ∉ keys table := by
  have asked : table.indexOf? key = none ↔ ∀ entry ∈ table, entry.1 ≠ key := by
    simp [indexOf?]
  rw [asked]
  constructor
  · intro other member
    obtain ⟨entry, present, same⟩ := List.mem_map.mp member
    exact other entry present same
  · rintro absent entry present rfl
    exact absent (List.mem_map_of_mem present)

/-- The place of a key holds an entry with that key. -/
theorem exists_of_indexOf? (found : table.indexOf? key = some index) :
    ∃ value, table[index]? = some (key, value) := by
  obtain ⟨within, same, -⟩ := List.findIdx?_eq_some_iff_getElem.mp found
  refine ⟨table[index].2, ?_⟩
  rw [List.getElem?_eq_getElem within, ← eq_of_beq same]

/-- A new key is put in the last place. -/
theorem put_of_not_mem (absent : key ∉ keys table) (value : α) :
    table.put key value = (table.length, table ++ [(key, value)]) := by
  rw [put, indexOf?_eq_none_iff.mpr absent, insert_of_not_mem absent, Option.getD_none]

/-- An entry that is taken out, put last under a new key and moved back has its key substituted. -/
theorem move_put_eraseIdx (within : index < table.length) (free : key ∉ keys table) (value : α) :
    move ((put (table.eraseIdx index) key value).2) ((put (table.eraseIdx index) key value).1)
      index = table.set index (key, value) := by
  have absent : key ∉ keys (table.eraseIdx index) := by
    intro member
    obtain ⟨entry, kept, same⟩ := List.mem_map.mp member
    exact free (List.mem_map.mpr ⟨entry, List.mem_of_mem_eraseIdx kept, same⟩)
  have back : (table.eraseIdx index ++ [(key, value)]).eraseIdx (table.eraseIdx index).length =
      table.eraseIdx index := by
    simp [List.eraseIdx_append_of_length_le]
  rw [put_of_not_mem absent, move, List.getElem?_concat_length]
  simp only [back]
  exact List.insertIdx_eraseIdx_self (Nat.ne_of_lt within) (key, value)

end Table

namespace ObjectShape

variable {α : Type} {shape : ObjectShape α} {old new : String}

/-- Rename a property by taking it out, putting it last and moving it back. The answer tells
whether the property was renamed; if not, the object stays as it is. -/
def renameBySteps (shape : ObjectShape α) (old new : String) : Bool × ObjectShape α :=
  if Table.has shape.properties new then (false, shape)
  else
    match Table.indexOf? shape.properties old with
    | none => (false, shape)
    | some index =>
      match Table.takeOut shape.properties index with
      | none => (false, shape)
      | some ((_, value), rest) =>
        let (last, grown) := Table.put rest new value
        (true, { shape with
          properties := Table.move grown last index
          required := shape.required.map (renameEntries old new) })

/-- One property has another name, in its place, and the required entries that named it have the
other name, in their places. -/
structure Substituted (old new : String) (before after : ObjectShape α) : Prop where
  /-- One key is another one; its schema, its place and all other properties are the same. -/
  properties : ∃ index value, before.properties[index]? = some (old, value) ∧
    after.properties = before.properties.set index (new, value)
  distinct : (Table.keys after.properties).Nodup
  listed : after.required.isSome = before.required.isSome
  entries : ∀ index : Nat, after.entries[index]? =
    before.entries[index]?.map fun entry => if entry = old then new else entry
  declared : after.declared = before.declared
  additional : after.additional = before.additional
  extra : after.extra = before.extra

/-- A renaming is granted exactly if there is such a property and the new name is free. -/
theorem isSome_rename?_iff :
    (shape.rename? old new).isSome = true ↔ old ∈ shape.names ∧ new ∉ shape.names := by
  rw [names, ← Table.has_iff, ← Table.has_eq_false_iff]
  cases taken : Table.has shape.properties new <;>
    cases present : Table.has shape.properties old <;> simp [rename?, taken, present]

/-- What a granted renaming gives. -/
theorem rename?_eq_some_iff {renamed : ObjectShape α} :
    shape.rename? old new = some renamed ↔ old ∈ shape.names ∧ new ∉ shape.names ∧
      renamed = { shape with
        properties := renameKey old new shape.properties
        required := shape.required.map (renameEntries old new) } := by
  rw [names, ← Table.has_iff, ← Table.has_eq_false_iff]
  cases taken : Table.has shape.properties new <;>
    cases present : Table.has shape.properties old <;>
      simp [rename?, taken, present, eq_comm]

/-- A key that is not present is not renamed. -/
theorem renameKey_of_not_mem {table : Table α} (absent : old ∉ Table.keys table) :
    renameKey old new table = table := by
  induction table with
  | nil => rfl
  | cons entry rest inductionHypothesis =>
    obtain ⟨other, later⟩ := List.ne_and_not_mem_of_not_mem_cons absent
    rw [renameKey, if_neg (Ne.symm other), inductionHypothesis later]

/-- Where keys are distinct, only the entry in the place of the old key gets the new one. -/
theorem renameKey_eq_set {table : Table α} (distinct : (Table.keys table).Nodup) {index : Nat}
    {value : α} (found : table[index]? = some (old, value)) :
    renameKey old new table = table.set index (new, value) := by
  induction table generalizing index with
  | nil => simp at found
  | cons entry rest inductionHypothesis =>
    obtain ⟨absent, others⟩ := List.nodup_cons.mp distinct
    cases index with
    | zero =>
      obtain rfl : entry = (old, value) := by simpa using found
      rw [renameKey, if_pos rfl, renameKey_of_not_mem absent, List.set_cons_zero]
    | succ index =>
      have found : rest[index]? = some (old, value) := by simpa using found
      have other : entry.1 ≠ old := by
        intro same
        exact absent (List.mem_map.mpr ⟨_, List.mem_of_getElem? found, same.symm⟩)
      rw [renameKey, if_neg other, inductionHypothesis others found, List.set_cons_succ]

/-- Renaming a key and renaming it back changes nothing, if there was no such key before. -/
theorem renameKey_renameKey {table : Table α} (free : new ∉ Table.keys table) :
    renameKey new old (renameKey old new table) = table := by
  induction table with
  | nil => rfl
  | cons entry rest inductionHypothesis =>
    obtain ⟨key, value⟩ := entry
    obtain ⟨other, later⟩ := List.ne_and_not_mem_of_not_mem_cons free
    rw [renameKey, renameKey, inductionHypothesis later]
    by_cases same : key = old
    · rw [if_pos same, if_pos rfl, same]
    · rw [if_neg same, if_neg (Ne.symm other)]

/-- The keys are renamed as required entries are. -/
theorem keys_renameKey (table : Table α) :
    Table.keys (renameKey old new table) = renameEntries old new (Table.keys table) := by
  induction table with
  | nil => rfl
  | cons entry rest inductionHypothesis =>
    rw [renameKey, Table.keys_cons, Table.keys_cons, inductionHypothesis]
    rfl

/-- Renaming entries and renaming them back changes nothing, if the new name was none of them. -/
theorem renameEntries_renameEntries {entries : List String} (free : new ∉ entries) :
    renameEntries new old (renameEntries old new entries) = entries := by
  rw [renameEntries, renameEntries, List.map_map]
  refine (List.map_congr_left fun entry member => ?_).trans (List.map_id entries)
  have other : entry ≠ new := fun same => free (same ▸ member)
  by_cases named : entry = old <;> simp [named, other]

/-- The three steps come to the renaming, and to nothing where it is refused. -/
theorem renameBySteps_eq (distinct : (Table.keys shape.properties).Nodup) :
    shape.renameBySteps old new =
      ((shape.rename? old new).isSome, (shape.rename? old new).getD shape) := by
  unfold renameBySteps
  split
  next taken =>
    rw [rename?_of_taken ((Table.has_iff _ _).mp taken)]
    rfl
  next taken =>
    have free : new ∉ shape.names := fun member => taken ((Table.has_iff _ _).mpr member)
    split
    next missing =>
      have absent : old ∉ shape.names := Table.indexOf?_eq_none_iff.mp missing
      have refused : shape.rename? old new = none := by
        rw [← Option.not_isSome_iff_eq_none, isSome_rename?_iff]
        exact fun granted => absent granted.1
      rw [refused]
      rfl
    next index place =>
      obtain ⟨value, found⟩ := Table.exists_of_indexOf? place
      obtain ⟨within, -⟩ := List.getElem?_eq_some_iff.mp found
      have present : old ∈ shape.names := List.mem_map_of_mem (List.mem_of_getElem? found)
      have granted := rename?_eq_some_iff.mpr ⟨present, free, rfl⟩
      have moved := Table.move_put_eraseIdx within free value
      simp only [Table.takeOut, found, Option.map_some, granted, Option.isSome_some,
        Option.getD_some, moved, renameKey_eq_set distinct found]

/-- A granted renaming substitutes one name. -/
theorem substituted_of_rename? {renamed : ObjectShape α}
    (distinct : (Table.keys shape.properties).Nodup)
    (granted : shape.rename? old new = some renamed) :
    Substituted old new shape renamed := by
  obtain ⟨present, free, rfl⟩ := rename?_eq_some_iff.mp granted
  obtain ⟨⟨key, value⟩, member, same⟩ := List.mem_map.mp present
  obtain rfl : key = old := same
  obtain ⟨index, found⟩ := List.mem_iff_getElem?.mp member
  have properties : renameKey key new shape.properties = shape.properties.set index (new, value) :=
    renameKey_eq_set distinct found
  refine ⟨⟨index, value, found, properties⟩, ?_, ?_, ?_, rfl, rfl, rfl⟩
  · have keys : Table.keys (shape.properties.set index (new, value)) =
        (Table.keys shape.properties).set index new := by
      simp [Table.keys, List.map_set]
    rw [properties, keys]
    exact distinct.set free
  · simp
  · intro place
    cases listed : shape.required <;> simp [entries, renameEntries, listed]

/-- A granted renaming is undone by the opposite one, if the new name was not required. -/
theorem rename?_back {renamed : ObjectShape α} (granted : shape.rename? old new = some renamed)
    (unlisted : new ∉ shape.entries) : renamed.rename? new old = some shape := by
  obtain ⟨present, free, rfl⟩ := rename?_eq_some_iff.mp granted
  have other : new ≠ old := fun same => free (same ▸ present)
  refine rename?_eq_some_iff.mpr ⟨?_, ?_, ?_⟩
  · rw [names, keys_renameKey]
    exact List.mem_map.mpr ⟨old, present, if_pos rfl⟩
  · rw [names, keys_renameKey, renameEntries, List.mem_map]
    rintro ⟨name, -, same⟩
    by_cases named : name = old <;> simp_all
  · have required : (shape.required.map (renameEntries old new)).map (renameEntries new old) =
        shape.required := by
      cases listed : shape.required with
      | none => rfl
      | some entries =>
        have unlisted : new ∉ entries := by simpa [ObjectShape.entries, listed] using unlisted
        simp [renameEntries_renameEntries unlisted]
    simp only [renameKey_renameKey free, required]

/-- Renaming a property substitutes its key or does nothing. It is granted exactly if there is such
a property and the new name is free. The three steps on the ordered table give the same answer and
the same object, which is the old one where they are refused. A granted renaming puts the new key
in the place of the old one, leaves the keys distinct and touches only the required entries that
name the property; and if the new name was not required, the opposite renaming gives the object
back. -/
theorem renameBySteps_substitutes (shape : ObjectShape α) (old new : String)
    (distinct : (Table.keys shape.properties).Nodup) :
    ((shape.rename? old new).isSome = true ↔ old ∈ shape.names ∧ new ∉ shape.names) ∧
      shape.renameBySteps old new =
        ((shape.rename? old new).isSome, (shape.rename? old new).getD shape) ∧
      ∀ renamed, shape.rename? old new = some renamed →
        Substituted old new shape renamed ∧
          (new ∉ shape.entries → renamed.rename? new old = some shape) := by
  refine ⟨isSome_rename?_iff, renameBySteps_eq distinct, fun renamed granted => ?_⟩
  exact ⟨substituted_of_rename? distinct granted, rename?_back granted⟩

/-- An object with three properties, the middle one of which is required twice. -/
def conditional : ObjectNode where
  properties := [("when", .bool true), ("then", .scalar []), ("else", .bool false)]
  declared := true
  required := some ["then", "when", "then"]
  additional := .absent
  extra := []

/-- The same object with another name in the middle. -/
def conditionalMarked : ObjectNode where
  properties := [("when", .bool true), ("esc_then", .scalar []), ("else", .bool false)]
  declared := true
  required := some ["esc_then", "when", "esc_then"]
  additional := .absent
  extra := []

/-- The middle property gets its new name in its place, in the table and in both required entries,
and the old name back. -/
theorem renameBySteps_at_conditional :
    (Table.keys conditional.properties).Nodup ∧
      conditional.renameBySteps "then" "esc_then" = (true, conditionalMarked) ∧
      Substituted "then" "esc_then" conditional conditionalMarked ∧
      conditionalMarked.rename? "esc_then" "then" = some conditional := by
  have distinct : (Table.keys conditional.properties).Nodup := by decide
  have granted : conditional.rename? "then" "esc_then" = some conditionalMarked := by
    simp [conditional, conditionalMarked, rename?, Table.has, renameKey, renameEntries,
      List.lookup_cons]
  obtain ⟨-, steps, substituted⟩ :=
    renameBySteps_substitutes conditional "then" "esc_then" distinct
  obtain ⟨changed, back⟩ := substituted conditionalMarked granted
  rw [granted] at steps
  exact ⟨distinct, steps, changed, back (by decide)⟩

end ObjectShape

end SchemaBindings
