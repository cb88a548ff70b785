import Mathlib.Data.List.Nodup
import SchemaBindings.Json.Value

/-!
# Keys of tables

A table is a list of keys with values. Looking for a key and listing the keys are two
views of it that agree, and giving a key a value keeps the keys distinct. A table whose
keys are renamed keeps its values and their order, and a renamed key finds what the old
key found as long as no other key of the table has come to the same name.
-/
namespace SchemaBindings.Table

variable {α β : Type}

/-- A key is present exactly if it is one of the keys. -/
@[simp] theorem has_iff (table : Table α) (key : String) :
    has table key = true ↔ key ∈ keys table := by
  simp only [has, keys, List.lookup_isSome_iff, List.mem_map, beq_iff_eq]
  constructor
  · rintro ⟨entry, member, same⟩
    exact ⟨entry, member, same.symm⟩
  · rintro ⟨entry, member, same⟩
    exact ⟨entry, member, same.symm⟩

/-- A key is absent exactly if it is none of the keys. -/
@[simp] theorem has_eq_false_iff (table : Table α) (key : String) :
    has table key = false ↔ key ∉ keys table := by
  rw [← has_iff, Bool.not_eq_true]

/-- What is found under a key stands under it. -/
theorem mem_of_lookup {table : Table α} {key : String} {value : α}
    (found : table.lookup key = some value) : (key, value) ∈ table := by
  obtain ⟨before, after, rfl, _⟩ := List.lookup_eq_some_iff.mp found
  simp

/-- With distinct keys, an entry is found exactly if it stands in the table. -/
theorem lookup_eq_some_iff_mem {table : Table α} (distinct : (keys table).Nodup) (key : String)
    (value : α) : table.lookup key = some value ↔ (key, value) ∈ table := by
  refine ⟨mem_of_lookup, fun member => ?_⟩
  induction table with
  | nil => contradiction
  | cons entry rest inductionHypothesis =>
    obtain ⟨present, old⟩ := entry
    obtain ⟨absent, others⟩ := List.nodup_cons.mp distinct
    rcases List.mem_cons.mp member with same | later
    · obtain ⟨rfl, rfl⟩ := Prod.mk.inj same
      simp
    · have other : key ≠ present := by
        rintro rfl
        exact absent (List.mem_map.mpr ⟨(key, value), later, rfl⟩)
      rw [List.lookup_cons, beq_eq_false_iff_ne.mpr other]
      exact inductionHypothesis others later

/-- What is left after a key is removed was there before. -/
theorem mem_of_mem_erase {table : Table α} {key : String} {entry : String × α}
    (member : entry ∈ erase table key) : entry ∈ table := by
  induction table with
  | nil => contradiction
  | cons first rest inductionHypothesis =>
    obtain ⟨present, value⟩ := first
    rw [erase] at member
    split at member
    · exact List.mem_cons_of_mem _ member
    · rcases List.mem_cons.mp member with same | later
      · exact List.mem_cons.mpr (.inl same)
      · exact List.mem_cons_of_mem _ (inductionHypothesis later)

/-- A key that comes first gets the new value in its place. -/
theorem insert_of_eq (rest : Table α) (key : String) (old value : α) :
    insert ((key, old) :: rest) key value = (key, value) :: rest := by
  simp [insert]

/-- Another key in front stays in front. -/
theorem insert_of_ne (rest : Table α) {present key : String} (other : present ≠ key)
    (old value : α) :
    insert ((present, old) :: rest) key value = (present, old) :: insert rest key value := by
  simp [insert, other]

/-- What stands in a table after a key gets a value is the new entry, or stood there before. -/
theorem mem_insert {table : Table α} {key : String} {value : α} {entry : String × α}
    (member : entry ∈ insert table key value) : entry = (key, value) ∨ entry ∈ table := by
  induction table with
  | nil => exact .inl (List.mem_singleton.mp member)
  | cons first rest inductionHypothesis =>
    obtain ⟨present, old⟩ := first
    by_cases same : present = key
    · subst present
      rw [insert_of_eq] at member
      exact (List.mem_cons.mp member).imp_right (List.mem_cons_of_mem _)
    · rw [insert_of_ne rest same] at member
      rcases List.mem_cons.mp member with rfl | later
      · exact .inr List.mem_cons_self
      · exact (inductionHypothesis later).imp_right (List.mem_cons_of_mem _)

/-- A key that gets a value finds it, and other keys find what they found. -/
theorem lookup_insert (table : Table α) (key : String) (value : α) (other : String) :
    (insert table key value).lookup other =
      if other = key then some value else table.lookup other := by
  induction table with
  | nil => by_cases asked : other = key <;> simp [insert, asked, List.lookup_cons, beq_false_of_ne]
  | cons entry rest inductionHypothesis =>
    obtain ⟨present, old⟩ := entry
    by_cases same : present = key
    · subst same
      by_cases asked : other = present <;>
        simp [insert_of_eq, asked, List.lookup_cons, beq_false_of_ne]
    · rw [insert_of_ne rest same, List.lookup_cons, inductionHypothesis, List.lookup_cons]
      by_cases first : other = present
      · simp [first, same]
      · simp [beq_false_of_ne first]

/-- An empty table has no keys. -/
@[simp] theorem keys_nil : keys ([] : Table α) = [] := rfl

/-- The first key is that of the first entry. -/
@[simp] theorem keys_cons (entry : String × α) (rest : Table α) :
    keys (entry :: rest) = entry.1 :: keys rest := rfl

/-- The keys of two tables, one after the other, are those of both. -/
@[simp] theorem keys_append (first second : Table α) :
    keys (first ++ second) = keys first ++ keys second := by
  simp [keys]

/-- A key that is not present gets its value in a new place at the end. -/
theorem insert_of_not_mem {table : Table α} {key : String} (absent : key ∉ keys table) (value : α) :
    insert table key value = table ++ [(key, value)] := by
  induction table with
  | nil => rfl
  | cons entry rest inductionHypothesis =>
    obtain ⟨present, old⟩ := entry
    obtain ⟨other, later⟩ := List.ne_and_not_mem_of_not_mem_cons absent
    rw [insert_of_ne rest (Ne.symm other), inductionHypothesis later, List.cons_append]

/-- Removing a key that is not present removes nothing. -/
theorem erase_of_not_mem {table : Table α} {key : String} (absent : key ∉ keys table) :
    erase table key = table := by
  induction table with
  | nil => rfl
  | cons entry rest inductionHypothesis =>
    obtain ⟨present, value⟩ := entry
    obtain ⟨other, later⟩ := List.ne_and_not_mem_of_not_mem_cons absent
    simp [erase, Ne.symm other, inductionHypothesis later]

/-- A key that is not among the first entries is removed from the others. -/
theorem erase_append {first : Table α} {key : String} (absent : key ∉ keys first)
    (second : Table α) : erase (first ++ second) key = first ++ erase second key := by
  induction first with
  | nil => rfl
  | cons entry rest inductionHypothesis =>
    obtain ⟨present, value⟩ := entry
    obtain ⟨other, later⟩ := List.ne_and_not_mem_of_not_mem_cons absent
    simp [erase, Ne.symm other, inductionHypothesis later]

/-- Where keys are distinct, removing a key leaves the entries with other keys. -/
theorem erase_eq_filter {table : Table α} (distinct : (keys table).Nodup) (key : String) :
    erase table key = table.filter fun entry => entry.1 ≠ key := by
  induction table with
  | nil => rfl
  | cons entry rest inductionHypothesis =>
    obtain ⟨present, value⟩ := entry
    obtain ⟨absent, others⟩ := List.nodup_cons.mp distinct
    by_cases same : present = key
    · subst present
      have kept : rest.filter (fun entry => entry.1 ≠ key) = rest := by
        refine List.filter_eq_self.mpr fun entry member => ?_
        have other : entry.1 ≠ key := fun met =>
          absent (List.mem_map.mpr ⟨entry, member, met⟩)
        simpa using other
      rw [List.filter_cons_of_neg (by simp), kept]
      simp [erase]
    · rw [List.filter_cons_of_pos (by simpa using same), ← inductionHypothesis others]
      simp [erase, same]

/-- Where keys are distinct, removing some keys one after another leaves the entries with other
keys. -/
theorem foldl_erase_eq_filter {table : Table α} (distinct : (keys table).Nodup)
    (names : List String) :
    names.foldl erase table = table.filter fun entry => !names.contains entry.1 := by
  induction names generalizing table with
  | nil => simp
  | cons name names inductionHypothesis =>
    have kept : (keys (table.filter fun entry => entry.1 ≠ name)).Nodup :=
      List.Nodup.sublist (List.Sublist.map _ List.filter_sublist) distinct
    rw [List.foldl_cons, erase_eq_filter distinct, inductionHypothesis kept, List.filter_filter]
    refine List.filter_congr fun entry _ => ?_
    simp [Bool.and_comm]

/-- Removing a key does not change what other keys find. -/
theorem lookup_erase_of_ne {key other : String} (different : other ≠ key) (table : Table α) :
    (erase table key).lookup other = table.lookup other := by
  induction table with
  | nil => rfl
  | cons entry rest inductionHypothesis =>
    obtain ⟨present, value⟩ := entry
    by_cases same : present = key
    · subst present
      simp [erase, List.lookup_cons, beq_eq_false_iff_ne.mpr different]
    · simp only [erase, beq_iff_eq, same, if_false, List.lookup_cons, inductionHypothesis]

/-- Removing a key that has been given a value removes what stood under it before. -/
theorem erase_insert (table : Table α) (key : String) (value : α) :
    erase (insert table key value) key = erase table key := by
  induction table with
  | nil => simp [insert, erase]
  | cons entry rest inductionHypothesis =>
    obtain ⟨present, old⟩ := entry
    by_cases same : present = key
    · subst same
      rw [insert_of_eq]
      simp [erase]
    · rw [insert_of_ne rest same]
      simp [erase, same, inductionHypothesis]

/-- A key that finds nothing is not present. -/
theorem lookup_eq_none_iff_not_mem (table : Table α) (key : String) :
    table.lookup key = none ↔ key ∉ keys table := by
  rw [← has_eq_false_iff, has, Option.isSome_eq_false_iff, Option.isNone_iff_eq_none]

/-- Giving a key a value keeps the keys distinct. -/
theorem nodup_keys_insert {table : Table α} (distinct : (keys table).Nodup) (key : String)
    (value : α) : (keys (insert table key value)).Nodup := by
  induction table with
  | nil => exact List.nodup_singleton key
  | cons entry rest inductionHypothesis =>
    obtain ⟨present, old⟩ := entry
    obtain ⟨absent, others⟩ := List.nodup_cons.mp distinct
    by_cases same : present = key
    · subst present
      rw [insert_of_eq]
      exact List.nodup_cons.mpr ⟨absent, others⟩
    · rw [insert_of_ne rest same]
      refine List.nodup_cons.mpr ⟨fun listed => ?_, inductionHypothesis others⟩
      obtain ⟨found, member, named⟩ := List.mem_map.mp listed
      rcases mem_insert member with rfl | earlier
      · exact same named.symm
      · exact absent (List.mem_map.mpr ⟨found, earlier, named⟩)

/-- A table of pairs has distinct keys, and its entries are some of the pairs. -/
theorem ofPairs_spec (pairs : List (String × α)) :
    (keys (ofPairs pairs)).Nodup ∧ ∀ entry ∈ ofPairs pairs, entry ∈ pairs := by
  have grown (table : Table α) (distinct : (keys table).Nodup) :
      (keys (pairs.foldl (fun table pair => insert table pair.1 pair.2) table)).Nodup ∧
        ∀ entry ∈ pairs.foldl (fun table pair => insert table pair.1 pair.2) table,
          entry ∈ table ∨ entry ∈ pairs := by
    induction pairs generalizing table with
    | nil => exact ⟨distinct, fun entry member => .inl member⟩
    | cons pair pairs inductionHypothesis =>
      obtain ⟨once, origin⟩ := inductionHypothesis (insert table pair.1 pair.2)
        (nodup_keys_insert distinct pair.1 pair.2)
      refine ⟨once, fun entry member => ?_⟩
      rcases origin entry member with inserted | later
      · rcases mem_insert inserted with rfl | earlier
        · exact .inr List.mem_cons_self
        · exact .inl earlier
      · exact .inr (List.mem_cons_of_mem _ later)
  obtain ⟨once, origin⟩ := grown [] List.nodup_nil
  exact ⟨once, fun entry member => (origin entry member).resolve_left List.not_mem_nil⟩

/-- The same table with new keys. -/
def mapKeys (name : String → String) (table : Table α) : Table α :=
  table.map fun entry => (name entry.1, entry.2)

/-- The same table with new values. -/
def mapValues (change : α → β) (table : Table α) : Table β :=
  table.map fun entry => (entry.1, change entry.2)

/-- A change of all keys changes the list of keys, one by one. -/
@[simp] theorem keys_mapKeys (name : String → String) (table : Table α) :
    keys (mapKeys name table) = (keys table).map name := by
  simp [keys, mapKeys]

/-- A change of all values changes no key. -/
@[simp] theorem keys_mapValues (change : α → β) (table : Table α) :
    keys (mapValues change table) = keys table := by
  simp [keys, mapValues, Function.comp_def]

/-- New values do not change which keys are present. -/
@[simp] theorem has_mapValues (change : α → β) (table : Table α) (key : String) :
    has (mapValues change table) key = has table key := by
  rw [Bool.eq_iff_iff, has_iff, has_iff, keys_mapValues]

/-- What is found under a key is changed with the values. -/
@[simp] theorem lookup_mapValues (change : α → β) (table : Table α) (key : String) :
    (mapValues change table).lookup key = (table.lookup key).map change := by
  induction table with
  | nil => rfl
  | cons entry rest inductionHypothesis =>
    obtain ⟨present, value⟩ := entry
    simp only [mapValues, List.map_cons, List.lookup_cons] at inductionHypothesis ⊢
    split <;> simp_all

/-- A renamed key finds what the key found, if the table has no other key that comes to the same
name. -/
theorem lookup_mapKeys (name : String → String) (table : Table α) (key : String)
    (apart : ∀ other ∈ keys table, name other = name key → other = key) :
    (mapKeys name table).lookup (name key) = table.lookup key := by
  induction table with
  | nil => rfl
  | cons entry rest inductionHypothesis =>
    obtain ⟨present, value⟩ := entry
    have below := inductionHypothesis fun other member =>
      apart other (List.mem_cons_of_mem present member)
    simp only [mapKeys, List.map_cons, List.lookup_cons] at below ⊢
    by_cases same : key = present
    · simp [same]
    · have different : name key ≠ name present := by
        intro met
        exact same (apart present List.mem_cons_self met.symm).symm
      simp [beq_eq_false_iff_ne.mpr same, beq_eq_false_iff_ne.mpr different, below]

/-- A renamed key is present exactly if the key was, under the same condition. -/
theorem has_mapKeys (name : String → String) (table : Table α) (key : String)
    (apart : ∀ other ∈ keys table, name other = name key → other = key) :
    has (mapKeys name table) (name key) = has table key := by
  simp only [has, lookup_mapKeys name table key apart]

end SchemaBindings.Table
