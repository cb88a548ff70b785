import SchemaBindings.Proofs.Renaming
import SchemaBindings.Schema.Reserved

/-!
# Renaming properties one after the other

A pass over one object takes a list of names and renames them in turn, each to its
target. While it does so the names of the object change: a target may be the name of
another property, or the name that an earlier property has just given up. `Admits`
says that no renaming in the succession is refused. Then the succession comes to the
renaming of all the names at once, and distinct names stay distinct.

Where the targets are none of the names to be renamed, the order does not matter, and
the succession is admitted exactly if every target is free at the beginning.
-/
namespace SchemaBindings

/-- The new name of a key, when only the given names get their targets. -/
def within (names : List String) (target : String → String) (key : String) : String :=
  if key ∈ names then target key else key

/-- Every name in turn keeps itself or gets a target that is not taken at that time. -/
def Admits (target : String → String) : (names keys : List String) → Prop
  | [], _ => True
  | name :: names, keys =>
    (target name = name ∨ target name ∉ keys) ∧
      Admits target names (keys.map (within [name] target))

section Names

variable {target : String → String} {names keys : List String} {name key : String}

/-- One of the names gets its target. -/
theorem within_of_mem (target : String → String) (member : key ∈ names) :
    within names target key = target key := if_pos member

/-- Any other name stays. -/
theorem within_of_not_mem (target : String → String) (absent : key ∉ names) :
    within names target key = key := if_neg absent

/-- Without names, nothing is renamed. -/
@[simp] theorem within_nil (target : String → String) : within [] target = id := by
  funext key
  simp [within]

/-- Among the keys themselves, changing the chosen ones is a choice for each of them. -/
theorem within_filter (target : String → String) (chosen : String → Bool) (present : key ∈ keys) :
    within (keys.filter chosen) target key = if chosen key then target key else key := by
  simp [within, present]

/-- Changing one more name first is changing all of them, if its target is none of the others. -/
theorem within_cons (other : target name ∉ names) :
    within names target ∘ within [name] target = within (name :: names) target := by
  funext key
  by_cases same : key = name
  · subst key
    simp [within, other]
  · simp [within, same]

/-- The target of an admitted name is none of the names after it. -/
theorem target_not_mem_of_free (absent : name ∉ names) (present : names ⊆ keys)
    (free : target name = name ∨ target name ∉ keys) : target name ∉ names := by
  rcases free with same | free
  · rwa [same]
  · exact fun member => free (present member)

/-- Names that are still to be changed are there after another one is changed. -/
theorem subset_map_within (absent : name ∉ names) (present : names ⊆ keys) :
    names ⊆ keys.map (within [name] target) := by
  intro other member
  refine List.mem_map.mpr ⟨other, present member, within_of_not_mem target ?_⟩
  rw [List.mem_singleton]
  rintro rfl
  exact absent member

/-- A single change to a free name keeps names distinct. -/
theorem nodup_map_within_singleton (distinct : keys.Nodup)
    (free : target name = name ∨ target name ∉ keys) :
    (keys.map (within [name] target)).Nodup := by
  refine distinct.map_on fun left leftMember right rightMember same => ?_
  simp only [within, List.mem_singleton] at same
  rcases free with kept | free
  · by_cases atLeft : left = name <;> by_cases atRight : right = name <;> simp_all
  · by_cases atLeft : left = name <;> by_cases atRight : right = name <;> simp_all

/-- An admitted succession keeps names distinct. -/
theorem Admits.nodup (distinct : keys.Nodup) (once : names.Nodup) (present : names ⊆ keys)
    (admitted : Admits target names keys) : (keys.map (within names target)).Nodup := by
  induction names generalizing keys with
  | nil => simpa using distinct
  | cons name names inductionHypothesis =>
    obtain ⟨free, later⟩ := admitted
    obtain ⟨absent, once⟩ := List.nodup_cons.mp once
    have present : names ⊆ keys := fun other member => present (List.mem_cons_of_mem name member)
    have other : target name ∉ names := target_not_mem_of_free absent present free
    have kept := inductionHypothesis (nodup_map_within_singleton distinct free) once
      (subset_map_within absent present) later
    rwa [List.map_map, within_cons other] at kept

/-- An admitted succession that changes the chosen names keeps names distinct. -/
theorem Admits.nodup_filter (chosen : String → Bool) (distinct : keys.Nodup)
    (admitted : Admits target (keys.filter chosen) keys) :
    (keys.map fun key => if chosen key then target key else key).Nodup := by
  have once := admitted.nodup distinct (distinct.filter _) (List.filter_subset_self _)
  rwa [List.map_congr_left fun key present => within_filter target chosen present] at once

/-- A succession is admitted if its targets are free at the beginning and differ from one
another. -/
theorem admits_of_free (apart : (names.map target).Nodup)
    (free : ∀ name ∈ names, target name ∉ keys) : Admits target names keys := by
  induction names generalizing keys with
  | nil => trivial
  | cons name names inductionHypothesis =>
    obtain ⟨different, apart⟩ := List.nodup_cons.mp apart
    refine ⟨.inr (free name List.mem_cons_self), inductionHypothesis apart ?_⟩
    intro other member taken
    obtain ⟨key, present, same⟩ := List.mem_map.mp taken
    by_cases changed : key = name
    · subst key
      rw [within_of_mem target List.mem_cons_self] at same
      exact different (List.mem_map.mpr ⟨other, member, same.symm⟩)
    · rw [within_of_not_mem target (by simpa using changed)] at same
      exact free other (List.mem_cons_of_mem name member) (same ▸ present)

/-- The targets of an admitted succession are free at the beginning, if they are none of the names
to be changed. -/
theorem Admits.free (apart : ∀ name ∈ names, target name ∉ names)
    (admitted : Admits target names keys) : ∀ name ∈ names, target name ∉ keys := by
  induction names generalizing keys with
  | nil => simp
  | cons name names inductionHypothesis =>
    obtain ⟨free, later⟩ := admitted
    have below := inductionHypothesis
      (fun other member met => apart other (List.mem_cons_of_mem name member)
        (List.mem_cons_of_mem name met)) later
    intro other member taken
    rcases List.mem_cons.mp member with rfl | member
    · rcases free with same | free
      · exact apart other List.mem_cons_self (by simp [same])
      · exact free taken
    · refine below other member (List.mem_map.mpr ⟨target other, taken, ?_⟩)
      refine within_of_not_mem target ?_
      rw [List.mem_singleton]
      intro met
      exact apart other (List.mem_cons_of_mem name member) (met ▸ List.mem_cons_self)

end Names

namespace ObjectShape

variable {α : Type} {target : String → String} {shape : ObjectShape α} {name : String}

/-- Rename some properties of an object, one after the other. A name that is its own target is
passed over, and the first one whose renaming is refused ends the succession. -/
def renameNames (target : String → String) (refusal : String → SchemaError) :
    List String → ObjectShape α → Nat → Visited SchemaError Nat (ObjectShape α)
  | [], shape, renamed => (shape, .ok renamed)
  | name :: names, shape, renamed =>
    if target name = name then renameNames target refusal names shape renamed
    else
      match shape.rename? name (target name) with
      | some shape => renameNames target refusal names shape (renamed + 1)
      | none => (shape, .error (refusal name))

/-- Marking names is renaming them, if no name is its own marked form. -/
theorem escapeNames_eq (rule : EscapeRule) (pointer : Pointer) (names : List String)
    (moved : ∀ name ∈ names, rule.escape name ≠ name) (shape : ObjectShape α) (renamed : Nat) :
    escapeNames rule pointer names shape renamed =
      renameNames rule.escape (fun name => .escapeCollision pointer (rule.escape name) name)
        names shape renamed := by
  induction names generalizing shape renamed with
  | nil => rfl
  | cons name names inductionHypothesis =>
    rw [escapeNames, renameNames, if_neg (moved name List.mem_cons_self)]
    cases shape.rename? name (rule.escape name) with
    | none => rfl
    | some next =>
      exact inductionHypothesis (fun other member => moved other (List.mem_cons_of_mem name member))
        next (renamed + 1)

/-- Restoring names is renaming them. -/
theorem restoreNames_eq (restoring : Rule) (pointer : Pointer) (names : List String)
    (shape : ObjectShape α) (renamed : Nat) :
    restoreNames restoring pointer names shape renamed =
      renameNames restoring.apply
        (fun name => .escapeCollision pointer name (restoring.apply name)) names shape renamed := by
  induction names generalizing shape renamed with
  | nil => rfl
  | cons name names inductionHypothesis =>
    simp only [restoreNames, renameNames]
    by_cases kept : restoring.apply name = name
    · rw [if_pos kept, if_pos kept]
      exact inductionHypothesis shape renamed
    · rw [if_neg kept, if_neg kept]
      cases shape.rename? name (restoring.apply name) with
      | none => rfl
      | some next => exact inductionHypothesis next (renamed + 1)

/-- A renaming in place is refused if the new name is taken. -/
theorem rename?_of_taken {old new : String} (taken : new ∈ shape.names) :
    shape.rename? old new = none := by
  simp [rename?, (Table.has_iff shape.properties new).mpr taken]

/-- A renaming in place of a property to a free name renames that property alone. -/
theorem rename?_of_free (target : String → String) (present : name ∈ shape.names)
    (free : target name ∉ shape.names) :
    shape.rename? name (target name) = some (shape.renamed (within [name] target)) := by
  have properties : renameKey name (target name) shape.properties =
      Table.mapKeys (within [name] target) shape.properties := by
    induction shape.properties with
    | nil => rfl
    | cons entry rest inductionHypothesis =>
      by_cases same : entry.1 = name <;>
        simp [renameKey, Table.mapKeys, within, same, inductionHypothesis]
  have required : renameEntries name (target name) =
      List.map (shape.renamedEntry (within [name] target)) := by
    funext entries
    refine List.map_congr_left fun entry _ => ?_
    by_cases same : entry = name
    · subst entry
      simp [renamedEntry_of_mem _ present, within]
    · simp [renamedEntry, within, same]
  simp only [rename?, (Table.has_iff shape.properties name).mpr present,
    (Table.has_eq_false_iff shape.properties (target name)).mpr free, properties, required]
  rfl

/-- Renaming one property and then others is renaming all of them at once. -/
theorem renamed_within_cons {names : List String} (present : names ⊆ shape.names)
    (other : target name ∉ names) :
    (shape.renamed (within [name] target)).renamed (within names target) =
      shape.renamed (within (name :: names) target) := by
  rw [← within_cons other]
  refine renamed_renamed _ _ shape fun entry _ unnamed _ => ?_
  exact within_of_not_mem target fun member => unnamed (present member)

/-- A name that is its own target is passed over. -/
theorem renamed_within_of_kept (kept : target name = name) (shape : ObjectShape α) :
    shape.renamed (within [name] target) = shape := by
  refine renamed_of_unchanged _ shape fun key _ => ?_
  by_cases met : key = name
  · rw [met, within_of_mem target List.mem_cons_self, kept]
  · exact within_of_not_mem target (by simpa using met)

/-- A name that is free to change is changed, and the succession goes on from there. -/
theorem renameNames_cons (refusal : String → SchemaError) (names : List String)
    (present : name ∈ shape.names) (free : target name = name ∨ target name ∉ shape.names)
    (renamed : Nat) :
    renameNames target refusal (name :: names) shape renamed =
      renameNames target refusal names (shape.renamed (within [name] target))
        (if target name = name then renamed else renamed + 1) := by
  rw [renameNames]
  by_cases kept : target name = name
  · rw [if_pos kept, if_pos kept, renamed_within_of_kept kept]
  · rw [if_neg kept, if_neg kept, rename?_of_free target present (free.resolve_left kept)]

/-- An admitted succession renames all its names at once, and counts those that change. -/
theorem renameNames_of_admits (refusal : String → SchemaError) {names : List String}
    (once : names.Nodup) (present : names ⊆ shape.names)
    (admitted : Admits target names shape.names) (renamed : Nat) :
    renameNames target refusal names shape renamed =
      (shape.renamed (within names target),
        .ok (renamed + names.countP fun name => target name ≠ name)) := by
  induction names generalizing shape renamed with
  | nil => simp [renameNames, renamed_of_unchanged]
  | cons name names inductionHypothesis =>
    obtain ⟨free, later⟩ := admitted
    obtain ⟨absent, once⟩ := List.nodup_cons.mp once
    have rest : names ⊆ shape.names :=
      fun other member => present (List.mem_cons_of_mem name member)
    rw [renameNames_cons refusal names (present List.mem_cons_self) free,
      inductionHypothesis once (by simpa using subset_map_within absent rest) (by simpa using later),
      renamed_within_cons rest (target_not_mem_of_free absent rest free)]
    by_cases kept : target name = name
    · simp [kept]
    · have counted : (name :: names).countP (fun name => target name ≠ name) =
          names.countP (fun name => target name ≠ name) + 1 :=
        List.countP_cons_of_pos (by simpa using kept)
      rw [if_neg kept, counted, Nat.add_assoc, Nat.add_comm 1]

/-- A succession that is not admitted stops at the first name that is refused. The names before it
are renamed, and nothing else is. -/
theorem renameNames_of_not_admits (refusal : String → SchemaError) {names : List String}
    (once : names.Nodup) (present : names ⊆ shape.names)
    (refused : ¬ Admits target names shape.names) (renamed : Nat) :
    ∃ before name after, names = before ++ name :: after ∧
      Admits target before shape.names ∧ target name ≠ name ∧
      target name ∈ shape.names.map (within before target) ∧
      renameNames target refusal names shape renamed =
        (shape.renamed (within before target), .error (refusal name)) := by
  induction names generalizing shape renamed with
  | nil => exact absurd trivial refused
  | cons name names inductionHypothesis =>
    obtain ⟨absent, once⟩ := List.nodup_cons.mp once
    have rest : names ⊆ shape.names :=
      fun other member => present (List.mem_cons_of_mem name member)
    by_cases free : target name = name ∨ target name ∉ shape.names
    · have later : ¬ Admits target names (shape.renamed (within [name] target)).names := by
        simpa using fun admitted => refused ⟨free, admitted⟩
      obtain ⟨before, stop, after, rfl, admitted, moved, taken, ended⟩ :=
        inductionHypothesis once (by simpa using subset_map_within absent rest) later
          (if target name = name then renamed else renamed + 1)
      have other : target name ∉ before := fun member =>
        target_not_mem_of_free absent rest free (List.mem_append_left _ member)
      have early : before ⊆ shape.names :=
        fun key member => rest (List.mem_append_left _ member)
      refine ⟨name :: before, stop, after, rfl, ⟨free, by simpa using admitted⟩, moved, ?_, ?_⟩
      · rw [names_renamed, List.map_map, within_cons other] at taken
        exact taken
      · rw [renameNames_cons refusal _ (present List.mem_cons_self) free, ended,
          renamed_within_cons early other]
    · obtain ⟨moved, taken⟩ := not_or.mp free
      rw [not_not] at taken
      refine ⟨[], name, names, rfl, trivial, moved, by simpa using taken, ?_⟩
      simp [renameNames, moved, rename?_of_taken taken, renamed_of_unchanged]

end ObjectShape

end SchemaBindings
