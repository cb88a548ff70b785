import SchemaBindings.Proofs.Restoring

/-!
# Required entries under renaming

A required entry that names a property of its object moves with the property, so no pass
makes an entry lose its property. The converse does not hold. An entry that names nothing
stays as it is, and if a property of the same object comes to the very name of this
entry, then the entry names that property from then on. A look at the required entries
after marking therefore misses one kind of fault of the schema before it: an entry that
has the form of a marked reserved word, in an object with this word as a property.
-/
namespace SchemaBindings

namespace ObjectShape

variable {α : Type}

/-- Whether there is a required entry at an index and it names a property. -/
def declares (shape : ObjectShape α) (index : Nat) : Bool :=
  shape.entries[index]?.any (Table.has shape.properties)

/-- An object declares an entry if the entry is one of its names. -/
theorem declares_iff (shape : ObjectShape α) (index : Nat) :
    shape.declares index = true ↔
      ∃ entry, shape.entries[index]? = some entry ∧ entry ∈ shape.names := by
  cases listed : shape.entries[index]? <;> simp [declares, listed, names]

/-- An entry names a property under the new names exactly if it did under the old ones or is itself
the new name of a property. -/
theorem renamedEntry_mem_iff (name : String → String) (shape : ObjectShape α) (entry : String) :
    shape.renamedEntry name entry ∈ shape.names.map name ↔
      entry ∈ shape.names ∨ entry ∈ shape.names.map name := by
  by_cases named : entry ∈ shape.names
  · rw [renamedEntry_of_mem name named]
    exact iff_of_true (List.mem_map_of_mem named) (.inl named)
  · rw [renamedEntry_of_not_mem name named]
    exact ⟨.inr, fun either => either.resolve_left named⟩

/-- The same for the entry at an index. -/
theorem declares_renamed_iff (name : String → String) (shape : ObjectShape α) (index : Nat) :
    (shape.renamed name).declares index = true ↔
      shape.declares index = true ∨
        ∃ old ∈ shape.names, shape.entries[index]? = some (name old) := by
  simp only [declares_iff, entries_renamed, names_renamed, List.getElem?_map,
    Option.map_eq_some_iff]
  constructor
  · rintro ⟨_, ⟨entry, listed, rfl⟩, member⟩
    rcases (renamedEntry_mem_iff name shape entry).mp member with named | met
    · exact .inl ⟨entry, listed, named⟩
    · obtain ⟨old, present, rfl⟩ := List.mem_map.mp met
      exact .inr ⟨old, present, listed⟩
  · rintro (⟨entry, listed, named⟩ | ⟨old, present, listed⟩)
    · exact ⟨_, ⟨entry, listed, rfl⟩, (renamedEntry_mem_iff name shape entry).mpr (.inl named)⟩
    · exact ⟨_, ⟨name old, listed, rfl⟩,
        (renamedEntry_mem_iff name shape (name old)).mpr (.inr (List.mem_map_of_mem present))⟩

/-- Where only some of the names are changed, the new name of a name that is kept is no new name of
an entry. -/
theorem declares_renamed_chosen_iff (chosen : String → Bool) (target : String → String)
    (shape : ObjectShape α) (index : Nat) :
    (shape.renamed fun name => if chosen name then target name else name).declares index = true ↔
      shape.declares index = true ∨ ∃ name ∈ shape.names, chosen name = true ∧
        shape.entries[index]? = some (target name) := by
  rw [declares_renamed_iff]
  constructor
  · rintro (declared | ⟨name, present, listed⟩)
    · exact .inl declared
    · split at listed
      case isTrue picked => exact .inr ⟨name, present, picked, listed⟩
      case isFalse => exact .inl ((shape.declares_iff index).mpr ⟨name, listed, present⟩)
  · rintro (declared | ⟨name, present, picked, listed⟩)
    · exact .inl declared
    · exact .inr ⟨name, present, by rwa [if_pos picked]⟩

end ObjectShape

/-- The same for an object of the tree, whose own nodes are renamed too. -/
theorem Node.declares_renamedObject_iff (chosen : String → Bool) (target : String → String)
    (shape : ObjectNode) (index : Nat) :
    (renamedObject (fun name => if chosen name then target name else name) shape).declares index
        = true ↔
      shape.declares index = true ∨ ∃ name ∈ shape.names, chosen name = true ∧
        shape.entries[index]? = some (target name) := by
  simpa [ObjectShape.declares_iff, renamedObject] using
    ObjectShape.declares_renamed_chosen_iff chosen target (shape.map (Node.renamed fun name =>
      if chosen name then target name else name)) index

namespace Schema

variable {rule : EscapeRule} {reserved : ReservedWords}

/-- A marked schema has no required entry without a property exactly if every such entry of the
schema before has the form of a marked reserved word that is a property of its object. -/
theorem violations_marked_eq_nil_iff (rule : EscapeRule) (reserved : ReservedWords)
    (schema : Schema) :
    (schema.renamed (rule.marked reserved)).violations = [] ↔
      ∀ shape ∈ schema.shapes, ∀ entry ∈ shape.entries, entry ∈ shape.names ∨
        ∃ word ∈ shape.names, reserved.contains word = true ∧ entry = rule.escape word := by
  simp only [violations_eq_nil_iff, shapes_renamed, List.forall_mem_map,
    Node.entries_renamedObject, Node.names_renamedObject, ObjectShape.renamedEntry_mem_iff]
  refine forall₂_congr fun shape _ => forall₂_congr fun entry _ => or_congr_right' fun unnamed => ?_
  simp only [List.mem_map, EscapeRule.marked]
  constructor
  · rintro ⟨word, present, same⟩
    split at same
    case isTrue contained => exact ⟨word, present, contained, same.symm⟩
    case isFalse => exact absurd (same ▸ present) unnamed
  · rintro ⟨word, present, contained, rfl⟩
    exact ⟨word, present, if_pos contained⟩

/-- After a successful marking or restoring, a required entry of an object names a property exactly
if it did before, or if it has been, all the time, the name to which a property of its object has
been marked or restored. So no pass makes an entry lose its property, but entries that named nothing
may come to name one, and then a look at the required entries after marking does not find them. -/
theorem declares_after_passes (reserved : ReservedWords) (rule : EscapeRule) (restoring : Rule)
    (schema : Schema) (distinct : schema.Distinct) (spares : rule.Spares reserved) :
    (∀ escaped count, schema.escape reserved rule = (escaped, .ok count) →
      List.Forall₂ (fun before after => ∀ index, after.2.declares index = true ↔
          before.2.declares index = true ∨ ∃ word ∈ before.2.names,
            reserved.contains word = true ∧ before.2.entries[index]? = some (rule.escape word))
        schema.objects escaped.objects ∧
      (escaped.violations = [] ↔
        ∀ shape ∈ schema.shapes, ∀ entry ∈ shape.entries, entry ∈ shape.names ∨
          ∃ word ∈ shape.names, reserved.contains word = true ∧ entry = rule.escape word)) ∧
    ∀ restored count, schema.restore rule restoring = (restored, .ok count) →
      List.Forall₂ (fun before after => ∀ index, after.2.declares index = true ↔
          before.2.declares index = true ∨ ∃ name ∈ before.2.names,
            rule.occursIn name = true ∧ before.2.entries[index]? = some (restoring.apply name))
        schema.objects restored.objects := by
  constructor
  · intro escaped count ended
    obtain ⟨_, rfl⟩ := escape_ok spares distinct ended
    refine ⟨?_, violations_marked_eq_nil_iff rule reserved schema⟩
    refine (forall₂_objects_renamed_iff (fun before after => ∀ index,
      after.declares index = true ↔ before.declares index = true ∨
        ∃ word ∈ before.names, reserved.contains word = true ∧
          before.entries[index]? = some (rule.escape word)) _ schema).mpr fun shape _ index => ?_
    exact Node.declares_renamedObject_iff reserved.contains rule.escape shape index
  · intro restored count ended
    obtain rfl := restore_ok distinct ended
    refine (forall₂_objects_renamed_iff (fun before after => ∀ index,
      after.declares index = true ↔ before.declares index = true ∨
        ∃ name ∈ before.names, rule.occursIn name = true ∧
          before.entries[index]? = some (restoring.apply name)) _ schema).mpr
      fun shape _ index => ?_
    exact Node.declares_renamedObject_iff rule.occursIn restoring.apply shape index

/-- A schema with an object that requires a name it does not have, the one that its own property has
after marking. -/
def requiringMarked : Schema where
  root := .reference "#/definitions/Cond" []
  definitions :=
    [("Cond", .object ⟨[("else", .scalar [])], true, some ["quicktype_else"], .absent, []⟩)]
  writtenKey := some .definitions

/-- An object that requires the marked form of a name which it has unmarked. To mark it declares the
entry, and to restore it brings entry and name together. -/
theorem declares_after_passes_at_requiringMarked :
    requiringMarked.Distinct ∧ EscapeRule.Spares {} ⟨["else"]⟩ ∧
      ∃ escaped restoring restored, requiringMarked.escape ⟨["else"]⟩ {} = (escaped, .ok 1) ∧
        Rule.compile "quicktype_" "g" "" = .ok restoring ∧
        escaped.restore {} restoring = (restored, .ok 1) ∧
        List.Forall₂ (fun before after => ∀ index, after.2.declares index = true ↔
            before.2.declares index = true ∨ ∃ word ∈ before.2.names,
              ReservedWords.contains ⟨["else"]⟩ word = true ∧
                before.2.entries[index]? = some (EscapeRule.escape {} word))
          requiringMarked.objects escaped.objects ∧
        List.Forall₂ (fun before after => ∀ index, after.2.declares index = true ↔
            before.2.declares index = true ∨ ∃ name ∈ before.2.names,
              EscapeRule.occursIn {} name = true ∧
                before.2.entries[index]? = some (restoring.apply name))
          escaped.objects restored.objects := by
  have distinct : requiringMarked.Distinct := by decide
  have spares : EscapeRule.Spares {} ⟨["else"]⟩ := by decide
  have ended : (requiringMarked.escape ⟨["else"]⟩ {}).2 = .ok 1 := by decide
  have marked : (requiringMarked.escape ⟨["else"]⟩ {}).1.Distinct := by decide
  have judged : (Rule.compile "quicktype_" "g" "").toOption.map (fun restoring =>
      ((requiringMarked.escape ⟨["else"]⟩ {}).1.restore {} restoring).2.toOption) =
        some (some 1) := by decide +kernel
  obtain ⟨restoring, compiled, restored⟩ := Option.map_eq_some_iff.mp judged
  rw [toOption_eq_some_iff] at compiled restored
  exact ⟨distinct, spares, _, restoring, _, Prod.ext rfl ended, compiled, Prod.ext rfl restored,
    ((declares_after_passes _ _ restoring _ distinct spares).1 _ 1 (Prod.ext rfl ended)).1,
    (declares_after_passes ⟨["else"]⟩ _ restoring _ marked spares).2 _ 1 (Prod.ext rfl restored)⟩

/-- Marking hides what this schema lacks. Its object requires a name that it does not have, and
after marking this name is there and no required entry is without its property. -/
theorem escape_hides_undeclared_entry :
    EscapeRule.Spares {} ⟨["else"]⟩ ∧
      ∃ shape escaped hidden,
        requiringMarked.escape ⟨["else"]⟩ {} = (escaped, .ok 1) ∧
        requiringMarked.shapes = [shape] ∧ escaped.shapes = [hidden] ∧
        shape.declares 0 = false ∧ hidden.declares 0 = true ∧
        requiringMarked.violations =
          [.requiredMismatch ((Pointer.root.child "definitions").child "Cond") "quicktype_else"] ∧
        escaped.violations = [] := by
  have ended : (requiringMarked.escape ⟨["else"]⟩ {}).2 = .ok 1 := by decide
  exact ⟨by decide, _, _, _, Prod.ext rfl ended, rfl, rfl, rfl, rfl, rfl, rfl⟩

end Schema

end SchemaBindings
