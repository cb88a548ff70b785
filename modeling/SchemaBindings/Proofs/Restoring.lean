import SchemaBindings.Proofs.Escaping

/-!
# What the round-trip check decides

Restoring takes one marked name of an object after the other out of the way, by a rule
of which nothing is known. The check looks at the names of an object all at once
before anything is changed. Both judge the same: the check accepts a schema exactly if
restoring it succeeds and leaves every object with its plain names unchanged, its
marked reserved words turned into names that are not reserved, and no marker at all.

One direction rests on the marker: a name that the check lets a marked word become has
no marker, so it can be neither a name that is still to be restored nor, by the check,
a plain name. The other rests on the names of an object staying distinct under every
succession that is not refused, whatever its order is.
-/
namespace SchemaBindings

namespace EscapeRule

variable (rule : EscapeRule) (reserved : ReservedWords) (restoring : Rule)

/-- The name that restoring gives to a property: a name that has the marker is restored, any other
stays. -/
def restored (name : String) : String :=
  if rule.occursIn name then restoring.apply name else name

/-- The names of an object can be restored: a plain name has no marker, and a marked reserved word
becomes a name without it, which is not reserved and differs from all plain names and from what the
other marked words become. -/
structure Restorable (names : List String) : Prop where
  plain : ∀ name ∈ names, rule.produces reserved name = false → rule.occursIn name = false
  unmarked : ∀ name ∈ names, rule.produces reserved name = true →
    rule.occursIn (restoring.apply name) = false
  unreserved : ∀ name ∈ names, rule.produces reserved name = true →
    reserved.contains (restoring.apply name) = false
  aside : ∀ name ∈ names, rule.produces reserved name = true →
    ∀ other ∈ names, rule.produces reserved other = false → restoring.apply name ≠ other
  apart : ((names.filter (rule.produces reserved)).map restoring.apply).Nodup

/-- Names have been restored cleanly: each stands where its old form stood, a plain name is
unchanged, a marked reserved word has become a name that is not reserved, and no name has the
marker. -/
def RestoredCleanly (before after : List String) : Prop :=
  List.Forall₂ (fun old new =>
    if rule.produces reserved old then reserved.contains new = false else new = old) before after ∧
  ∀ name ∈ after, rule.occursIn name = false

variable {rule reserved restoring} {names : List String}

/-- Among names that can be restored, those that have the marker are the marked reserved words. -/
theorem Restorable.occursIn_eq (restorable : rule.Restorable reserved restoring names)
    {name : String} (member : name ∈ names) :
    rule.occursIn name = rule.produces reserved name := by
  cases produced : rule.produces reserved name with
  | false => exact restorable.plain name member produced
  | true => exact rule.occursIn_of_produces reserved name produced

/-- Names that can be restored are restored in turn without a refusal. -/
theorem Restorable.admits (restorable : rule.Restorable reserved restoring names) :
    Admits restoring.apply (names.filter rule.occursIn) names := by
  have chosen : names.filter rule.occursIn = names.filter (rule.produces reserved) :=
    List.filter_congr fun name member => restorable.occursIn_eq member
  rw [chosen]
  refine admits_of_free restorable.apart fun name member taken => ?_
  obtain ⟨present, produced⟩ := List.mem_filter.mp member
  have free := restorable.unmarked name present produced
  cases other : rule.produces reserved (restoring.apply name) with
  | false => exact restorable.aside name present produced _ taken other rfl
  | true =>
    rw [rule.occursIn_of_produces reserved _ other] at free
    contradiction

/-- Names can be restored exactly if restoring them in turn is admitted and restores them
cleanly. -/
theorem restorable_iff (distinct : names.Nodup) :
    rule.Restorable reserved restoring names ↔
      Admits restoring.apply (names.filter rule.occursIn) names ∧
        rule.RestoredCleanly reserved names (names.map (rule.restored restoring)) := by
  constructor
  · intro restorable
    refine ⟨restorable.admits, ?_, ?_⟩
    · rw [List.forall₂_map_right_iff, List.forall₂_same]
      intro name member
      rw [restored, restorable.occursIn_eq member]
      cases produced : rule.produces reserved name with
      | false => rfl
      | true => exact restorable.unreserved name member produced
    · intro after member
      obtain ⟨name, present, rfl⟩ := List.mem_map.mp member
      rw [restored, restorable.occursIn_eq present]
      cases produced : rule.produces reserved name with
      | false => exact restorable.plain name present produced
      | true => exact restorable.unmarked name present produced
  · rintro ⟨admitted, kept, free⟩
    rw [List.forall₂_map_right_iff, List.forall₂_same] at kept
    have moved (name : String) (produced : rule.produces reserved name = true) :
        rule.restored restoring name = restoring.apply name :=
      if_pos (rule.occursIn_of_produces reserved name produced)
    have still (name : String) (member : name ∈ names)
        (plain : rule.produces reserved name = false) : rule.restored restoring name = name := by
      simpa [plain] using kept name member
    have unmarked (name : String) (member : name ∈ names) :
        rule.occursIn (rule.restored restoring name) = false :=
      free _ (List.mem_map_of_mem member)
    have separate : ∀ left ∈ names, ∀ right ∈ names,
        rule.restored restoring left = rule.restored restoring right → left = right := by
      intro left leftMember right rightMember same
      exact List.inj_on_of_nodup_map (admitted.nodup_filter rule.occursIn distinct) leftMember
        rightMember same
    constructor
    · intro name member plain
      rw [← still name member plain]
      exact unmarked name member
    · intro name member produced
      rw [← moved name produced]
      exact unmarked name member
    · intro name member produced
      rw [← moved name produced]
      simpa [produced] using kept name member
    · intro name member produced other present plain same
      rw [← moved name produced, ← still other present plain] at same
      rw [separate name member other present same, plain] at produced
      contradiction
    · refine (distinct.filter _).map_on fun left leftMember right rightMember same => ?_
      obtain ⟨leftMember, leftProduced⟩ := List.mem_filter.mp leftMember
      obtain ⟨rightMember, rightProduced⟩ := List.mem_filter.mp rightMember
      rw [← moved left leftProduced, ← moved right rightProduced] at same
      exact separate left leftMember right rightMember same

end EscapeRule

namespace ObjectShape

variable {α : Type} {rule : EscapeRule} {reserved : ReservedWords} {restoring : Rule}

/-- The check of marked names accepts them exactly if each becomes a name without the marker that is
not reserved and none of the plain or seen ones, and no two become the same. -/
theorem checkRestored_ok_iff (pointer : Pointer) (plain seen names : List String) :
    checkRestored reserved rule restoring pointer plain seen names = .ok () ↔
      (∀ name ∈ names, rule.occursIn (restoring.apply name) = false ∧
        reserved.contains (restoring.apply name) = false ∧
        restoring.apply name ∉ plain ∧ restoring.apply name ∉ seen) ∧
      (names.map restoring.apply).Nodup := by
  induction names generalizing seen with
  | nil => simp [checkRestored]
  | cons name names inductionHypothesis =>
    have step : checkRestored reserved rule restoring pointer plain seen (name :: names) = .ok () ↔
        (rule.occursIn (restoring.apply name) = false ∧
          reserved.contains (restoring.apply name) = false ∧
          restoring.apply name ∉ plain ∧ restoring.apply name ∉ seen) ∧
        checkRestored reserved rule restoring pointer plain (restoring.apply name :: seen) names =
          .ok () := by
      cases incomplete : rule.occursIn (restoring.apply name) with
      | true => simp [checkRestored, incomplete]
      | false =>
        cases contained : reserved.contains (restoring.apply name) with
        | true => simp [checkRestored, incomplete, contained]
        | false =>
          by_cases taken : restoring.apply name ∈ plain ∨ restoring.apply name ∈ seen
          · have refused : ¬ (restoring.apply name ∉ plain ∧ restoring.apply name ∉ seen) := by
              simpa only [not_and_or, not_not] using taken
            simp [checkRestored, incomplete, contained, taken, refused]
          · have free := not_or.mp taken
            simp [checkRestored, incomplete, contained, free]
    rw [step, inductionHypothesis, List.forall_mem_cons, List.map_cons, List.nodup_cons]
    constructor
    · rintro ⟨first, rest, apart⟩
      refine ⟨⟨first, fun other member => ?_⟩, fun met => ?_, apart⟩
      · obtain ⟨unmarked, unreserved, aside, fresh⟩ := rest other member
        exact ⟨unmarked, unreserved, aside, fun seen => fresh (List.mem_cons_of_mem _ seen)⟩
      · obtain ⟨other, member, same⟩ := List.mem_map.mp met
        exact (rest other member).2.2.2 (same ▸ List.mem_cons_self)
    · rintro ⟨⟨first, rest⟩, different, apart⟩
      refine ⟨first, fun other member => ?_, apart⟩
      obtain ⟨unmarked, unreserved, aside, fresh⟩ := rest other member
      refine ⟨unmarked, unreserved, aside, fun seen => ?_⟩
      rcases List.mem_cons.mp seen with same | seen
      · exact different (List.mem_map.mpr ⟨other, member, same⟩)
      · exact fresh seen

/-- The check accepts an object exactly if its names can be restored. -/
theorem checkRoundTrip_ok_iff (pointer : Pointer) (shape : ObjectShape α) :
    shape.checkRoundTrip reserved rule restoring pointer = .ok () ↔
      rule.Restorable reserved restoring shape.names := by
  have plain : (shape.names.filter fun name => !rule.produces reserved name).find? rule.occursIn =
      none ↔ ∀ name ∈ shape.names, rule.produces reserved name = false →
        rule.occursIn name = false := by
    simp
  rw [checkRoundTrip]
  split
  case h_1 name found =>
    refine iff_of_false (by simp) fun restorable => ?_
    have absent := found.symm.trans (plain.mpr restorable.plain)
    contradiction
  case h_2 absent =>
    rw [checkRestored_ok_iff]
    constructor
    · rintro ⟨each, apart⟩
      have chosen (name : String) (member : name ∈ shape.names)
          (produced : rule.produces reserved name = true) :=
        each name (List.mem_filter.mpr ⟨member, produced⟩)
      refine ⟨plain.mp absent, fun name member produced => (chosen name member produced).1,
        fun name member produced => (chosen name member produced).2.1, ?_, apart⟩
      rintro name member produced _ present unproduced rfl
      refine (chosen name member produced).2.2.1 (List.mem_filter.mpr ⟨present, ?_⟩)
      simpa using unproduced
    · intro restorable
      refine ⟨fun name member => ?_, restorable.apart⟩
      obtain ⟨member, produced⟩ := List.mem_filter.mp member
      refine ⟨restorable.unmarked name member produced, restorable.unreserved name member produced,
        fun taken => ?_, by simp⟩
      obtain ⟨present, unproduced⟩ := List.mem_filter.mp taken
      exact restorable.aside name member produced _ present (by simpa using unproduced) rfl

/-- Restoring an object restores its marked names at once, if restoring them in turn is
admitted. -/
theorem restore_renames (rule : EscapeRule) (restoring : Rule) :
    RenamesObjects (fun pointer shape => shape.restore rule restoring pointer)
      (rule.restored restoring)
      (fun names => Admits restoring.apply (names.filter rule.occursIn) names)
      (fun names => (names.filter rule.occursIn).countP fun name => restoring.apply name ≠ name) :=
  RenamesObjects.of_turns rule.occursIn restoring.apply
    (fun pointer name => .escapeCollision pointer name (restoring.apply name))
    fun pointer shape count => restoreNames_eq restoring pointer _ shape count

end ObjectShape

namespace Schema

variable {reserved : ReservedWords} {rule : EscapeRule} {restoring : Rule}

/-- The check accepts a schema exactly if the names of all its objects can be restored. -/
theorem checkRoundTrip_ok_iff (schema : Schema) :
    schema.checkRoundTrip reserved rule restoring = .ok () ↔
      AllAcceptable (rule.Restorable reserved restoring) schema.shapes := by
  rw [checkRoundTrip, forM_ok_iff]
  simp only [ObjectShape.checkRoundTrip_ok_iff, AllAcceptable, shapes, List.mem_map,
    forall_exists_index, and_imp, forall_apply_eq_imp_iff₂]

/-- Restoring a schema restores its marked names at once, if restoring them in turn is admitted in
every object, and fails otherwise. -/
theorem restore_renames (rule : EscapeRule) (restoring : Rule) (schema : Schema)
    (distinct : schema.Distinct) :
    Renames (fun names => Admits restoring.apply (names.filter rule.occursIn) names)
      (fun names => (names.filter rule.occursIn).countP fun name => restoring.apply name ≠ name)
      schema.shapes 0 (schema.renamed (rule.restored restoring)) (schema.restore rule restoring) :=
  schema.visit_renames (ObjectShape.restore_renames rule restoring) distinct 0

/-- Restoring a schema of distinct keys succeeds only by restoring its names at once. -/
theorem restore_ok {schema restored : Schema} {count : Nat} (distinct : schema.Distinct)
    (ended : schema.restore rule restoring = (restored, .ok count)) :
    restored = schema.renamed (rule.restored restoring) := by
  have outcome := restore_renames rule restoring schema distinct
  rw [ended] at outcome
  exact outcome.of_ok.2

/-- A schema that the check accepts is restored without a fault, all of its names at once. -/
theorem restore_of_checked {schema : Schema} (distinct : schema.Distinct)
    (checked : schema.checkRoundTrip reserved rule restoring = .ok ()) :
    ∃ count, schema.restore rule restoring = (schema.renamed (rule.restored restoring), .ok count) := by
  have admitted : AllAcceptable (fun names => Admits restoring.apply
      (names.filter rule.occursIn) names) schema.shapes :=
    fun shape member => (checkRoundTrip_ok_iff schema |>.mp checked shape member).admits
  exact ⟨_, (restore_renames rule restoring schema distinct).1 admitted⟩

/-- A renamed schema has been restored cleanly, object by object, exactly if the names of each
object have been. -/
theorem restoredCleanly_renamed_iff (reserved : ReservedWords) (rule : EscapeRule) (schema : Schema)
    (name : String → String) :
    List.Forall₂ (fun before after => rule.RestoredCleanly reserved
        (Table.keys before.2.properties) (Table.keys after.2.properties))
        schema.objects (schema.renamed name).objects ↔
      ∀ shape ∈ schema.shapes, rule.RestoredCleanly reserved shape.names (shape.names.map name) := by
  refine (forall₂_objects_renamed_iff
    (fun before after => rule.RestoredCleanly reserved before.names after.names) name schema).trans ?_
  simp only [Node.names_renamedObject]

/-- The check accepts a schema exactly if restoring it succeeds and restores every object cleanly.
So restoring cannot fail on a schema that the check has accepted. Nothing is asked of the reserved
words, the marker or the rule. -/
theorem checkRoundTrip_ok_iff_restores_cleanly (reserved : ReservedWords) (rule : EscapeRule)
    (restoring : Rule) (schema : Schema) (distinct : schema.Distinct) :
    schema.checkRoundTrip reserved rule restoring = .ok () ↔
      ∃ restored count, schema.restore rule restoring = (restored, .ok count) ∧
        List.Forall₂ (fun before after => rule.RestoredCleanly reserved
          (Table.keys before.2.properties) (Table.keys after.2.properties))
          schema.objects restored.objects := by
  have outcome := schema.restore_renames rule restoring distinct
  have judged (shape : ObjectNode) (member : shape ∈ schema.shapes) :
      rule.Restorable reserved restoring shape.names ↔
        Admits restoring.apply (shape.names.filter rule.occursIn) shape.names ∧
          rule.RestoredCleanly reserved shape.names
            (shape.names.map (rule.restored restoring)) :=
    EscapeRule.restorable_iff (distinct.properties shape member)
  rw [checkRoundTrip_ok_iff]
  constructor
  · intro restorable
    refine ⟨_, _, outcome.1 fun shape member => ?_, ?_⟩
    · exact ((judged shape member).mp (restorable shape member)).1
    · rw [restoredCleanly_renamed_iff]
      exact fun shape member => ((judged shape member).mp (restorable shape member)).2
  · rintro ⟨restored, count, ended, cleanly⟩ shape member
    by_cases admitted : AllAcceptable
        (fun names => Admits restoring.apply (names.filter rule.occursIn) names) schema.shapes
    · obtain rfl : schema.renamed (rule.restored restoring) = restored :=
        congrArg Prod.fst ((outcome.1 admitted).symm.trans ended)
      rw [restoredCleanly_renamed_iff] at cleanly
      exact (judged shape member).mpr ⟨admitted shape member, cleanly shape member⟩
    · obtain ⟨left, error, failed⟩ := outcome.2 admitted
      rw [failed] at ended
      simp at ended

/-- Objects with marked names at several depths, and a rule that puts another text in the place of
the marker. The check accepts them, and so they are restored cleanly. -/
theorem restores_cleanly_at_nested_objects :
    let reserved : ReservedWords := ⟨["class", "else", "return"]⟩
    let escaped := (nestedObjects.escape reserved ⟨"esc_"⟩).1
    escaped.Distinct ∧ ∃ restoring, Rule.compile "esc_" "g" "safe_" = .ok restoring ∧
      ∃ restored count, escaped.restore ⟨"esc_"⟩ restoring = (restored, .ok count) ∧
        List.Forall₂ (fun before after => EscapeRule.RestoredCleanly ⟨"esc_"⟩ reserved
          (Table.keys before.2.properties) (Table.keys after.2.properties))
          escaped.objects restored.objects := by
  intro reserved escaped
  have distinct : escaped.Distinct := by decide
  have judged : (Rule.compile "esc_" "g" "safe_").toOption.map
      (fun restoring => (escaped.checkRoundTrip reserved ⟨"esc_"⟩ restoring).toOption) =
        some (some ()) := by decide +kernel
  obtain ⟨restoring, compiled, checked⟩ := Option.map_eq_some_iff.mp judged
  rw [toOption_eq_some_iff] at compiled checked
  exact ⟨distinct, restoring, compiled,
    (checkRoundTrip_ok_iff_restores_cleanly _ _ restoring escaped distinct).mp checked⟩

end Schema

end SchemaBindings
