import SchemaBindings.Config.Language
import SchemaBindings.Proofs.Markers

/-!
# Complete settings

The settings of a language are looked at by several checks, each of which ends at the first
fault that it meets. What the author is told is therefore spread over all of them. Here the
faults of settings are listed, each by a condition on the settings alone that does not ask
whether another condition holds, and the checks are shown to report the first of the list.
The settings that have no fault are the complete ones.
-/
namespace SchemaBindings

open SchemaBindings.Pattern

/-- The language that a fault names. -/
def ConfigError.language? : ConfigError → Option String
  | .missingField language _ => some language
  | .invalidValue language _ _ => some language
  | .invalidRule language _ _ => some language
  | .unknownLanguage language => some language
  | .unreadable _ _ => none

namespace ReservedWords

/-- A word that is put in its place is there, with those that were there before. -/
theorem mem_insertWord {word other : String} {words : List String} :
    other ∈ insertWord word words ↔ other = word ∨ other ∈ words := by
  induction words with
  | nil => simp [insertWord]
  | cons first rest inductionHypothesis =>
    rw [insertWord]
    split
    case isTrue same => simp [same]
    case isFalse =>
      split
      · simp
      · simp only [List.mem_cons, inductionHypothesis]
        exact or_left_comm

/-- The reserved words of a list are its members. -/
theorem mem_ofList {word : String} {words : List String} :
    word ∈ (ofList words).words ↔ word ∈ words := by
  induction words with
  | nil => simp [ofList]
  | cons first rest inductionHypothesis =>
    rw [List.mem_cons, ← inductionHypothesis]
    exact mem_insertWord

end ReservedWords

namespace Config

/-- A check reports faults if it ends with the first of them, or with a value if there is none. -/
def Reports {α : Type} (faults : List ConfigError) (outcome : Except ConfigError α) : Prop :=
  ∀ error, outcome = .error error ↔ faults.head? = some error

namespace Reports

variable {α β : Type} {faults more : List ConfigError}

/-- A value that is given without a check has no fault to report. -/
theorem ok (value : α) : Reports [] (.ok value) := by simp [Reports]

/-- A check that is sure to fail reports its fault, whatever further faults there would have been.
-/
theorem error (fault : ConfigError) (others : List ConfigError) :
    Reports (fault :: others) (.error fault : Except ConfigError α) := by simp [Reports]

/-- There is a value exactly if there is no fault. -/
theorem ok_iff {outcome : Except ConfigError α} (reports : Reports faults outcome) :
    (∃ value, outcome = .ok value) ↔ faults = [] := by
  cases outcome with
  | ok value =>
    refine iff_of_true ⟨value, rfl⟩ ?_
    cases faults with
    | nil => rfl
    | cons fault others => exact nomatch (reports fault).mpr rfl
  | error error =>
    have first := (reports error).mp rfl
    refine iff_of_false (fun ⟨value, same⟩ => nomatch same) ?_
    rintro rfl
    exact nomatch first

/-- Of two checks one after the other, the faults of the first come before those of the second. -/
theorem bind {first : Except ConfigError α} {next : α → Except ConfigError β}
    (reports : Reports faults first)
    (continues : ∀ value, first = .ok value → Reports more (next value)) :
    Reports (faults ++ more) (first >>= next) := by
  cases first with
  | ok value =>
    obtain rfl := reports.ok_iff.mp ⟨value, rfl⟩
    exact continues value rfl
  | error fault =>
    intro error
    rw [List.head?_append, (reports fault).mp rfl]
    exact ⟨fun same => congrArg some (Except.error.inj same),
      fun same => congrArg Except.error (Option.some.inj same)⟩

/-- What is made of the value of a check changes none of its faults. -/
theorem map {outcome : Except ConfigError α} (reports : Reports faults outcome) (make : α → β) :
    Reports faults (make <$> outcome) := by
  cases outcome with
  | ok value =>
    obtain rfl := reports.ok_iff.mp ⟨value, rfl⟩
    exact ok (make value)
  | error fault =>
    intro error
    exact Iff.trans ⟨fun same => congrArg Except.error (Except.error.inj same),
      fun same => congrArg Except.error (Except.error.inj same)⟩ (reports error)

end Reports

/-- The fault of a value that is absent. -/
def absence {α : Type} (language field : String) (value : Option α) : List ConfigError :=
  if value.isSome then [] else [.missingField language field]

/-- The fault of what cannot be compiled. There is none where the parts for it are absent. -/
def refusal {α : Type} (language field : String) :
    Option (Except RuleError α) → List ConfigError
  | some (.error error) => [.invalidRule language field error]
  | _ => []

section

variable {α : Type} (language field : String)

/-- What is there is not missed. -/
@[simp] theorem absence_some (value : α) : absence language field (some value) = [] := rfl

/-- What is absent is missed under the name of its field. -/
@[simp] theorem absence_none :
    absence language field (none : Option α) = [.missingField language field] := rfl

/-- There is no such fault exactly if there is a value. What the value is does not matter here, and
an empty one is a value. -/
theorem absence_eq_nil_iff (value : Option α) :
    absence language field value = [] ↔ value.isSome = true := by cases value <;> simp

/-- There is no such fault exactly if what has been compiled could be, also if there was nothing to
compile. -/
theorem refusal_eq_nil_iff (compiled : Option (Except RuleError α)) :
    refusal language field compiled = [] ↔
      ∀ outcome, compiled = some outcome → ∃ value, outcome = .ok value := by
  rcases compiled with _ | _ | _ <;> simp [refusal]

/-- To ask for a value that must not be absent is to report its absence. -/
theorem reports_required (value : Option α) :
    Reports (absence language field value) (required language field value) := by
  cases value with
  | none => exact .error _ []
  | some value => exact .ok value

/-- What is asked for is given as it is. -/
theorem required_ok_iff (value : Option α) (given : α) :
    required language field value = .ok given ↔ value = some given := by
  cases value <;> simp [required]

end

end Config

open Config

/-- What the parts of a rule are compiled to, if none of them is absent. -/
def RuleSettings.compiled? (settings : RuleSettings) : Option (Except RuleError Rule) := do
  return Rule.compile (← settings.pattern) (← settings.flags) (← settings.replacement)

/-- The faults of a rule. -/
def RuleSettings.faults (settings : RuleSettings) (language field : String) : List ConfigError :=
  absence language (field ++ ".pattern") settings.pattern ++
  absence language (field ++ ".flags") settings.flags ++
  absence language (field ++ ".replacement") settings.replacement ++
  refusal language field settings.compiled?

/-- What an anchor is compiled to, without flags if they are absent. -/
def PatternSettings.compiled? (settings : PatternSettings) :
    Option (Except RuleError (Regex × Bool)) :=
  settings.pattern.map fun pattern => compilePattern pattern (settings.flags.getD "")

/-- The faults of an anchor. -/
def PatternSettings.faults (settings : PatternSettings) (language field : String) :
    List ConfigError :=
  absence language (field ++ ".pattern") settings.pattern ++
  refusal language field settings.compiled?

/-- The rule of a replaced type, which may lack everything. -/
def TypeMappingSettings.rule (settings : TypeMappingSettings) : RuleSettings where
  pattern := settings.fromType.bind PatternSettings.pattern
  flags := settings.fromType.bind PatternSettings.flags
  replacement := settings.toType

/-- The faults of a replaced type. -/
def TypeMappingSettings.faults (settings : TypeMappingSettings) (language field : String) :
    List ConfigError :=
  absence language (field ++ ".fromType") settings.fromType ++
  absence language (field ++ ".toType") settings.toType ++
  absence language (field ++ ".fromType" ++ ".pattern") settings.rule.pattern ++
  absence language (field ++ ".fromType" ++ ".flags") settings.rule.flags ++
  refusal language (field ++ ".fromType") settings.rule.compiled?

namespace CustomMappingSettings

/-- The faults of the anchor of a language, if there is one, and the fault of declarations that
have none. -/
def anchorFaults (settings : CustomMappingSettings) (language field : String) :
    List ConfigError :=
  match settings.importAnchor with
  | some anchor => anchor.faults language field
  | none => if settings.customTypes.getD [] = [] then [] else [.missingField language field]

/-- The faults of the declarations and the replaced types of a language, each type in a field of
its own index. -/
def faults (settings : CustomMappingSettings) (language : String) : List ConfigError :=
  settings.anchorFaults language "processing.customMapping.importAnchor" ++
  (settings.typeMappings.getD []).zipIdx.flatMap fun entry =>
    entry.1.faults language
      ("processing.customMapping.typeMappings" ++ "[" ++ toString entry.2 ++ "]")

end CustomMappingSettings

/-- The fault of a template that has no mark for a member. -/
def UnionSettings.templateFaults (settings : UnionSettings) (language : String) :
    List ConfigError :=
  match settings.template with
  | some template =>
    if Text.occurs UnionAlias.memberMark template.toList then []
    else [.invalidValue language "processing.unionType.template" .noMemberMark]
  | none => []

/-- The faults of the alias of a union, which are none as long as it is not enabled. -/
def UnionSettings.faults (settings : UnionSettings) (language : String) : List ConfigError :=
  if settings.enabled = some true then
    absence language "processing.unionType.template" settings.template ++
    absence language "processing.unionType.separator" settings.separator ++
    settings.templateFaults language
  else []

namespace ProcessingSettings

/-- How the settings have reserved names marked, with the marker that stands for an absent one. -/
def escaping (settings : ProcessingSettings) : EscapeRule :=
  match settings.escapeMarker with
  | some marker => ⟨marker⟩
  | none => {}

/-- The fault of a marker that is empty. -/
def markerFaults (settings : ProcessingSettings) (language : String) : List ConfigError :=
  if settings.escapeMarker = some "" then
    [.invalidValue language "processing.escapePrefix" .emptyMarker]
  else []

/-- The faults of the reserved words that begin with the marker, in the order of the words. -/
def wordFaults (settings : ProcessingSettings) (language : String) : List ConfigError :=
  ((ReservedWords.ofList (settings.reservedWords.getD [])).words.filter
    settings.escaping.isEscaped).map fun word =>
      .invalidValue language "processing.reservedWords"
        (.wordHasMarker word settings.escaping.marker)

end ProcessingSettings

/-- The faults of the settings of a language. What is absent lacks all of its parts. -/
def LanguageSettings.faults (settings : LanguageSettings) (language : String) :
    List ConfigError :=
  let processing := settings.processing.getD {}
  absence language "processing" settings.processing ++
  absence language "processing.outputDir" processing.outputDir ++
  absence language "processing.propertyRegex" processing.propertyRegex ++
  absence language "rendererOptions" settings.rendererOptions ++
  processing.markerFaults language ++
  processing.wordFaults language ++
  (processing.propertyRegex.getD {}).faults language "processing.propertyRegex" ++
  (processing.customMapping.getD {}).faults language ++
  (processing.unionType.getD {}).faults language

/-! ## Complete settings have no fault -/

/-- A rule of which nothing is absent and which can be compiled. -/
def RuleSettings.Complete (settings : RuleSettings) : Prop :=
  ∃ pattern flags replacement rule, settings.pattern = some pattern ∧
    settings.flags = some flags ∧ settings.replacement = some replacement ∧
    Rule.compile pattern flags replacement = .ok rule

/-- An anchor that has a pattern and can be compiled, without flags if they are absent. -/
def PatternSettings.Complete (settings : PatternSettings) : Prop :=
  ∃ pattern compiled, settings.pattern = some pattern ∧
    compilePattern pattern (settings.flags.getD "") = .ok compiled

/-- A replaced type of which nothing is absent and whose rule can be compiled. -/
def TypeMappingSettings.Complete (settings : TypeMappingSettings) : Prop :=
  ∃ fromType pattern flags toType rule, settings.fromType = some fromType ∧
    fromType.pattern = some pattern ∧ fromType.flags = some flags ∧
    settings.toType = some toType ∧ Rule.compile pattern flags toType = .ok rule

/-- Declarations and replaced types that are complete. -/
structure CustomMappingSettings.Complete (settings : CustomMappingSettings) : Prop where
  anchor : ∀ anchor, settings.importAnchor = some anchor → anchor.Complete
  anchored : settings.customTypes.getD [] ≠ [] → settings.importAnchor.isSome = true
  mappings : ∀ mapping ∈ settings.typeMappings.getD [], mapping.Complete

/-- The alias of a union that is not enabled, or has a template with a mark for a member and has a
separator. -/
def UnionSettings.Complete (settings : UnionSettings) : Prop :=
  settings.enabled = some true → ∃ template separator, settings.template = some template ∧
    settings.separator = some separator ∧ "$1".toList <:+: template.toList

/-- Settings of what is done with a schema and a text that are complete. -/
structure ProcessingSettings.Complete (settings : ProcessingSettings) : Prop where
  outputDir : settings.outputDir.isSome = true
  restoring : ∃ rule, settings.propertyRegex = some rule ∧ rule.Complete
  marker : settings.escapeMarker ≠ some ""
  words : ∀ word ∈ settings.reservedWords.getD [],
    ¬ (settings.escapeMarker.getD "quicktype_").toList <+: word.toList
  custom : ∀ mapping, settings.customMapping = some mapping → mapping.Complete
  union : ∀ union, settings.unionType = some union → union.Complete

/-- Settings of a language that are complete. -/
structure LanguageSettings.Complete (settings : LanguageSettings) : Prop where
  options : settings.rendererOptions.isSome = true
  processing : ∃ processing, settings.processing = some processing ∧ processing.Complete

section

variable (language field : String)

/-- The complete rules are those without a fault. Each of the three parts is there or absent, and
the rule can be compiled only in one of these cases. -/
theorem RuleSettings.faults_eq_nil_iff (settings : RuleSettings) :
    settings.faults language field = [] ↔ settings.Complete := by
  rcases settings with ⟨_ | pattern, _ | flags, _ | replacement⟩ <;>
    simp [faults, Complete, compiled?, refusal_eq_nil_iff]

/-- The complete anchors are those without a fault; flags do not count, as they may be absent. -/
theorem PatternSettings.faults_eq_nil_iff (settings : PatternSettings) :
    settings.faults language field = [] ↔ settings.Complete := by
  rcases settings with ⟨_ | pattern, flags⟩ <;>
    simp [faults, Complete, compiled?, refusal_eq_nil_iff]

/-- The complete replacements of types are those without a fault. A type that is absent lacks its
pattern and its flags as well, and is reported for itself first. -/
theorem TypeMappingSettings.faults_eq_nil_iff (settings : TypeMappingSettings) :
    settings.faults language field = [] ↔ settings.Complete := by
  rcases settings with ⟨_ | ⟨_ | pattern, _ | flags⟩, _ | toType⟩ <;>
    simp [faults, rule, Complete, RuleSettings.compiled?, refusal_eq_nil_iff]

/-- The anchor of a language is without a fault if it is complete or absent, and it is absent only
where there are no declarations. -/
theorem CustomMappingSettings.anchorFaults_eq_nil_iff (settings : CustomMappingSettings) :
    settings.anchorFaults language field = [] ↔
      (∀ anchor, settings.importAnchor = some anchor → anchor.Complete) ∧
        (settings.customTypes.getD [] ≠ [] → settings.importAnchor.isSome = true) := by
  rw [anchorFaults]
  cases settings.importAnchor with
  | some anchor => simp [PatternSettings.faults_eq_nil_iff]
  | none => simp

/-- The complete declarations and replaced types are those without a fault, each replacement being
so by itself. -/
theorem CustomMappingSettings.faults_eq_nil_iff (settings : CustomMappingSettings) :
    settings.faults language = [] ↔ settings.Complete := by
  rw [faults, List.append_eq_nil_iff, anchorFaults_eq_nil_iff, List.flatMap_eq_nil_iff]
  simp only [TypeMappingSettings.faults_eq_nil_iff]
  constructor
  · rintro ⟨⟨anchor, anchored⟩, mappings⟩
    refine ⟨anchor, anchored, fun mapping member => ?_⟩
    obtain ⟨index, listed⟩ := List.mem_iff_getElem?.mp member
    exact mappings (mapping, index) (List.mem_zipIdx_iff_getElem?.mpr listed)
  · intro complete
    refine ⟨⟨complete.anchor, complete.anchored⟩, fun entry member => ?_⟩
    exact complete.mappings entry.1 (List.fst_mem_of_mem_zipIdx member)

/-- The complete aliases are those without a fault. That the mark occurs in the template is said of
its characters here, and of a search for it in the check. -/
theorem UnionSettings.faults_eq_nil_iff (settings : UnionSettings) :
    settings.faults language = [] ↔ settings.Complete := by
  have mark : UnionAlias.memberMark = "$1".toList := rfl
  rw [faults, Complete]
  split
  case isFalse disabled => simp [disabled]
  case isTrue enabled =>
    rcases settings with ⟨_, _ | template, _ | separator⟩ <;>
      simp_all [templateFaults, ← Text.occurs_iff]

/-- A marker is without a fault unless it is empty; an absent one is not. -/
theorem ProcessingSettings.markerFaults_eq_nil_iff (settings : ProcessingSettings) :
    settings.markerFaults language = [] ↔ settings.escapeMarker ≠ some "" := by
  rw [markerFaults]
  split <;> simp_all

/-- Reserved words are without a fault if none of them begins with the marker, be it the one that is
set or the default one. -/
theorem ProcessingSettings.wordFaults_eq_nil_iff (settings : ProcessingSettings) :
    settings.wordFaults language = [] ↔ ∀ word ∈ settings.reservedWords.getD [],
      ¬ (settings.escapeMarker.getD "quicktype_").toList <+: word.toList := by
  have marker : settings.escaping.marker = settings.escapeMarker.getD "quicktype_" := by
    rw [escaping]
    cases settings.escapeMarker <;> rfl
  rw [wordFaults, List.map_eq_nil_iff, List.filter_eq_nil_iff]
  refine forall_congr' fun word => ?_
  rw [ReservedWords.mem_ofList, ← marker, ← Text.startsWith_iff, EscapeRule.isEscaped,
    EscapeRule.unmarked?, Option.isSome_map, Text.startsWith]

end

/-- A value, or what stands for an absent one, has a property if the value has it that is there. -/
theorem Config.getD_iff {α : Type} {holds : α → Prop} {other : α} (otherwise : holds other)
    (value : Option α) :
    holds (value.getD other) ↔ ∀ given, value = some given → holds given := by
  cases value <;> simp [otherwise]

/-- The complete settings of a language are those without a fault. -/
theorem LanguageSettings.faults_eq_nil_iff (settings : LanguageSettings) (language : String) :
    settings.faults language = [] ↔ settings.Complete := by
  have noMapping : CustomMappingSettings.Complete {} :=
    (CustomMappingSettings.faults_eq_nil_iff language _).mp rfl
  have noUnion : UnionSettings.Complete {} :=
    (UnionSettings.faults_eq_nil_iff language _).mp rfl
  simp only [faults, List.append_eq_nil_iff, absence_eq_nil_iff,
    ProcessingSettings.markerFaults_eq_nil_iff, ProcessingSettings.wordFaults_eq_nil_iff,
    RuleSettings.faults_eq_nil_iff, CustomMappingSettings.faults_eq_nil_iff,
    UnionSettings.faults_eq_nil_iff, getD_iff noMapping, getD_iff noUnion]
  constructor
  · rintro ⟨⟨⟨⟨⟨⟨⟨⟨present, outputDir⟩, ruled⟩, options⟩, marker⟩, words⟩, restoring⟩,
      custom⟩, union⟩
    obtain ⟨processing, given⟩ := Option.isSome_iff_exists.mp present
    rw [given, Option.getD_some] at outputDir ruled marker words restoring custom union
    obtain ⟨rule, written⟩ := Option.isSome_iff_exists.mp ruled
    rw [written, Option.getD_some] at restoring
    exact ⟨options, processing, given, outputDir, ⟨rule, written, restoring⟩, marker, words,
      custom, union⟩
  · rintro ⟨options, processing, given, complete⟩
    obtain ⟨rule, written, restoring⟩ := complete.restoring
    rw [given, Option.getD_some, written]
    exact ⟨⟨⟨⟨⟨⟨⟨⟨rfl, complete.outputDir⟩, rfl⟩, options⟩, complete.marker⟩, complete.words⟩,
      restoring⟩, complete.custom⟩, complete.union⟩

/-! ## The checks report the faults -/

section

variable (language field : String)

/-- The checks of a rule report its faults in the order in which they are listed. The pattern is
compiled last, when nothing is absent. -/
theorem RuleSettings.validate_reports (settings : RuleSettings) :
    Reports (settings.faults language field) (settings.validate language field) := by
  rw [faults, validate, List.append_assoc, List.append_assoc]
  refine .bind (reports_required _ _ _) fun pattern patterned => ?_
  refine .bind (reports_required _ _ _) fun flags flagged => ?_
  refine .bind (reports_required _ _ _) fun replacement replaced => ?_
  rw [required_ok_iff] at patterned flagged replaced
  have given : settings.compiled? = some (Rule.compile pattern flags replacement) := by
    rw [compiled?, patterned, flagged, replaced]
    rfl
  rw [given]
  cases Rule.compile pattern flags replacement with
  | ok rule => exact .ok rule
  | error error => exact .error _ []

/-- The checks of an anchor report its faults. -/
theorem PatternSettings.validateAnchor_reports (settings : PatternSettings) :
    Reports (settings.faults language field) (settings.validateAnchor language field) := by
  rw [faults, validateAnchor]
  refine .bind (reports_required _ _ _) fun pattern patterned => ?_
  rw [required_ok_iff] at patterned
  have given : settings.compiled? = some (compilePattern pattern (settings.flags.getD "")) := by
    rw [compiled?, patterned]
    rfl
  rw [given]
  cases compilePattern pattern (settings.flags.getD "") with
  | ok compiled => exact .ok compiled.1
  | error error => exact .error _ []

/-- The checks of a replaced type report its faults, those of its rule under the name of the old
type. -/
theorem TypeMappingSettings.validate_reports (settings : TypeMappingSettings) :
    Reports (settings.faults language field) (settings.validate language field) := by
  rw [faults, validate]
  simp only [List.append_assoc]
  refine .bind (reports_required _ _ _) fun fromType origin => ?_
  refine .bind (reports_required _ _ _) fun toType target => ?_
  rw [required_ok_iff] at origin target
  have rule : settings.rule = ⟨fromType.pattern, fromType.flags, some toType⟩ := by
    rw [TypeMappingSettings.rule, origin, target]
    rfl
  have reports := RuleSettings.validate_reports language (field ++ ".fromType") settings.rule
  rw [rule] at reports ⊢
  simpa [RuleSettings.faults] using reports

/-- The faults of replaced types are reported in the order of the types, each with the number of
those before it. -/
theorem Config.validateMappings_reports (mappings : List TypeMappingSettings) (index : Nat) :
    Reports ((mappings.zipIdx index).flatMap fun entry =>
        entry.1.faults language (field ++ "[" ++ toString entry.2 ++ "]"))
      (validateMappings language field index mappings) := by
  induction mappings generalizing index with
  | nil => exact .ok []
  | cons settings others inductionHypothesis =>
    rw [List.zipIdx_cons, List.flatMap_cons, validateMappings]
    refine .bind (settings.validate_reports language _) fun rule _ => ?_
    exact (inductionHypothesis (index + 1)).map (List.cons rule)

/-- The anchor is checked first if there is one, and declarations without it are the only other
fault. -/
theorem CustomMappingSettings.validateAnchor_reports (settings : CustomMappingSettings) :
    Reports (settings.anchorFaults language field) (settings.validateAnchor language field) := by
  rw [anchorFaults, validateAnchor]
  cases settings.importAnchor with
  | some anchor => exact (anchor.validateAnchor_reports language field).map some
  | none =>
    cases settings.customTypes.getD [] with
    | nil => exact .ok none
    | cons declaration others => exact .error _ []

/-- The faults of the anchor come before those of the replaced types. -/
theorem CustomMappingSettings.validate_reports (settings : CustomMappingSettings) :
    Reports (settings.faults language) (settings.validate language) := by
  rw [faults, validate]
  refine .bind (settings.validateAnchor_reports language _) fun anchor _ => ?_
  exact (validateMappings_reports language _ _ 0).map
    (CustomTypes.mk anchor (settings.customTypes.getD []))

/-- An alias that is enabled is checked for its parts and then for the mark, and any other one not
at all. -/
theorem UnionSettings.validate_reports (settings : UnionSettings) :
    Reports (settings.faults language) (settings.validate language) := by
  have enabled : settings.enabled.getD false = true ↔ settings.enabled = some true := by
    cases settings.enabled <;> simp
  rw [faults, validate]
  simp only [enabled]
  split
  case isFalse => exact .ok _
  case isTrue =>
    rw [List.append_assoc]
    refine .bind (reports_required _ _ _) fun template given => ?_
    refine .bind (reports_required _ _ _) fun separator _ => ?_
    rw [required_ok_iff] at given
    rw [templateFaults, given]
    dsimp only
    split
    case isTrue => exact .ok _
    case isFalse => exact .error _ []

/-- The check of the marker reports its fault. An absent marker passes as the default one. -/
theorem ProcessingSettings.validateMarker_reports (settings : ProcessingSettings) :
    Reports (settings.markerFaults language) (settings.validateMarker language) := by
  rw [markerFaults, validateMarker]
  cases settings.escapeMarker with
  | none => exact .ok _
  | some marker =>
    simp only [Option.some.injEq, ← String.isEmpty_iff]
    split
    case isTrue => exact .error _ []
    case isFalse => exact .ok _

/-- A marker that is accepted is the one with which names are marked. -/
theorem ProcessingSettings.escaping_of_validateMarker {settings : ProcessingSettings}
    {escaping : EscapeRule} (accepted : settings.validateMarker language = .ok escaping) :
    settings.escaping = escaping := by
  rw [ProcessingSettings.escaping]
  rw [validateMarker] at accepted
  cases given : settings.escapeMarker with
  | none =>
    rw [given] at accepted
    exact Except.ok.inj accepted
  | some marker =>
    rw [given] at accepted
    dsimp only at accepted
    split at accepted
    · contradiction
    · exact Except.ok.inj accepted

/-- The first word with the marker in front is the one that is reported, in the order in which words
are kept. The marker is the one that the check before has accepted. -/
theorem ProcessingSettings.validateWords_reports (settings : ProcessingSettings) :
    Reports (settings.wordFaults language)
      (settings.validateWords language settings.escaping) := by
  rw [wordFaults, validateWords]
  intro error
  rw [List.head?_map, List.head?_filter]
  cases (ReservedWords.ofList (settings.reservedWords.getD [])).words.find?
      settings.escaping.isEscaped with
  | none => simp [pure, Except.pure]
  | some word => simp [throw, throwThe, MonadExceptOf.throw]

/-- The first of the faults of a language is what its author is told. -/
theorem LanguageSettings.validate_reports (settings : LanguageSettings) :
    Reports (settings.faults language) (settings.validate language) := by
  rw [faults, validate]
  simp only [List.append_assoc]
  refine .bind (reports_required _ _ _) fun processing given => ?_
  rw [required_ok_iff] at given
  rw [given, Option.getD_some]
  refine .bind (reports_required _ _ _) fun outputPath _ => ?_
  refine .bind (reports_required _ _ _) fun propertyRegex written => ?_
  refine .bind (reports_required _ _ _) fun options _ => ?_
  refine .bind (processing.validateMarker_reports language) fun escaping marked => ?_
  obtain rfl := ProcessingSettings.escaping_of_validateMarker language marked
  refine .bind (processing.validateWords_reports language) fun reserved _ => ?_
  rw [required_ok_iff] at written
  rw [written, Option.getD_some]
  refine .bind (propertyRegex.validate_reports language _) fun restoring _ => ?_
  have aliased (custom : Option CustomTypes) :=
    (UnionSettings.validate_reports language (processing.unionType.getD {})).map
      (Language.mk language options outputPath reserved processing.escaping restoring custom)
  cases processing.customMapping with
  | none => exact aliased none
  | some mapping =>
    exact .bind ((mapping.validate_reports language).map some) fun custom _ => aliased custom

end

/-! ## Every fault names the language -/

section

variable (language field : String)

/-- All of some faults name a language. -/
def Config.AllName (faults : List ConfigError) : Prop :=
  ∀ fault ∈ faults, fault.language? = some language

/-- All of two lists of faults name a language if those of each do. -/
theorem Config.allName_append {faults more : List ConfigError} :
    AllName language (faults ++ more) ↔ AllName language faults ∧ AllName language more :=
  List.forall_mem_append

/-- A value that is absent is missed by its language. -/
theorem Config.allName_absence {α : Type} (value : Option α) :
    AllName language (absence language field value) := by
  cases value <;> simp [AllName, ConfigError.language?]

/-- What cannot be compiled is refused with the name of its language. -/
theorem Config.allName_refusal {α : Type} (compiled : Option (Except RuleError α)) :
    AllName language (refusal language field compiled) := by
  rcases compiled with _ | _ | _ <;> simp [AllName, refusal, ConfigError.language?]

/-- The faults of a rule name the language of the rule, wherever in its settings the rule stands. -/
theorem RuleSettings.allName_faults (settings : RuleSettings) :
    AllName language (settings.faults language field) := by
  simp [faults, allName_append, allName_absence, allName_refusal]

/-- The faults of a replaced type name its language. -/
theorem TypeMappingSettings.allName_faults (settings : TypeMappingSettings) :
    AllName language (settings.faults language field) := by
  simp [faults, allName_append, allName_absence, allName_refusal]

/-- The faults of declarations and of all replaced types name the same language; they differ in the
index of the field. -/
theorem CustomMappingSettings.allName_faults (settings : CustomMappingSettings) :
    AllName language (settings.faults language) := by
  rw [faults, allName_append]
  constructor
  · rw [anchorFaults]
    split
    case h_1 anchor _ =>
      simp [PatternSettings.faults, allName_append, allName_absence, allName_refusal]
    case h_2 =>
      split <;> simp [AllName, ConfigError.language?]
  · intro fault member
    obtain ⟨entry, _, member⟩ := List.mem_flatMap.mp member
    exact entry.1.allName_faults language _ fault member

/-- The faults of an alias name its language. -/
theorem UnionSettings.allName_faults (settings : UnionSettings) :
    AllName language (settings.faults language) := by
  rw [faults]
  split
  case isFalse => simp [AllName]
  case isTrue =>
    simp only [allName_append, allName_absence, true_and]
    rw [templateFaults]
    split
    · split <;> simp [AllName, ConfigError.language?]
    · simp [AllName]

/-- The fault of a marker names its language. -/
theorem ProcessingSettings.allName_markerFaults (settings : ProcessingSettings) :
    AllName language (settings.markerFaults language) := by
  rw [markerFaults]
  split <;> simp [AllName, ConfigError.language?]

/-- The faults of reserved words name the language that reserves them. -/
theorem ProcessingSettings.allName_wordFaults (settings : ProcessingSettings) :
    AllName language (settings.wordFaults language) := by
  intro fault member
  obtain ⟨word, _, rfl⟩ := List.mem_map.mp member
  rfl

/-- Every fault of the settings of a language names this language. A fault of another one, or one
that names none, is not among them. -/
theorem LanguageSettings.allName_faults (settings : LanguageSettings) :
    AllName language (settings.faults language) := by
  simp only [faults, allName_append, allName_absence, ProcessingSettings.allName_markerFaults,
    ProcessingSettings.allName_wordFaults, RuleSettings.allName_faults,
    CustomMappingSettings.allName_faults, UnionSettings.allName_faults, and_self]

end

/-- Settings are accepted exactly if they are complete. Those that are not are refused with the
first of their faults, and it names the language. -/
theorem LanguageSettings.validate_first_fault (settings : LanguageSettings) (language : String) :
    ((∃ accepted, settings.validate language = .ok accepted) ↔ settings.Complete) ∧
      (settings.Complete ↔ settings.faults language = []) ∧
      (∀ error, settings.validate language = .error error ↔
        (settings.faults language).head? = some error) ∧
      ∀ fault ∈ settings.faults language, fault.language? = some language := by
  have reports := settings.validate_reports language
  have faultless := settings.faults_eq_nil_iff language
  exact ⟨reports.ok_iff.trans faultless, faultless.symm, reports,
    settings.allName_faults language⟩

/-- An entry without flags behind a complete one is told by its own index, and before the template
of the union that has no mark for a member. -/
example : LanguageSettings.faults {
      rendererOptions := some []
      processing := some {
        outputDir := some "bindings"
        propertyRegex := some ⟨some "quicktype_", some "g", some ""⟩
        customMapping := some {
          typeMappings := some [⟨some ⟨some "Any", some "g"⟩, some "object"⟩,
            ⟨some ⟨some "Date", none⟩, some "string"⟩] }
        unionType := some ⟨some true, some "Union", some " | "⟩ } } "go" =
    [.missingField "go" "processing.customMapping.typeMappings[1].fromType.flags",
      .invalidValue "go" "processing.unionType.template" .noMemberMark] := by
  decide +kernel

end SchemaBindings
