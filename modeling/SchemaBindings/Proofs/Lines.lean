import SchemaBindings.Proofs.RoundTrip
import SchemaBindings.Proofs.Sweeps

/-!
# Restoring names in lines of text

A rule restores a name of the schema by itself, but in the generated text the name stands
in a line, among others and with punctuation between them. The rule is applied to the line
as a whole, and then it depends on the rule whether every name in the line becomes what it
is in the restored schema.

It does if the rule is applied everywhere, if it reads at least one character, none of them
of the punctuation, and if it asks for nothing around a match but word characters. Any of
these can fail for a rule that restores the names of the schema one by one. And only if the
punctuation has no character of the marker is it certain that none is left in the line.
-/
namespace SchemaBindings

open Pattern

/-- A line of names, with a text before each of them and one at the end. -/
def spaced : List (String × String) → String → String
  | [], last => last
  | (gap, name) :: parts, last => gap ++ name ++ spaced parts last

/-- The same line with other names. -/
def changed (change : String → String) (parts : List (String × String)) :
    List (String × String) :=
  parts.map fun part => (part.1, change part.2)

/-- Whether the texts around the names of a line have only characters of one kind, and none of them
before the last is empty. -/
structure Separated (kind : Char → Prop) (parts : List (String × String)) (last : String) :
    Prop where
  present : ∀ part ∈ parts, part.1 ≠ ""
  between : ∀ part ∈ parts, ∀ character ∈ part.1.toList, kind character
  behind : ∀ character ∈ last.toList, kind character

section Separated

variable {kind : Char → Prop} {parts : List (String × String)} {last : String}

instance [DecidablePred kind] : Decidable (Separated kind parts last) :=
  -- Not all characters there are, but those of the text are looked at.
  let _ : ∀ text : String, Decidable (∀ character ∈ text.toList, kind character) :=
    fun _ => List.decidableBAll _ _
  decidable_of_iff ((∀ part ∈ parts, part.1 ≠ "") ∧
      (∀ part ∈ parts, ∀ character ∈ part.1.toList, kind character) ∧
      ∀ character ∈ last.toList, kind character)
    ⟨fun ⟨present, between, behind⟩ => ⟨present, between, behind⟩,
      fun ⟨present, between, behind⟩ => ⟨present, between, behind⟩⟩

/-- Parts that are apart stay apart without the first one. -/
theorem Separated.tail {part : String × String} (apart : Separated kind (part :: parts) last) :
    Separated kind parts last :=
  ⟨fun other member => apart.present other (List.mem_cons_of_mem _ member),
    fun other member => apart.between other (List.mem_cons_of_mem _ member), apart.behind⟩

/-- A line begins with the text before its first name. -/
theorem Separated.head (apart : Separated kind parts last) :
    ∀ character ∈ (spaced parts last).toList.head?, kind character := by
  intro character first
  cases parts with
  | nil => exact apart.behind character (List.mem_of_mem_head? first)
  | cons part parts =>
    have some : part.1.toList ≠ [] := by
      simpa using apart.present part List.mem_cons_self
    refine apart.between part List.mem_cons_self character (List.mem_of_mem_head? ?_)
    simpa [spaced, List.head?_append_of_ne_nil _ some] using first

/-- The texts around the names do not depend on the names. -/
theorem Separated.changed (apart : Separated kind parts last) (change : String → String) :
    Separated kind (changed change parts) last := by
  refine ⟨fun part member => ?_, fun part member => ?_, apart.behind⟩ <;>
    obtain ⟨before, present, rfl⟩ := List.mem_map.mp member
  · exact apart.present before present
  · exact apart.between before present

end Separated

namespace Rule

variable {rule : Rule} {parts : List (String × String)} {last : String}

/-- A rule that is applied everywhere replaces all matches of its program. -/
theorem toList_apply (everywhere : rule.everywhere = true) (held : rule.regex.program.Local)
    (text : String) :
    (rule.apply text).toList =
      rule.regex.program.resume text.toList.length (expand rule.template rule.regex text.toList) 0
        text.toList
        (rule.regex.program.search (text.toList.length + 1) (.start text.toList) {}) := by
  have inside : (Cursor.start text.toList).index + (Cursor.start text.toList).after.length =
      text.toList.length := Nat.zero_add _
  have enough : (Cursor.start text.toList).after.length < 2 * text.toList.length + 2 := by
    simp only [Cursor.start]
    omega
  rw [apply, String.toList_ofList, matched, if_pos everywhere, Program.matches,
    held.matchesFrom_eq inside enough]
  exact held.splice_onward inside _

/-- From where a name begins on, between texts that can have no part in a match, the name is replaced
by what the rule makes of it, and replacing goes on behind it. -/
theorem resume_name (everywhere : rule.everywhere = true) (held : rule.regex.program.Local)
    {whole before after : List Char} {name : String} {edge : Option Char} {tried : Tried}
    (placed : whole = before ++ name.toList ++ after)
    (front : ∀ character ∈ edge, rule.regex.program.Passes character)
    (rear : ∀ character ∈ after.head?, rule.regex.program.Passes character)
    (free : Fresh before.length tried) :
    ∃ later, Fresh ((before ++ name.toList).length + 1) later ∧
      rule.regex.program.resume whole.length (expand rule.template rule.regex whole) before.length
          (name.toList ++ after)
          (rule.regex.program.search (whole.length + 1)
            ⟨before.length, edge, name.toList ++ after⟩ tried) =
        (rule.apply name).toList ++
          rule.regex.program.resume whole.length (expand rule.template rule.regex whole)
            (before ++ name.toList).length after
            (rule.regex.program.searchAfter (whole.length + 1) (before ++ name.toList).length later
              after) := by
  -- The name is a part of the line that the program cannot look beyond.
  let part : Part := ⟨before.length, name.toList.length, edge, after⟩
  have confines : part.Confines rule.regex.program :=
    ⟨⟨fun character last => (front character last).1,
        fun character next => (rear character next).1⟩,
      fun set member character next => (rear character next).2 set member, held.boundaries⟩
  have length : part.offset + part.length + part.after.length = whole.length := by
    simp only [placed, part, List.length_append]
  have inside : part.Inside (.start name.toList) := Nat.zero_add _
  have alone (found : Match) (matching : part.Holds found) :
      expand rule.template rule.regex whole (part.found found) =
        expand rule.template rule.regex name.toList found :=
    placed ▸ Part.expand_found rule.template rule.regex matching
  have above : before.length ≤ before.length + name.toList.length + 1 := by omega
  obtain ⟨later, beyond, replaced⟩ := confines.resume held length alone inside
    (Part.alike_of_fresh free) (free.mono above)
  rw [List.length_append]
  refine ⟨later, beyond, ?_⟩
  rw [toList_apply everywhere held name]
  simpa [part, Part.place, Cursor.start] using replaced

/-- From the end of a part of a line on, where there is no match, the names that follow are replaced
by what the rule makes of each of them. -/
theorem resume_spaced (everywhere : rule.everywhere = true) (held : rule.regex.program.Local)
    {whole : List Char} (spaces : Separated rule.regex.program.Passes parts last) :
    ∀ (before : List Char) (tried : Tried), whole = before ++ (spaced parts last).toList →
      Fresh (before.length + 1) tried →
      rule.regex.program.resume whole.length (expand rule.template rule.regex whole) before.length
          (spaced parts last).toList
          (rule.regex.program.searchAfter (whole.length + 1) before.length tried
            (spaced parts last).toList) =
        (spaced (changed rule.apply parts) last).toList := by
  induction parts with
  | nil =>
    intro before tried _ fresh
    rw [spaced, held.searchAfter_end (Nat.succ_pos _) spaces.behind fresh]
    rfl
  | cons part parts inductionHypothesis =>
    obtain ⟨gap, name⟩ := part
    intro before tried same fresh
    have split : (spaced ((gap, name) :: parts) last).toList =
        gap.toList ++ (name.toList ++ (spaced parts last).toList) := by
      simp [spaced]
    have placed : whole = before ++ gap.toList ++ name.toList ++ (spaced parts last).toList := by
      simp [same, split]
    have some : gap.toList ≠ [] := by
      simpa using spaces.present (gap, name) List.mem_cons_self
    have passes := spaces.between (gap, name) List.mem_cons_self
    -- The search goes on over the text before the name, then over the name, then over the rest.
    obtain ⟨later, free, reached⟩ := held.searchAfter_gap (Nat.succ_pos whole.length) passes some
      (name.toList ++ (spaced parts last).toList) fresh
    obtain ⟨further, beyond, replaced⟩ := resume_name everywhere held placed
      (fun character final => passes character (List.mem_of_getLast? final)) spaces.tail.head
      (by simpa using free)
    have names := inductionHypothesis spaces.tail (before ++ gap.toList ++ name.toList) further
      placed beyond
    have position : (before ++ gap.toList).length = before.length + gap.toList.length :=
      List.length_append
    rw [split, reached, Program.resume_append _ _ fun found matched =>
      Program.le_start_of_search matched, ← position, replaced, names]
    simp [changed, spaced]

/-- A rule that is applied everywhere replaces every name in a line by what it makes of the name by
itself, and keeps the texts between them, if these can have no part in a match. -/
theorem apply_spaced (everywhere : rule.everywhere = true) (held : rule.regex.program.Local)
    (spaces : Separated rule.regex.program.Passes parts last) :
    rule.apply (spaced parts last) = spaced (changed rule.apply parts) last := by
  have edge : ∀ character ∈ (Cursor.start (spaced parts last).toList).before,
      Unicode.isWord character = false := by
    simp [Cursor.start]
  obtain ⟨tried, failed, fresh⟩ := held.matchAt_gap
    (Nat.succ_pos (spaced parts last).toList.length) (.start _) (fresh_empty _) edge spaces.head
  have begun := Program.search_of_error failed
  rw [← String.toList_inj, toList_apply everywhere held]
  exact begun ▸ resume_spaced everywhere held spaces [] tried rfl fresh

/-- The same of a line that begins with a name. -/
theorem apply_append_spaced (everywhere : rule.everywhere = true)
    (held : rule.regex.program.Local)
    (spaces : Separated rule.regex.program.Passes parts last) (name : String) :
    rule.apply (name ++ spaced parts last) =
      rule.apply name ++ spaced (changed rule.apply parts) last := by
  have placed : (name ++ spaced parts last).toList =
      [] ++ name.toList ++ (spaced parts last).toList := String.toList_append
  have front : ∀ character ∈ (none : Option Char), rule.regex.program.Passes character := by simp
  obtain ⟨later, beyond, replaced⟩ :=
    resume_name everywhere held placed front spaces.head (fresh_empty _)
  have others := resume_spaced everywhere held spaces name.toList later String.toList_append beyond
  rw [List.nil_append, others, ← String.toList_append, ← String.toList_append] at replaced
  rw [← String.toList_inj, toList_apply everywhere held]
  exact replaced

end Rule

/-! A text that has no character of the marker cannot help to form one. -/

section Markers

variable {marker : List Char}

/-- A text is a part of what follows characters that it does not have. -/
theorem infix_of_infix_gap {gap rest : List Char} (some : marker ≠ [])
    (apart : ∀ character ∈ marker, character ∉ gap) (found : marker <:+: gap ++ rest) :
    marker <:+: rest := by
  induction gap with
  | nil => exact found
  | cons first gap inductionHypothesis =>
    rcases List.infix_cons_iff.mp found with starts | later
    · obtain ⟨character, others, rfl⟩ := List.exists_cons_of_ne_nil some
      obtain ⟨rfl, _⟩ := List.cons_prefix_cons.mp starts
      exact absurd List.mem_cons_self (apart character List.mem_cons_self)
    · exact inductionHypothesis (fun character member inside =>
        apart character member (List.mem_cons_of_mem _ inside)) later

/-- A text that occurs around a character which it does not have occurs before or after it. -/
theorem infix_of_infix_around {before after : List Char} {character : Char}
    (apart : character ∉ marker) (found : marker <:+: before ++ character :: after) :
    marker <:+: before ∨ marker <:+: after := by
  obtain ⟨start, tail, same⟩ := found
  rw [List.append_assoc] at same
  rcases List.append_eq_append_iff.mp same with ⟨between, rfl, split⟩ | ⟨between, rfl, split⟩
  · rcases List.append_eq_append_iff.mp split with ⟨inner, rfl, _⟩ | ⟨inner, rfl, cut⟩
    · exact .inl ⟨start, inner, by simp⟩
    · cases inner with
      | nil => exact .inl ⟨start, [], by simp⟩
      | cons first inner =>
        obtain ⟨rfl, _⟩ := List.cons.inj cut
        simp at apart
  · cases between with
    | nil =>
      obtain _ | ⟨first, others⟩ := marker
      · exact .inl List.nil_infix
      · obtain ⟨rfl, _⟩ := List.cons.inj split
        simp at apart
    | cons first between =>
      obtain ⟨_, rfl⟩ := List.cons.inj split
      exact .inr ⟨between, tail, List.append_assoc _ _ _⟩

/-- Names without the marker stay without it in a line whose other texts have no character of it. -/
theorem not_infix_spaced {parts : List (String × String)} {last : String} (some : marker ≠ [])
    (apart : Separated (· ∉ marker) parts last)
    (free : ∀ part ∈ parts, ¬ marker <:+: part.2.toList) :
    ¬ marker <:+: (spaced parts last).toList := by
  induction parts with
  | nil =>
    intro found
    have within : marker <:+: last.toList ++ [] := by simpa [spaced] using found
    have nothing := infix_of_infix_gap some
      (fun character member inside => apart.behind character inside member) within
    exact some (List.infix_nil.mp nothing)
  | cons part parts inductionHypothesis =>
    intro found
    have within : marker <:+: part.1.toList ++ (part.2.toList ++ (spaced parts last).toList) := by
      simpa [spaced] using found
    have later := infix_of_infix_gap some (fun character member inside =>
      apart.between part List.mem_cons_self character inside member) within
    have unmarked := free part List.mem_cons_self
    cases rest : (spaced parts last).toList with
    | nil => exact unmarked (by simpa [rest] using later)
    | cons character others =>
      have other : character ∉ marker := apart.tail.head character (by simp [rest])
      rw [rest] at later
      rcases infix_of_infix_around other later with before | after
      · exact unmarked before
      · refine inductionHypothesis apart.tail (fun part member =>
          free part (List.mem_cons_of_mem _ member)) ?_
        rw [rest]
        exact after.trans (List.suffix_cons character others).isInfix

end Markers

/-- A line has every one of its names. -/
theorem infix_spaced {parts : List (String × String)} {part : String × String}
    (member : part ∈ parts) (last : String) :
    part.2.toList <:+: (spaced parts last).toList := by
  induction parts with
  | nil => contradiction
  | cons first parts inductionHypothesis =>
    simp only [spaced, String.toList_append]
    rcases List.mem_cons.mp member with rfl | later
    · exact List.infix_append _ _ _
    · exact (inductionHypothesis later).trans (List.suffix_append _ _).isInfix

/-- A line with a marked name is looked at, and restored name by name. -/
theorem restoreLine_spaced {rule : EscapeRule} {restoring : Rule} {parts : List (String × String)}
    {last : String} {part : String × String} (everywhere : restoring.everywhere = true)
    (held : restoring.regex.program.Local)
    (spaces : Separated restoring.regex.program.Passes parts last) (member : part ∈ parts)
    (marked : rule.occursIn part.2 = true) :
    restoreLine rule.marker restoring (spaced parts last) =
      spaced (changed restoring.apply parts) last := by
  have within : rule.marker.toList <:+: (spaced parts last).toList :=
    ((Text.occurs_iff _ _).mp marked).trans (infix_spaced member last)
  rw [restoreLine, if_pos ((Text.occurs_iff _ _).mpr within),
    Rule.apply_spaced everywhere held spaces]

/-- A line of names without the marker has no marker, if its other texts have no character of it. -/
theorem EscapeRule.occursIn_spaced {rule : EscapeRule} {parts : List (String × String)}
    {last : String} (some : parts ≠ [])
    (apart : Separated (· ∉ rule.marker.toList) parts last)
    (free : ∀ part ∈ parts, rule.occursIn part.2 = false) :
    rule.occursIn (spaced parts last) = false := by
  have unmarked (part : String × String) (member : part ∈ parts) :
      ¬ rule.marker.toList <:+: part.2.toList := by
    rw [← Text.occurs_iff, Bool.not_eq_true]
    exact free part member
  have nonempty : rule.marker.toList ≠ [] := by
    obtain ⟨part, member⟩ := List.exists_mem_of_ne_nil parts some
    exact fun empty => unmarked part member (empty ▸ List.nil_infix)
  have absent := not_infix_spaced nonempty apart unmarked
  rw [← Text.occurs_iff, Bool.not_eq_true] at absent
  exact absent

/-- What a name is in a restored schema, it is in every place that it had in the marked one. -/
theorem Schema.names_restored {rule : EscapeRule} {restoring : Rule} {schema : Schema}
    {name : String} (marked : rule.occursIn name = true) :
    List.Forall₂ (fun before after => ∀ index : Nat,
        (Table.keys before.2.properties)[index]? = some name →
        (Table.keys after.2.properties)[index]? = some (restoring.apply name))
      schema.objects (schema.renamed (rule.restored restoring)).objects := by
  refine (forall₂_objects_renamed_iff (fun before after => ∀ index : Nat,
    before.names[index]? = some name → after.names[index]? = some (restoring.apply name)) _
    schema).mpr fun shape _ index present => ?_
  rw [Node.names_renamedObject, List.getElem?_map, present, Option.map_some,
    EscapeRule.restored, if_pos marked]

/-- A schema that a run has prepared for a validated language can be restored, and a line of its
marked names becomes the line of what these are in the restored schema, if the rule is applied
everywhere and depends on nothing but the names. The marker is then left in no such line, if it has
no character of the texts between the names. -/
theorem Run.restoreLines_spaced (settings : Settings) (services : Services)
    (chosen : LanguageSettings) (id : String) (language : Language) (raw : Json)
    (prepared : PreparedSchema) (world between after : World)
    (validated : chosen.validate id = .ok language)
    (extracted : (Run.extract settings services).run.run world = (.ok raw, between))
    (distinct : raw.Distinct)
    (ready : (Run.prepare settings services language).run.run world = (.ok prepared, after))
    (everywhere : language.restoring.everywhere = true)
    (held : language.restoring.regex.program.Local) :
    ∃ restored count,
      prepared.escaped.restore language.escaping language.restoring = (restored, .ok count) ∧
      ∀ parts last, parts ≠ [] →
        (∀ part ∈ parts, language.escaping.produces language.reserved part.2 = true ∧
          ∃ shape ∈ prepared.escaped.shapes, part.2 ∈ shape.names) →
        Separated language.restoring.regex.program.Passes parts last →
        (∀ (lines : List String) (index : Nat), lines[index]? = some (spaced parts last) →
          (restoreLines language.escaping.marker language.restoring lines)[index]? =
            some (spaced (changed language.restoring.apply parts) last)) ∧
        (∀ part ∈ parts, List.Forall₂ (fun before after => ∀ index : Nat,
            (Table.keys before.2.properties)[index]? = some part.2 →
            (Table.keys after.2.properties)[index]? = some (language.restoring.apply part.2))
          prepared.escaped.objects restored.objects) ∧
        (Separated (· ∉ language.escaping.marker.toList) parts last →
          language.escaping.occursIn (spaced (changed language.restoring.apply parts) last) =
            false) := by
  have accepted := Run.accepted_of_prepare extracted ready
  obtain ⟨schema, read, ended, _, checked, _⟩ :=
    (settings.prepareValue_ok_iff language raw prepared).mp accepted
  have spares := LanguageSettings.validate_spares validated
  have apart := ((Schema.ofJson_distinct read distinct).enveloped
    settings.schema.envelope).escaped spares ended
  obtain ⟨count, back⟩ := Schema.restore_of_checked apart checked
  refine ⟨_, count, back, fun parts last some named spaces => ⟨?_, ?_, ?_⟩⟩
  · intro lines index present
    obtain ⟨part, member⟩ := List.exists_mem_of_ne_nil parts some
    have marked := EscapeRule.occursIn_of_produces _ _ _ (named part member).1
    rw [restoreLines, List.getElem?_map, present, Option.map_some,
      restoreLine_spaced everywhere held spaces member marked]
  · intro part member
    exact Schema.names_restored (EscapeRule.occursIn_of_produces _ _ _ (named part member).1)
  · intro separate
    refine EscapeRule.occursIn_spaced (by simpa [changed] using some) (separate.changed _) ?_
    intro after member
    obtain ⟨before, listed, rfl⟩ := List.mem_map.mp member
    obtain ⟨produced, shape, object, present⟩ := named before listed
    have restorable := (Schema.checkRoundTrip_ok_iff _).mp checked shape object
    exact restorable.unmarked before.2 present produced

/-- Settings that reserve one word, with a marker and a rule. -/
def LanguageSettings.marking (marker word pattern flags replacement : String) :
    LanguageSettings where
  rendererOptions := some []
  processing := some {
    outputDir := some "generated.py"
    escapeMarker := some marker
    reservedWords := some [word]
    propertyRegex := some ⟨some pattern, some flags, some replacement⟩ }

/-- The language that these settings ask for, with the rule as it is compiled. -/
def Language.marking (marker word : String) (restoring : Rule) : Language where
  id := "python"
  options := []
  outputPath := "generated.py"
  reserved := ⟨[word]⟩
  escaping := ⟨marker⟩
  restoring
  custom := none
  union := ⟨false, "", ""⟩

/-- These settings are complete if the marker is not empty, the word does not begin with it and the
rule can be compiled. -/
theorem LanguageSettings.marking_validate {marker word pattern flags replacement : String}
    {restoring : Rule} (nonempty : marker.isEmpty = false)
    (spared : EscapeRule.isEscaped ⟨marker⟩ word = false)
    (compiled : Rule.compile pattern flags replacement = .ok restoring) :
    (marking marker word pattern flags replacement).validate "python" =
      .ok (.marking marker word restoring) := by
  have rule : RuleSettings.validate ⟨some pattern, some flags, some replacement⟩ "python"
      "processing.propertyRegex" = .ok restoring := by
    simp [RuleSettings.validate, Config.required, compiled, bind, Except.bind, pure, Except.pure]
  have words (settings : ProcessingSettings) (reserved : settings.reservedWords = some [word]) :
      settings.validateWords "python" ⟨marker⟩ = .ok ⟨[word]⟩ := by
    have single : ReservedWords.ofList [word] = ⟨[word]⟩ := rfl
    simp [ProcessingSettings.validateWords, reserved, single, spared, pure, Except.pure]
  simp only [validate, marking, Config.required, bind, Except.bind, rule,
    ProcessingSettings.validateMarker, nonempty, Bool.false_eq_true, if_false, pure, Except.pure,
    words]
  rfl

/-- The schema that is prepared of the document with one property, which is reserved. -/
def Schema.markedBy (marker word : String) : Schema :=
  (((Schema.demanding word).enveloped ({} : Settings).schema.envelope).escape ⟨[word]⟩ ⟨marker⟩).1

/-- The document with one property is prepared if the parts of its preparation succeed. -/
theorem Run.prepare_marking {marker word : String} {restoring : Rule} {count : Nat}
    (ended : (((Schema.demanding word).enveloped ({} : Settings).schema.envelope).escape
      ⟨[word]⟩ ⟨marker⟩).2 = .ok count)
    (declared : (Schema.markedBy marker word).violations = [])
    (checked : (Schema.markedBy marker word).checkRoundTrip ⟨[word]⟩ ⟨marker⟩ restoring =
      .ok ()) :
    (Run.prepare {} (.answering (.demanding word)) (.marking marker word restoring)).run.run
        ⟨.empty, []⟩ =
      (.ok ⟨.demanding word, Schema.markedBy marker word, count⟩,
        ⟨.empty, [.extract "Instruction"]⟩) :=
  Run.prepare_answering (.marking marker word restoring) (Schema.ofJson_demanding word)
    (Prod.ext rfl ended) declared checked

/-- A line with the same name at two places, of which both are restored. -/
theorem Run.restoreLines_spaced_at_two_places :
    ∃ restoring prepared after restored count,
      (LanguageSettings.marking "quicktype_" "else" "\\bquicktype_" "g" "py_").validate "python" =
        .ok (.marking "quicktype_" "else" restoring) ∧
      (Json.demanding "else").Distinct ∧
      (Run.prepare {} (.answering (.demanding "else"))
        (.marking "quicktype_" "else" restoring)).run.run ⟨.empty, []⟩ = (.ok prepared, after) ∧
      restoring.everywhere = true ∧ restoring.regex.program.Local ∧
      prepared.escaped.restore ⟨"quicktype_"⟩ restoring = (restored, .ok count) ∧
      (restoreLines "quicktype_" restoring
        ["class Cond:", "  quicktype_else: quicktype_else, "])[1]? =
          some "  py_else: py_else, " ∧
      EscapeRule.occursIn ⟨"quicktype_"⟩ "  py_else: py_else, " = false := by
  let parts := [("  ", "quicktype_else"), (": ", "quicktype_else")]
  have judged : (Rule.compile "\\bquicktype_" "g" "py_").toOption.map (fun restoring =>
      (((Schema.markedBy "quicktype_" "else").checkRoundTrip ⟨["else"]⟩ ⟨"quicktype_"⟩
        restoring).toOption, restoring.everywhere, decide restoring.regex.program.Local,
        decide (Separated restoring.regex.program.Passes parts ", "),
        spaced (changed restoring.apply parts) ", ")) =
      some (some (), true, true, true, "  py_else: py_else, ") := by decide +kernel
  obtain ⟨restoring, compiled, facts⟩ := Option.map_eq_some_iff.mp judged
  simp only [Prod.mk.injEq, toOption_eq_some_iff, decide_eq_true_eq] at compiled facts
  obtain ⟨checked, everywhere, held, spaces, made⟩ := facts
  have validated : (LanguageSettings.marking "quicktype_" "else" _ _ _).validate "python" = _ :=
    LanguageSettings.marking_validate rfl rfl compiled
  have ended : (((Schema.demanding "else").enveloped ({} : Settings).schema.envelope).escape
      ⟨["else"]⟩ ⟨"quicktype_"⟩).2 = .ok 1 := rfl
  have ready := Run.prepare_marking ended (by decide) checked
  have distinct : (Json.demanding "else").Distinct := by decide
  obtain ⟨restored, count, back, each⟩ := Run.restoreLines_spaced {}
    (.answering (.demanding "else")) _ "python" _ (.demanding "else") _ ⟨.empty, []⟩ _ _ validated
    rfl distinct ready everywhere held
  have named : ∀ part ∈ parts, EscapeRule.produces ⟨"quicktype_"⟩ ⟨["else"]⟩ part.2 = true ∧
      ∃ shape ∈ (Schema.markedBy "quicktype_" "else").shapes, part.2 ∈ shape.names := by decide
  have apart : Separated (· ∉ "quicktype_".toList) parts ", " := by decide
  obtain ⟨line, _, free⟩ := each parts ", " (by decide) named spaces
  exact ⟨restoring, _, _, restored, count, validated, distinct, ready, everywhere, held, back,
    (line ["class Cond:", spaced parts ", "] 1 rfl).trans (congrArg some made),
    (congrArg (EscapeRule.occursIn ⟨"quicktype_"⟩) made).symm.trans (free apart)⟩

/-- Whether the names of a line are marked, but the line, which has nothing else than characters
that are not word characters and nowhere the marker, becomes another than the line of the restored
names, or has the marker afterwards. -/
def Run.Garbles (marker word pattern flags replacement : String) (parts : List (String × String))
    (last line : String) : Prop :=
  ∃ restoring prepared after,
    (LanguageSettings.marking marker word pattern flags replacement).validate "python" =
      .ok (.marking marker word restoring) ∧
    (Json.demanding word).Distinct ∧
    (Run.prepare {} (.answering (.demanding word)) (.marking marker word restoring)).run.run
      ⟨.empty, []⟩ = (.ok prepared, after) ∧
    (parts ≠ [] ∧ last ≠ "" ∧ Separated (Unicode.isWord · = false) parts last ∧
      (∀ text ∈ last :: parts.map Prod.fst, EscapeRule.occursIn ⟨marker⟩ text = false) ∧
      ∀ part ∈ parts, EscapeRule.produces ⟨marker⟩ ⟨[word]⟩ part.2 = true ∧
        ∃ shape ∈ prepared.escaped.shapes, part.2 ∈ shape.names) ∧
    restoreLines marker restoring [spaced parts last] = [line] ∧
    ¬ (line = spaced (changed restoring.apply parts) last ∧
      EscapeRule.occursIn ⟨marker⟩ line = false)

/-- A line is garbled if the rule compiles, is accepted by the check, and makes another line of it
than it should. -/
theorem Run.garbles_of_rule {marker word pattern flags replacement last line : String}
    {parts : List (String × String)} (expected : String) (nonempty : marker.isEmpty = false)
    (spared : EscapeRule.isEscaped ⟨marker⟩ word = false)
    (distinct : (Json.demanding word).Distinct)
    (ended : (((Schema.demanding word).enveloped ({} : Settings).schema.envelope).escape
      ⟨[word]⟩ ⟨marker⟩).2 = .ok 1)
    (declared : (Schema.markedBy marker word).violations = [])
    (laid : parts ≠ [] ∧ last ≠ "" ∧ Separated (Unicode.isWord · = false) parts last ∧
      (∀ text ∈ last :: parts.map Prod.fst, EscapeRule.occursIn ⟨marker⟩ text = false) ∧
      ∀ part ∈ parts, EscapeRule.produces ⟨marker⟩ ⟨[word]⟩ part.2 = true ∧
        ∃ shape ∈ (Schema.markedBy marker word).shapes, part.2 ∈ shape.names)
    (judged : (Rule.compile pattern flags replacement).toOption.map (fun restoring =>
      (((Schema.markedBy marker word).checkRoundTrip ⟨[word]⟩ ⟨marker⟩ restoring).toOption,
        restoreLines marker restoring [spaced parts last],
        spaced (changed restoring.apply parts) last)) = some (some (), [line], expected))
    (differs : ¬ (line = expected ∧ EscapeRule.occursIn ⟨marker⟩ line = false)) :
    Garbles marker word pattern flags replacement parts last line := by
  obtain ⟨restoring, compiled, facts⟩ := Option.map_eq_some_iff.mp judged
  simp only [Prod.mk.injEq, toOption_eq_some_iff] at compiled facts
  obtain ⟨checked, made, rfl⟩ := facts
  exact ⟨restoring, _, _, LanguageSettings.marking_validate nonempty spared compiled, distinct,
    Run.prepare_marking ended declared checked, laid, made, differs⟩

/-- Lines of names that can be restored one by one are garbled by a rule that is not applied
everywhere, by one that asks for the beginning and the end of the text, by one that reads what is
between the names, and by one that matches where nothing is. And what is left of a name can form
the marker with what follows it. -/
theorem Run.restoreLines_garbles :
    Garbles "quicktype_" "else" "quicktype_" "" "py_"
        [(" ", "quicktype_else"), (": ", "quicktype_else")] " " " py_else: quicktype_else " ∧
      Garbles "quicktype_" "else" "^quicktype_" "g" "py_"
        [(" ", "quicktype_else")] " " " quicktype_else " ∧
      Garbles "quicktype-" "else" "-" "g" "_"
        [(" ", "quicktype-else")] " - " " quicktype_else _ " ∧
      Garbles "q_" "if" "" "g" "-" [(" ", "q_if")] " " "- -q-_-i-f- -" ∧
      Garbles "q-" "elsq" "\\bq" "g" "" [(" ", "q-elsq")] "- " " -elsq- " := by
  refine ⟨?once, ?anchored, ?reading, ?empty, ?formed⟩
  case once =>
    exact garbles_of_rule " py_else: py_else " rfl rfl (by decide) rfl (by decide) (by decide)
      (by decide +kernel) (by decide)
  case anchored =>
    exact garbles_of_rule " py_else " rfl rfl (by decide) rfl (by decide) (by decide)
      (by decide +kernel) (by decide)
  case reading =>
    exact garbles_of_rule " quicktype_else - " rfl rfl (by decide) rfl (by decide) (by decide)
      (by decide +kernel) (by decide)
  case empty =>
    exact garbles_of_rule " -q-_-i-f- " rfl rfl (by decide) rfl (by decide) (by decide)
      (by decide +kernel) (by decide)
  case formed =>
    exact garbles_of_rule " -elsq- " rfl rfl (by decide) rfl (by decide) (by decide)
      (by decide +kernel) (by decide)

end SchemaBindings
