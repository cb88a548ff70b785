import SchemaBindings.Schema.Reserved

/-!
# Laws of markers

Looking for the beginning of a text and looking for a text inside of another are tied
to lists of characters that stand in front of, or inside of, others. From this follow
the facts that the passes rest on: a marked name has the marker and gives back the
name, different names stay different under the marker, and a name is that of a marked
reserved word exactly if it is the marker followed by such a word.
-/
namespace SchemaBindings

namespace Text

/-- What follows the beginning of a text is what has to be added to it. -/
@[simp] theorem afterStart?_eq_some_iff (start text rest : List Char) :
    afterStart? start text = some rest ↔ start ++ rest = text := by
  induction start generalizing text with
  | nil => simp [afterStart?, eq_comm]
  | cons expected start inductionHypothesis =>
    cases text with
    | nil => simp [afterStart?]
    | cons character text =>
      by_cases same : expected = character <;> simp [afterStart?, same, inductionHypothesis]

/-- A text begins with another exactly if the other is a first part of it. -/
theorem startsWith_iff (start text : List Char) : startsWith start text = true ↔ start <+: text := by
  simp only [startsWith, Option.isSome_iff_exists, afterStart?_eq_some_iff]
  exact Iff.rfl

/-- A text occurs in another exactly if it is a part of it. -/
theorem occurs_iff (part text : List Char) : occurs part text = true ↔ part <:+: text := by
  induction text with
  | nil => simp [occurs]
  | cons character rest inductionHypothesis =>
    simp [occurs, startsWith_iff, inductionHypothesis, List.infix_cons_iff]

end Text

namespace EscapeRule

variable (rule : EscapeRule) (reserved : ReservedWords)

/-- A name without its marker, marked again, is the name. -/
@[simp] theorem unmarked?_eq_some_iff (name word : String) :
    rule.unmarked? name = some word ↔ rule.escape word = name := by
  simp only [unmarked?, Option.map_eq_some_iff, Text.afterStart?_eq_some_iff]
  constructor
  · rintro ⟨rest, split, rfl⟩
    rw [← String.toList_inj]
    simpa [escape] using split
  · rintro rfl
    exact ⟨word.toList, by simp [escape], String.ofList_toList⟩

/-- A name begins with the marker exactly if it is some name marked. -/
theorem isEscaped_iff (name : String) :
    rule.isEscaped name = true ↔ ∃ word, rule.escape word = name := by
  simp only [isEscaped, Option.isSome_iff_exists, unmarked?_eq_some_iff]

/-- A marked name begins with the marker. -/
@[simp] theorem isEscaped_escape (name : String) : rule.isEscaped (rule.escape name) = true :=
  (rule.isEscaped_iff _).mpr ⟨name, rfl⟩

/-- Different names stay different when they are marked. -/
@[simp] theorem escape_inj (left right : String) :
    rule.escape left = rule.escape right ↔ left = right := by
  simp [escape, ← String.toList_inj]

/-- A name that begins with the marker has it. -/
theorem occursIn_of_isEscaped (name : String) (escaped : rule.isEscaped name = true) :
    rule.occursIn name = true := by
  obtain ⟨word, rfl⟩ := (rule.isEscaped_iff name).mp escaped
  rw [occursIn, Text.occurs_iff, escape, String.toList_append]
  exact (List.prefix_append _ _).isInfix

/-- A name is that of a marked reserved word exactly if it is the marker followed by one. -/
theorem produces_iff (name : String) :
    rule.produces reserved name = true ↔
      ∃ word, reserved.contains word = true ∧ rule.escape word = name := by
  unfold produces
  split
  case h_1 word found =>
    obtain rfl := (rule.unmarked?_eq_some_iff name word).mp found
    simp
  case h_2 absent =>
    simp only [Bool.false_eq_true, false_iff, not_exists, not_and]
    intro word _ marked
    rw [(rule.unmarked?_eq_some_iff name word).mpr marked] at absent
    contradiction

/-- The name of a marked reserved word begins with the marker. -/
theorem isEscaped_of_produces (name : String) (produced : rule.produces reserved name = true) :
    rule.isEscaped name = true := by
  obtain ⟨word, _, rfl⟩ := (rule.produces_iff reserved name).mp produced
  exact rule.isEscaped_escape word

/-- The name of a marked reserved word has the marker. -/
theorem occursIn_of_produces (name : String) (produced : rule.produces reserved name = true) :
    rule.occursIn name = true :=
  rule.occursIn_of_isEscaped name (rule.isEscaped_of_produces reserved name produced)

end EscapeRule

end SchemaBindings
