import SchemaBindings.Pattern.Template
import SchemaBindings.Proofs.Passes

/-!
# The names of groups

A group is named in a pattern between angle brackets, by a letter or a low line first and
then by letters, numbers and a few signs. So a name never has a closing brace in it and is
never a number, and a reference in braces to a group of that name is read back as what it
is. The names that a compiled pattern knows are among those that were read: giving the
expression its meaning loses groups with the repetitions that come to nothing, but it
invents none.
-/
namespace SchemaBindings.Pattern

open SchemaBindings.Unicode

/-- A name as it can stand in a pattern. -/
def IsGroupName (name : List Char) : Prop :=
  ∃ first others, name = first :: others ∧ isNameCharacter first true = true ∧
    ∀ other ∈ others, isNameCharacter other false = true

/-- A character that may begin a name may also stand later in it. -/
theorem isNameCharacter_later {character : Char} {first : Bool}
    (allowed : isNameCharacter character first = true) :
    isNameCharacter character false = true := by
  cases first with
  | false => exact allowed
  | true =>
    simp only [isNameCharacter, if_true, Bool.or_eq_true] at allowed
    rcases allowed with lowLine | letter
    · simp [isNameCharacter, lowLine]
    · simp [isNameCharacter, letter]

/-- No name has a closing brace in it. -/
theorem IsGroupName.ne_brace {name : List Char} (named : IsGroupName name) :
    ∀ character ∈ name, character ≠ '}' := by
  obtain ⟨first, others, rfl, begins, continues⟩ := named
  have later : ∀ character ∈ first :: others, isNameCharacter character false = true :=
    List.forall_mem_cons.mpr ⟨isNameCharacter_later begins, continues⟩
  rintro character member rfl
  exact absurd (later _ member) (by decide)

/-- A digit cannot begin a name. -/
theorem not_isNameCharacter_of_isAsciiDigit {digit : Char} (isDigit : isAsciiDigit digit = true) :
    isNameCharacter digit true = false := by
  simp only [isAsciiDigit, Bool.and_eq_true, decide_eq_true_eq] at isDigit
  have low : '0'.toNat ≤ digit.toNat := isDigit.1
  have high : digit.toNat ≤ '9'.toNat := isDigit.2
  have ascii : digit.toNat < 128 := Nat.lt_of_le_of_lt high (by decide)
  have noLower : ¬ 'a' ≤ digit := fun above =>
    absurd (Nat.le_trans (show 'a'.toNat ≤ digit.toNat from above) high) (by decide)
  have noUpper : ¬ 'A' ≤ digit := fun above =>
    absurd (Nat.le_trans (show 'A'.toNat ≤ digit.toNat from above) high) (by decide)
  have noLine : digit ≠ '_' := by
    rintro rfl
    exact absurd high (by decide)
  simp [isNameCharacter, isAlphabetic, ascii, isAsciiLetter, noLower, noUpper, noLine]

/-- A reference to a name is not taken for one to a number. -/
theorem IsGroupName.ofText {name : List Char} (named : IsGroupName name) :
    Reference.ofText name = .name name := by
  obtain ⟨first, others, rfl, begins, _⟩ := named
  have noDigit : isAsciiDigit first = false := by
    by_contra isDigit
    rw [Bool.not_eq_false] at isDigit
    rw [not_isNameCharacter_of_isAsciiDigit isDigit] at begins
    contradiction
  simp [Reference.ofText, noDigit]

namespace Parse

variable {α β : Type}

/-- Whenever a step of reading a pattern succeeds, its result is good. -/
def Gives (good : α → Prop) (step : Parse α) : Prop :=
  ∀ reader value after, step.run reader = .ok (value, after) → good value

variable {good : α → Prop} {later : β → Prop} {step : Parse α} {next : α → Parse β}

/-- A step that reads nothing gives its value. -/
theorem gives_pure {value : α} (holds : good value) : Gives good (pure value : Parse α) := by
  intro reader result after ended
  obtain ⟨rfl, -⟩ := Prod.mk.inj (Except.ok.inj ended)
  exact holds

/-- Steps one after the other give what the last one gives for the results of the first. -/
theorem gives_bind (given : Gives good step)
    (follows : ∀ value, good value → Gives later (next value)) : Gives later (step >>= next) := by
  intro reader result last ended
  rw [StateT.run_bind, bind_ok_iff] at ended
  obtain ⟨⟨value, between⟩, first, rest⟩ := ended
  exact follows value (given reader value between first) between result last rest

/-- What the first of two steps gives may not matter. -/
theorem gives_after (follows : ∀ value, Gives later (next value)) : Gives later (step >>= next) :=
  have given : Gives (fun _ => True) step := fun _ _ _ _ => trivial
  gives_bind given fun value _ => follows value

end Parse

mutual

/-- The names of the groups of an expression. -/
def Expression.groupNames : Expression → List String
  | .repetition _ _ _ _ body => body.groupNames
  | .group _ (.capture _ (some name)) body => name :: body.groupNames
  | .group _ _ body => body.groupNames
  | .alternation _ branches => partsGroupNames branches
  | .concatenation _ parts => partsGroupNames parts
  | _ => []

/-- The names of the groups of several expressions. -/
def partsGroupNames : List Expression → List String
  | [] => []
  | part :: parts => part.groupNames ++ partsGroupNames parts

end

/-- Every name of a group in an expression could be read. -/
def Expression.WellNamed (expression : Expression) : Prop :=
  ∀ name ∈ expression.groupNames, IsGroupName name.toList

/-- What a group adds to the names. -/
def GroupKind.WellNamed (kind : GroupKind) : Prop :=
  ∀ index name, kind = .capture index (some name) → IsGroupName name.toList

/-- A group with a good name around a good expression is one. -/
theorem Expression.WellNamed.group {span : Span} {kind : GroupKind} {contents : Expression}
    (named : kind.WellNamed) (inside : contents.WellNamed) :
    (Expression.group span kind contents).WellNamed := by
  intro name member
  cases kind with
  | plain items => exact inside name member
  | capture index given =>
    cases given with
    | none => exact inside name member
    | some own =>
      rcases List.mem_cons.mp member with rfl | inner
      · exact named index name rfl
      · exact inside name inner

namespace Parse

end Parse

/-- The names that a shape gives to its groups. -/
def Shape.groupNames (shape : Shape) : List String := shape.groups.filterMap Prod.snd

/-- Repeating a shape invents no group. -/
theorem Shape.groups_repeated_subset (least : Nat) (most : Option Nat) (greedy : Bool)
    (body : Shape) : (body.repeated least most greedy).groups ⊆ body.groups := by
  unfold repeated
  extract_lets fewest largest
  split
  · exact List.nil_subset _
  · split
    · exact List.Subset.refl _
    · exact List.Subset.refl _

/-- A set of characters names no group. -/
theorem groupNames_of_character {set : Except Error CharSet} {flags after : Flags} {shape : Shape}
    (meant : (do return (Shape.character (← set), flags)) = .ok (shape, after)) :
    shape.groupNames = [] := by
  rw [bind_ok_iff] at meant
  obtain ⟨_, _, same⟩ := meant
  obtain ⟨rfl, -⟩ := Prod.mk.inj (Except.ok.inj same)
  rfl

mutual

/-- The names in the meaning of an expression are among the names of the expression. -/
theorem Expression.meaning_groupNames (flags : Flags) :
    ∀ (expression : Expression) {shape : Shape} {after : Flags},
      expression.meaning flags = .ok (shape, after) → shape.groupNames ⊆ expression.groupNames
  | .empty _, _, _, meant => by
    obtain ⟨rfl, -⟩ := Prod.mk.inj (Except.ok.inj meant)
    exact List.nil_subset _
  | .flags _ _, _, _, meant => by
    obtain ⟨rfl, -⟩ := Prod.mk.inj (Except.ok.inj meant)
    exact List.nil_subset _
  | .assertion _ _, _, _, meant => by
    obtain ⟨rfl, -⟩ := Prod.mk.inj (Except.ok.inj meant)
    exact List.nil_subset _
  | .literal _, _, _, meant => by simp [groupNames_of_character meant]
  | .dot _, _, _, meant => by simp [groupNames_of_character meant]
  | .letter _ _ _, _, _, meant => by simp [groupNames_of_character meant]
  | .named _ _ _, _, _, meant => by simp [groupNames_of_character meant]
  | .bracketed _ _ _, _, _, meant => by
    rw [Expression.meaning, bind_ok_iff] at meant
    obtain ⟨_, _, meant⟩ := meant
    simp [groupNames_of_character meant]
  | .repetition _ least most greedy body, _, _, meant => by
    rw [Expression.meaning, bind_ok_iff] at meant
    obtain ⟨⟨shape, between⟩, meant, same⟩ := meant
    obtain ⟨rfl, -⟩ := Prod.mk.inj (Except.ok.inj same)
    exact List.Subset.trans (List.filterMap_subset _ (shape.groups_repeated_subset _ _ _))
      (Expression.meaning_groupNames flags body meant)
  | .group _ (.capture index name) body, _, _, meant => by
    rw [Expression.meaning, bind_ok_iff] at meant
    obtain ⟨⟨shape, between⟩, meant, same⟩ := meant
    obtain ⟨rfl, -⟩ := Prod.mk.inj (Except.ok.inj same)
    have inside := Expression.meaning_groupNames flags body meant
    cases name with
    | none => exact inside
    | some own => exact List.cons_subset_cons own inside
  | .group _ (.plain items) body, _, _, meant => by
    rw [Expression.meaning, bind_ok_iff] at meant
    obtain ⟨⟨shape, between⟩, meant, same⟩ := meant
    obtain ⟨rfl, -⟩ := Prod.mk.inj (Except.ok.inj same)
    exact Expression.meaning_groupNames (flags.updated true items) body meant
  | .alternation _ branches, _, _, meant => by
    rw [Expression.meaning, bind_ok_iff] at meant
    obtain ⟨⟨shapes, between⟩, meant, same⟩ := meant
    obtain ⟨rfl, -⟩ := Prod.mk.inj (Except.ok.inj same)
    exact partsMeaning_groupNames flags branches meant
  | .concatenation _ parts, _, _, meant => by
    rw [Expression.meaning, bind_ok_iff] at meant
    obtain ⟨⟨shapes, between⟩, meant, same⟩ := meant
    obtain ⟨rfl, -⟩ := Prod.mk.inj (Except.ok.inj same)
    exact partsMeaning_groupNames flags parts meant

/-- The same of several expressions. -/
theorem partsMeaning_groupNames (flags : Flags) :
    ∀ (parts : List Expression) {shapes : List Shape} {after : Flags},
      partsMeaning flags parts = .ok (shapes, after) →
        (allGroups shapes).filterMap Prod.snd ⊆ partsGroupNames parts
  | [], _, _, meant => by
    obtain ⟨rfl, -⟩ := Prod.mk.inj (Except.ok.inj meant)
    exact List.nil_subset _
  | part :: parts, _, _, meant => by
    simp only [partsMeaning, bind_ok_iff] at meant
    obtain ⟨⟨shape, between⟩, first, ⟨shapes, last⟩, others, same⟩ := meant
    obtain ⟨rfl, -⟩ := Prod.mk.inj (Except.ok.inj same)
    have head := Expression.meaning_groupNames flags part first
    have tail := partsMeaning_groupNames between parts others
    rw [allGroups, List.filterMap_append, partsGroupNames]
    exact List.append_subset.mpr ⟨List.subset_append_of_subset_left _ head,
      List.subset_append_of_subset_right _ tail⟩

end

end SchemaBindings.Pattern
