import Mathlib.Data.List.ReduceOption
import SchemaBindings.Proofs.Markers
import SchemaBindings.Proofs.PointerTexts
import SchemaBindings.Schema.Union

/-!
# References name definitions

A reference to a definition has the name of the definition as its last token, in the
written form, and whoever looks for the members of a union reads the name back from it.
Writing and reading are inverse to each other on the tokens that may stand in a pointer:
those without a slash in which a `0` or a `1` follows every tilde (RFC 6901). Any other
tilde is read as it stands, so that two texts could be read as one name; but only one of
them is ever written.

Both keys of a table of definitions are tried in turn. As a reference begins with the key
of its own schema and a slash, and no key begins another one, it does not matter in which
order.
-/
namespace SchemaBindings

/-- A token as it may stand in a pointer. -/
structure IsWrittenToken (token : List Char) : Prop where
  slashless : '/' ∉ token
  tildes : ∀ before after, token = before ++ '~' :: after →
    after.head? = some '0' ∨ after.head? = some '1'

/-- What follows the first character of a written token is one, unless this character begins a pair,
which needs what follows. -/
theorem IsWrittenToken.tail {character : Char} {token : List Char}
    (written : IsWrittenToken (character :: token)) : IsWrittenToken token where
  slashless := fun member => written.slashless (List.mem_cons_of_mem _ member)
  tildes := fun before after split =>
    written.tildes (character :: before) after (congrArg (character :: ·) split)

/-- A token that may stand in a pointer is the written form of what it is read as. -/
theorem escapeToken_unescapeToken {token : List Char} (written : IsWrittenToken token) :
    escapeToken (unescapeToken token) = token := by
  fun_induction unescapeToken token with
  | case1 => rfl
  | case2 rest inductionHypothesis =>
    rw [escapeToken, inductionHypothesis written.tail.tail]
  | case3 rest inductionHypothesis =>
    rw [escapeToken, inductionHypothesis written.tail.tail]
  | case4 character rest notTilde notSlash inductionHypothesis =>
    -- A tilde here would stand in front of neither of the two digits.
    have tilde : character ≠ '~' := by
      rintro rfl
      rcases written.tildes [] rest rfl with digit | digit
      · obtain ⟨following, rfl⟩ := List.head?_eq_some_iff.mp digit
        exact notTilde following rfl rfl
      · obtain ⟨following, rfl⟩ := List.head?_eq_some_iff.mp digit
        exact notSlash following rfl rfl
    have slash : character ≠ '/' := by
      rintro rfl
      exact written.slashless List.mem_cons_self
    rw [escapeToken, inductionHypothesis written.tail]
    · exact tilde
    · exact slash

/-- The written form of a token may stand in a pointer. -/
theorem isWrittenToken_escapeToken (token : List Char) : IsWrittenToken (escapeToken token) := by
  refine ⟨not_mem_escapeToken token, ?_⟩
  fun_induction escapeToken token with
  | case1 => simp
  | case2 rest inductionHypothesis =>
    rintro (_ | ⟨_, _ | ⟨_, before⟩⟩) after split
    all_goals simp only [List.nil_append, List.cons_append, List.cons.injEq] at split
    · simp [← split.2]
    · simp at split
    · exact inductionHypothesis before after split.2.2
  | case3 rest inductionHypothesis =>
    rintro (_ | ⟨_, _ | ⟨_, before⟩⟩) after split
    all_goals simp only [List.nil_append, List.cons_append, List.cons.injEq] at split
    · simp [← split.2]
    · simp at split
    · exact inductionHypothesis before after split.2.2
  | case4 character rest tilde _ inductionHypothesis =>
    rintro (_ | ⟨_, before⟩) after split
    all_goals simp only [List.nil_append, List.cons_append, List.cons.injEq] at split
    · exact absurd split.1 tilde
    · exact inductionHypothesis before after split.2

/-- The text of a reference to what a token names below a table of definitions. -/
def DefinitionsKey.pointing (key : DefinitionsKey) (token : String) : String :=
  "#/" ++ key.text ++ "/" ++ token

/-- What follows the key of a reference is its token. -/
theorem afterDefinitionsKey_pointing (key : DefinitionsKey) (token : String) :
    afterDefinitionsKey key (key.pointing token).toList = some token.toList := by
  simp [afterDefinitionsKey, DefinitionsKey.pointing]

/-- No reference has both keys. -/
theorem afterDefinitionsKey_other (token : String) :
    afterDefinitionsKey .definitions (DefinitionsKey.defs.pointing token).toList = none := by
  simp [afterDefinitionsKey, DefinitionsKey.pointing, DefinitionsKey.text, Text.afterStart?]

/-- A reference names what its token is read as, unless this is empty or has a slash. -/
theorem definitionName_pointing (key : DefinitionsKey) (token : String) :
    definitionName (key.pointing token) =
      if token.toList.isEmpty || token.toList.contains '/' then none
      else some (.ofList (unescapeToken token.toList)) := by
  cases key with
  | definitions => rw [definitionName, afterDefinitionsKey_pointing]
  | defs => rw [definitionName, afterDefinitionsKey_other, afterDefinitionsKey_pointing]

/-- The written form of a name is empty only if the name is. -/
theorem escapeToken_eq_nil {token : List Char} (none : escapeToken token = []) : token = [] := by
  rw [← unescapeToken_escapeToken token, none]
  rfl

namespace Schema

variable (schema : Schema)

/-- The reference to a definition points to its name in the written form. -/
theorem referenceTo_eq (name : String) :
    schema.referenceTo name =
      schema.definitionsKey.pointing (.ofList (escapeToken name.toList)) := by
  have plain : escapeToken schema.definitionsKey.text.toList =
      schema.definitionsKey.text.toList := by
    cases schema.definitionsKey <;> rfl
  rw [← String.toList_inj]
  simp [referenceTo, Pointer.text, Pointer.child, Pointer.root, Pointer.tokensText,
    DefinitionsKey.pointing, plain]

/-- The reference to a definition names it. -/
theorem definitionName_referenceTo {name : String} (named : name ≠ "") :
    definitionName (schema.referenceTo name) = some name := by
  have present : (escapeToken name.toList).isEmpty = false := by
    rw [List.isEmpty_eq_false_iff]
    exact fun none => named (by simpa using escapeToken_eq_nil none)
  rw [referenceTo_eq, definitionName_pointing]
  simp [present, not_mem_escapeToken, unescapeToken_escapeToken]

/-- References to definitions of different names are different. -/
theorem referenceTo_inj {name other : String}
    (same : schema.referenceTo name = schema.referenceTo other) : name = other := by
  rw [referenceTo_eq, referenceTo_eq, DefinitionsKey.pointing, DefinitionsKey.pointing,
    String.append_right_inj, String.ofList_inj] at same
  rw [← String.toList_inj, ← unescapeToken_escapeToken name.toList, same,
    unescapeToken_escapeToken]

/-- A reference below the table of definitions is the one to the definition of some name exactly if
its token may stand in a pointer and is read as that name. -/
theorem pointing_eq_referenceTo_iff (token name : String) :
    schema.definitionsKey.pointing token = schema.referenceTo name ↔
      IsWrittenToken token.toList ∧ String.ofList (unescapeToken token.toList) = name := by
  rw [referenceTo_eq, DefinitionsKey.pointing, DefinitionsKey.pointing, String.append_right_inj]
  constructor
  · rintro rfl
    rw [String.toList_ofList, unescapeToken_escapeToken, String.ofList_toList]
    exact ⟨isWrittenToken_escapeToken _, rfl⟩
  · rintro ⟨written, rfl⟩
    rw [String.toList_ofList, escapeToken_unescapeToken written, String.ofList_toList]

/-- What a branch adds to the members of a union: a reference to a definition adds the name of the
definition, and neither a reference that goes on behind one nor a branch that is no reference adds
anything. -/
inductive Adds : Node → Option String → Prop
  | definition {name : String} (named : name ≠ "") (extra : Fields) :
    Adds (.reference (schema.referenceTo name) extra) (some name)
  | deeper (key : DefinitionsKey) (token more : String) (extra : Fields) :
    Adds (.reference (key.pointing (token ++ "/" ++ more)) extra) none
  | inline {branch : Node} (plain : ∀ target extra, branch ≠ .reference target extra) :
    Adds branch none

/-- The members of a union are the names that its branches add, in their order. -/
theorem memberNames_of_adds {branches : List Node} {added : List (Option String)}
    (adds : List.Forall₂ schema.Adds branches added) :
    memberNames branches = added.reduceOption := by
  induction adds with
  | nil => rfl
  | @cons branch result branches added one _ inductionHypothesis =>
    cases one with
    | definition named extra =>
      rw [memberNames, schema.definitionName_referenceTo named, inductionHypothesis,
        List.reduceOption_cons_of_some]
    | deeper key token more extra =>
      rw [memberNames, definitionName_pointing, if_pos (by simp), inductionHypothesis,
        List.reduceOption_cons_of_none]
    | inline plain =>
      rw [List.reduceOption_cons_of_none, ← inductionHypothesis]
      cases branch with
      | reference target extra => exact absurd rfl (plain target extra)
      | _ => rfl

/-- A reference that a schema writes to a definition with a name stands for this name and no other:
the branches of a union add to its members just the names of the definitions to which they refer, in
order and as often as they do, and each name has a reference of its own. A reference is one of these
as soon as its token, which may stand in a pointer, is read as the name. -/
theorem unionMembers_of_references (topLevel : String) :
    (∀ kind branches extra added,
      schema.topLevelNode topLevel = .composition kind branches extra → kind.isUnion = true →
      List.Forall₂ schema.Adds branches added →
      schema.unionMembers topLevel = added.reduceOption) ∧
    (∀ name other, schema.referenceTo name = schema.referenceTo other → name = other) ∧
    ∀ token name, token ≠ "" →
      (schema.definitionsKey.pointing token = schema.referenceTo name ↔
        IsWrittenToken token.toList ∧
          definitionName (schema.definitionsKey.pointing token) = some name) := by
  refine ⟨fun kind branches extra added node union adds => ?_,
    fun _ _ => schema.referenceTo_inj, fun token name present => ?_⟩
  · rw [unionMembers, node]
    dsimp only
    rw [if_pos union]
    exact schema.memberNames_of_adds adds
  · rw [pointing_eq_referenceTo_iff]
    refine and_congr_right fun written => ?_
    rw [definitionName_pointing, if_neg, Option.some_inj]
    simp [present, written.slashless]

/-- A union with a branch of every kind, one of them twice. The name of one definition is made of
what tokens are escaped to. -/
def repeating : Schema where
  root := .composition .oneOf
    [.reference "#/$defs/~01~1~00" [], .scalar [], .reference "#/$defs/Cond" [],
      .reference "#/$defs/Cond/properties/when" [], .reference "#/$defs/~01~1~00" []] []
  definitions := [("~1/~0", .scalar []), ("Cond", .scalar [])]
  writtenKey := some .defs

/-- A union with a definition that is named twice, a branch that is no reference and one that goes
deeper. The names need escapes, and those of the definitions come in the order of the branches. -/
theorem unionMembers_of_references_at_repeating :
    repeating.topLevelNode "Instruction" = repeating.root ∧
      CompositionKind.oneOf.isUnion = true ∧
      List.Forall₂ repeating.Adds
        [.reference "#/$defs/~01~1~00" [], .scalar [], .reference "#/$defs/Cond" [],
          .reference "#/$defs/Cond/properties/when" [], .reference "#/$defs/~01~1~00" []]
        [some "~1/~0", none, some "Cond", none, some "~1/~0"] ∧
      repeating.unionMembers "Instruction" = ["~1/~0", "Cond", "~1/~0"] ∧
      repeating.referenceTo "~1/~0" ≠ repeating.referenceTo "//~0" ∧
      "~01~1~00" ≠ "" ∧
      IsWrittenToken "~01~1~00".toList ∧
      definitionName (repeating.definitionsKey.pointing "~01~1~00") = some "~1/~0" := by
  have node : repeating.topLevelNode "Instruction" = repeating.root := rfl
  have adds : List.Forall₂ repeating.Adds
      [.reference "#/$defs/~01~1~00" [], .scalar [], .reference "#/$defs/Cond" [],
        .reference "#/$defs/Cond/properties/when" [], .reference "#/$defs/~01~1~00" []]
      [some "~1/~0", none, some "Cond", none, some "~1/~0"] := by
    have odd : repeating.Adds (.reference "#/$defs/~01~1~00" []) (some "~1/~0") :=
      @Adds.definition repeating "~1/~0" (by decide) []
    have plain : repeating.Adds (.reference "#/$defs/Cond" []) (some "Cond") :=
      @Adds.definition repeating "Cond" (by decide) []
    exact .cons odd (.cons (.inline (by simp)) (.cons plain
      (.cons (.deeper .defs "Cond" "properties/when" []) (.cons odd .nil))))
  obtain ⟨members, different, read⟩ := repeating.unionMembers_of_references "Instruction"
  obtain ⟨written, named⟩ := (read "~01~1~00" "~1/~0" (by decide)).mp (by decide)
  refine ⟨node, rfl, adds, members _ _ _ _ node rfl adds, fun same => ?_, by decide, written, named⟩
  exact absurd (different _ _ same) (by decide)

end Schema

end SchemaBindings
