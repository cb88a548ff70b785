import Mathlib.Data.List.Infix
import SchemaBindings.Proofs.Markers
import SchemaBindings.Proofs.Passes
import SchemaBindings.Rule.Finishing

/-!
# How finished lines are put together

Finishing takes the generated lines through four passes, each over what the one before it
has left, and what is put in by one is seen by the next. Here the lines that come out are
described all at once. Every generated line is there, in its place, restored if it has the
marker and then taken through the rules for types, the first rule first and each over what
the one before it has made of the line. The declarations stand as one block behind the
first line that the anchor matches, where a line is matched as it was restored and before
its types were replaced; they are never restored, but their types are replaced as well. The
alias of the union comes last and as it was given, behind an empty line if what precedes it
ends in a line that shows something.

That a pass is left out (no marker, no anchor, no declarations, no rules, no union) is a
case of this description and not an exception to it. The description does without the
passes: what it says of the lines of a declaration is said by the line feeds in its text,
and the rules for types are written out as a fold.
-/
namespace SchemaBindings

open SchemaBindings.Pattern

/-! ## The lines of a text -/

namespace Text

/-- A text and its lines, by the places of the line feeds. A carriage return directly before a line
feed belongs to the end of the line and not to the line. Nothing follows a line feed at the very end,
and what follows the last line feed otherwise is a line as it stands, a carriage return included. -/
inductive IsLines : List Char → List String → Prop
  | empty : IsLines [] []
  | last {line : List Char} (present : line ≠ []) (whole : '\n' ∉ line) :
    IsLines line [.ofList line]
  | fed {line rest : List Char} {lines : List String} (whole : '\n' ∉ line)
    (bare : ∀ front, line ≠ front ++ ['\r']) (later : IsLines rest lines) :
    IsLines (line ++ '\n' :: rest) (.ofList line :: lines)
  | returned {line rest : List Char} {lines : List String} (whole : '\n' ∉ line)
    (later : IsLines rest lines) :
    IsLines (line ++ '\r' :: '\n' :: rest) (.ofList line :: lines)

/-- What is read of a text from the middle of a line on gives the lines of the text. The characters of
the line that have been read already are the invariant: there is no line feed among them. -/
theorem isLines_linesFrom {pending text : List Char} (whole : '\n' ∉ pending) :
    IsLines (pending.reverse ++ text) ((linesFrom pending text).map String.ofList) := by
  induction text generalizing pending with
  | nil =>
    rw [List.append_nil]
    cases pending with
    | nil => exact .empty
    | cons character before =>
      exact .last (by simp) (by rwa [List.mem_reverse])
  | cons character rest inductionHypothesis =>
    by_cases feed : character = '\n'
    · subst feed
      have later : IsLines rest ((linesFrom [] rest).map String.ofList) :=
        inductionHypothesis List.not_mem_nil
      rw [linesFrom, List.map_cons]
      by_cases returned : ∃ before, pending = '\r' :: before
      · obtain ⟨before, rfl⟩ := returned
        have split : ('\r' :: before).reverse ++ '\n' :: rest =
            before.reverse ++ '\r' :: '\n' :: rest := by simp
        rw [split, withoutReturn]
        have front : '\n' ∉ before.reverse := fun member =>
          whole (.tail _ (List.mem_reverse.mp member))
        exact .returned front later
      · have kept : withoutReturn pending = pending.reverse := by
          rw [withoutReturn.eq_def]
          split
          case h_1 before => exact absurd ⟨before, rfl⟩ returned
          case h_2 => rfl
        rw [kept]
        refine .fed (by simpa using whole) (fun front same => returned ⟨front.reverse, ?_⟩) later
        rw [← List.reverse_reverse pending, same]
        simp
    · have read : linesFrom pending (character :: rest) = linesFrom (character :: pending) rest := by
        rw [linesFrom]
        exact feed
      have longer : pending.reverse ++ character :: rest = (character :: pending).reverse ++ rest := by
        simp
      rw [read, longer]
      exact inductionHypothesis (by simp [Ne.symm feed, whole])

/-- Characters that are no line feeds are kept until the line ends. -/
theorem linesFrom_append {line : List Char} (pending rest : List Char) (whole : '\n' ∉ line) :
    linesFrom pending (line ++ rest) = linesFrom (line.reverse ++ pending) rest := by
  induction line generalizing pending with
  | nil => rfl
  | cons character line inductionHypothesis =>
    obtain ⟨other, later⟩ := List.ne_and_not_mem_of_not_mem_cons whole
    have read : linesFrom pending (character :: (line ++ rest)) =
        linesFrom (character :: pending) (line ++ rest) := by
      rw [linesFrom]
      exact Ne.symm other
    rw [List.cons_append, read, inductionHypothesis _ later]
    simp

/-- A text has one row of lines, and it is the one that is read. -/
theorem lines_eq_iff (text : String) (lines : List String) :
    Text.lines text = lines ↔ IsLines text.toList lines := by
  constructor
  · rintro rfl
    exact isLines_linesFrom List.not_mem_nil
  · intro read
    rw [Text.lines]
    generalize text.toList = characters at read
    induction read with
    | empty => rfl
    | @last line present whole =>
      have read := linesFrom_append [] [] whole
      rw [List.append_nil, List.append_nil] at read
      rw [read]
      rcases List.eq_nil_or_concat line with rfl | ⟨front, character, rfl⟩
      · contradiction
      · simp [linesFrom]
    | @fed line rest lines whole bare later inductionHypothesis =>
      have kept : withoutReturn line.reverse = line := by
        rw [withoutReturn.eq_def]
        split
        case h_1 before same =>
          refine absurd ?_ (bare before.reverse)
          rw [← List.reverse_reverse line, same]
          simp
        case h_2 => exact List.reverse_reverse line
      rw [linesFrom_append _ _ whole, List.append_nil, linesFrom, kept, List.map_cons,
        inductionHypothesis]
    | @returned line rest lines whole later inductionHypothesis =>
      have feed : '\n' ∉ line ++ ['\r'] := by simp [whole]
      have split : line ++ '\r' :: '\n' :: rest = (line ++ ['\r']) ++ '\n' :: rest := by simp
      rw [split, linesFrom_append _ _ feed, List.append_nil, linesFrom, List.map_cons,
        inductionHypothesis]
      simp [withoutReturn]

end Text

/-! ## Where the declarations stand -/

/-- A block is put behind the first line that an anchor matches. -/
theorem insertAfter_first {anchor : Regex} {block before after : List String} {line : String}
    (missed : ∀ other ∈ before, anchor.isMatch other = false)
    (hit : anchor.isMatch line = true) :
    insertAfter anchor block (before ++ line :: after) = before ++ line :: (block ++ after) := by
  induction before with
  | nil => rw [List.nil_append, insertAfter, if_pos hit, List.nil_append]
  | cons other before inductionHypothesis =>
    obtain ⟨first, rest⟩ := List.forall_mem_cons.mp missed
    rw [List.cons_append, insertAfter, if_neg (by simp [first]), inductionHypothesis rest,
      List.cons_append]

/-- A block is put nowhere if the anchor matches no line. -/
theorem insertAfter_nowhere {anchor : Regex} {block lines : List String}
    (missed : ∀ line ∈ lines, anchor.isMatch line = false) :
    insertAfter anchor block lines = lines := by
  induction lines with
  | nil => rfl
  | cons line lines inductionHypothesis =>
    obtain ⟨first, rest⟩ := List.forall_mem_cons.mp missed
    rw [insertAfter, if_neg (by simp [first]), inductionHypothesis rest]

/-- The block of declarations: for each of them an empty line, and then its lines. -/
inductive Declared : (declarations block : List String) → Prop
  | none : Declared [] []
  | next {declaration : String} {declarations lines block : List String}
    (read : Text.IsLines declaration.toList lines) (later : Declared declarations block) :
    Declared (declaration :: declarations) ("" :: lines ++ block)

/-- Declarations have one block, and it is the one that is put in. -/
theorem declarationLines_eq_iff (declarations block : List String) :
    declarationLines declarations = block ↔ Declared declarations block := by
  constructor
  · rintro rfl
    induction declarations with
    | nil => exact .none
    | cons declaration declarations inductionHypothesis =>
      exact .next ((Text.lines_eq_iff declaration _).mp rfl) inductionHypothesis
  · intro declared
    induction declared with
    | none => rfl
    | @next declaration declarations lines block read later inductionHypothesis =>
      have first : Text.lines declaration = lines := (Text.lines_eq_iff declaration lines).mpr read
      rw [declarationLines] at inductionHypothesis
      rw [declarationLines, List.flatMap_cons, first, inductionHypothesis]

/-- The rules that replace types. -/
def typeRules (custom : Option CustomTypes) : List Rule :=
  (custom.map (·.substitutions)).getD []

/-- The declarations and the generated lines in front of them and behind them. The anchor is held
against the restored form of a line. -/
inductive Parted (restored : String → String) :
    Option CustomTypes → (before block after : List String) → Prop
  | behind {custom : CustomTypes} {anchor : Regex} {earlier block : List String} {line : String}
    (after : List String) (given : custom.anchor = some anchor)
    (missed : ∀ other ∈ earlier, anchor.isMatch (restored other) = false)
    (hit : anchor.isMatch (restored line) = true) (declared : Declared custom.declarations block) :
    Parted restored (some custom) (earlier ++ [line]) block after
  | nowhere {custom : Option CustomTypes} {lines : List String}
    (missed : ∀ given anchor, custom = some given → given.anchor = some anchor →
      ∀ line ∈ lines, anchor.isMatch (restored line) = false) :
    Parted restored custom lines [] []

/-- What is written behind a text to name a union. -/
inductive Ending : (text union ending : List String) → Prop
  | absent (text : List String) : Ending text [] []
  | first {union : List String} (present : union ≠ []) : Ending [] union union
  | separate {union text : List String} {last : String} (present : union ≠ [])
    (visible : ∃ character ∈ last.toList, Unicode.isBlank character = false) :
    Ending (text ++ [last]) union ("" :: union)
  | adjacent {union text : List String} {last : String} (present : union ≠ [])
    (blank : ∀ character ∈ last.toList, Unicode.isBlank character = true) :
    Ending (text ++ [last]) union union

/-- There is one way to end a text, and it is the one that is taken. -/
theorem appendUnion_of_ending {text union ending : List String} (ends : Ending text union ending) :
    appendUnion text union = text ++ ending := by
  cases ends with
  | absent => simp [appendUnion]
  | first present => simp [appendUnion, present, endsVisibly]
  | separate present visible => simp [appendUnion, present, endsVisibly, Text.isBlankText, visible]
  | adjacent present blank =>
    have hidden : Text.isBlankText _ = true := List.all_eq_true.mpr blank
    simp [appendUnion, present, endsVisibly, hidden]

/-- Lines end in one of these ways, and a union is appended to them accordingly. -/
theorem exists_ending (text union : List String) : ∃ ending, Ending text union ending := by
  by_cases present : union = []
  · exact ⟨[], present ▸ .absent text⟩
  · rcases List.eq_nil_or_concat text with rfl | ⟨front, last, rfl⟩
    · exact ⟨union, .first present⟩
    · rw [List.concat_eq_append]
      by_cases blank : ∀ character ∈ last.toList, Unicode.isBlank character = true
      · exact ⟨union, .adjacent present blank⟩
      · exact ⟨"" :: union, .separate present (by simpa using blank)⟩

section Parts

variable {marker : String} {restoring : Rule} {custom : Option CustomTypes}

/-- Lines are parted somewhere. -/
theorem exists_parted (restored : String → String) (custom : Option CustomTypes)
    (lines : List String) :
    ∃ before block after, lines = before ++ after ∧ Parted restored custom before block after := by
  by_cases found : ∃ given anchor, custom = some given ∧ given.anchor = some anchor ∧
      ∃ line ∈ lines, anchor.isMatch (restored line) = true
  · obtain ⟨given, anchor, rfl, anchored, some⟩ := found
    have first := List.find?_isSome.mpr some
    obtain ⟨line, first⟩ := Option.isSome_iff_exists.mp first
    obtain ⟨hit, earlier, after, rfl, missed⟩ := List.find?_eq_some_iff_append.mp first
    exact ⟨earlier ++ [line], _, after, by simp,
      .behind after anchored (by simpa using missed) hit ((declarationLines_eq_iff _ _).mp rfl)⟩
  · refine ⟨lines, [], [], by simp, .nowhere fun given anchor chosen anchored line member => ?_⟩
    exact Bool.eq_false_iff.mpr fun hit =>
      found ⟨given, anchor, chosen, anchored, line, member, hit⟩

/-- Parted lines are what the passes make of the generated ones: all of them go through the rules for
types, and all but the declarations have been restored before. -/
theorem finishLines_of_parted {before block after union : List String}
    (parted : Parted (restoreLine marker restoring) custom before block after) :
    finishLines marker restoring custom (before ++ after) union =
      appendUnion
        ((before.map (restoreLine marker restoring) ++ block ++
          after.map (restoreLine marker restoring)).map fun line =>
            (typeRules custom).foldl (fun text rule => rule.apply text) line)
        union := by
  cases parted with
  | @behind custom anchor earlier block line after given missed hit declared =>
    obtain rfl := (declarationLines_eq_iff _ _).mpr declared
    have split : restoreLines marker restoring (earlier ++ [line] ++ after) =
        earlier.map (restoreLine marker restoring) ++
          restoreLine marker restoring line :: after.map (restoreLine marker restoring) := by
      simp [restoreLines]
    have inserted : insertAfter anchor (declarationLines custom.declarations)
        (earlier.map (restoreLine marker restoring) ++
          restoreLine marker restoring line :: after.map (restoreLine marker restoring)) = _ :=
      insertAfter_first (by simpa using missed) hit
    have folded : substituteLine custom.substitutions = fun line =>
        custom.substitutions.foldl (fun text rule => rule.apply text) line := rfl
    simp only [finishLines, CustomTypes.apply, given, split, inserted]
    simp [substituteLines, folded, typeRules]
  | nowhere missed =>
    rw [List.append_nil, List.map_nil, List.append_nil, List.append_nil]
    cases custom with
    | none =>
      have unchanged : before.map (restoreLine marker restoring) =
          restoreLines marker restoring before := rfl
      simp [typeRules, finishLines, unchanged]
    | some custom =>
      cases given : custom.anchor with
      | none => simp only [finishLines, CustomTypes.apply, given]; rfl
      | some anchor =>
        have kept : ∀ block, insertAfter anchor block (restoreLines marker restoring before) =
            restoreLines marker restoring before := fun block =>
          insertAfter_nowhere (by simpa [restoreLines] using missed custom anchor rfl given)
        simp only [finishLines, CustomTypes.apply, given, kept]
        rfl

/-- Generated lines and what they become: each line stays in its place among the others and is
restored, the declarations are put between them, each line of both goes through the rules for types
one after the other, and the union is named at the end. -/
inductive Finished (marker : String) (restoring : Rule) (custom : Option CustomTypes)
    (union : List String) : (generated finished : List String) → Prop
  | assembled {before block after text ending : List String}
    (parted : Parted (restoreLine marker restoring) custom before block after)
    (written : text =
      (before.map (restoreLine marker restoring) ++ block ++
        after.map (restoreLine marker restoring)).map fun line =>
          (typeRules custom).foldl (fun text rule => rule.apply text) line)
    (ends : Ending text union ending) :
    Finished marker restoring custom union (before ++ after) (text ++ ending)

/-- Lines that are finished as is described are the ones that are given. -/
theorem finishLines_of_finished {generated union finished : List String}
    (put : Finished marker restoring custom union generated finished) :
    finishLines marker restoring custom generated union = finished := by
  obtain ⟨parted, rfl, ends⟩ := put
  rw [finishLines_of_parted parted, appendUnion_of_ending ends]

/-- There are always lines that are finished in this way: whatever the rules and the lines are,
every stage has a result. -/
theorem exists_finished (marker : String) (restoring : Rule) (custom : Option CustomTypes)
    (generated union : List String) :
    ∃ finished, Finished marker restoring custom union generated finished := by
  obtain ⟨before, block, after, rfl, parted⟩ :=
    exists_parted (restoreLine marker restoring) custom generated
  obtain ⟨ending, ends⟩ := exists_ending _ union
  exact ⟨_, .assembled parted rfl ends⟩

end Parts

/-- Finishing gives just the lines that are put together as described: no generated line is lost,
repeated or moved. A line is restored exactly if it has the marker. -/
theorem finishLines_eq_iff (marker : String) (restoring : Rule) (custom : Option CustomTypes)
    (generated union finished : List String) :
    (finishLines marker restoring custom generated union = finished ↔
      Finished marker restoring custom union generated finished) ∧
    ∀ line : String, restoreLine marker restoring line =
      if marker.toList <:+: line.toList then restoring.apply line else line := by
  refine ⟨⟨?_, finishLines_of_finished⟩, fun line => ?_⟩
  · rintro rfl
    obtain ⟨finished, put⟩ := exists_finished marker restoring custom generated union
    rwa [finishLines_of_finished put]
  · simp only [restoreLine, Text.occurs_iff]

/-- Handwritten declarations, one of two lines, behind lines of imports. -/
def CustomTypes.imported (anchor : Regex) (substitutions : List Rule) : CustomTypes :=
  ⟨some anchor, ["q_a: Any\r\nb: Some", "c: int"], substitutions⟩

/-- Two rules act one after the other on generated lines and on declarations alike, so the order in
which they stand counts: the second one sees what the first has put in. The declarations keep their
markers, and the union its types. -/
theorem finishLines_eq_iff_at_two_rules :
    ∃ restoring anchor first second,
      Rule.compile "q_" "g" "" = .ok restoring ∧ compilePattern "^import" "" = .ok (anchor, false) ∧
      Rule.compile "Any" "g" "Some" = .ok first ∧ Rule.compile "Some" "g" "T" = .ok second ∧
      Finished "q_" restoring (some (.imported anchor [first, second])) ["Any"]
        ["q_import", "q_else: Any", "import"]
        ["import", "", "q_a: T", "b: T", "", "c: int", "else: T", "import", "", "Any"] ∧
      Finished "q_" restoring (some (.imported anchor [second, first])) ["Any"]
        ["q_import", "q_else: Any", "import"]
        ["import", "", "q_a: Some", "b: T", "", "c: int", "else: Some", "import", "", "Any"] := by
  have judged :
      (do
        let restoring ← (Rule.compile "q_" "g" "").toOption
        let anchor ← (compilePattern "^import" "").toOption
        let first ← (Rule.compile "Any" "g" "Some").toOption
        let second ← (Rule.compile "Some" "g" "T").toOption
        return (anchor.2, [[first, second], [second, first]].map fun rules =>
          finishLines "q_" restoring (some (.imported anchor.1 rules))
            ["q_import", "q_else: Any", "import"] ["Any"])) =
        some (false,
          [["import", "", "q_a: T", "b: T", "", "c: int", "else: T", "import", "", "Any"],
            ["import", "", "q_a: Some", "b: T", "", "c: int", "else: Some", "import", "",
              "Any"]]) := by
    decide +kernel
  obtain ⟨restoring, restores, judged⟩ := Option.bind_eq_some_iff.mp judged
  obtain ⟨⟨anchor, everywhere⟩, anchors, judged⟩ := Option.bind_eq_some_iff.mp judged
  obtain ⟨first, begins, judged⟩ := Option.bind_eq_some_iff.mp judged
  obtain ⟨second, follows, judged⟩ := Option.bind_eq_some_iff.mp judged
  rw [toOption_eq_some_iff] at restores anchors begins follows
  obtain ⟨once, results⟩ := Prod.mk.inj (Option.some.inj judged)
  obtain ⟨forth, results⟩ := List.cons.inj results
  obtain rfl : everywhere = false := once
  exact ⟨restoring, anchor, first, second, restores, anchors, begins, follows,
    (finishLines_eq_iff ..).1.mp forth, (finishLines_eq_iff ..).1.mp (List.cons.inj results).1⟩

end SchemaBindings
