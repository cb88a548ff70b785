import Mathlib.Data.List.Infix
import Mathlib.Data.List.SplitBy
import SchemaBindings.Proofs.Lines
import SchemaBindings.Proofs.Replacements
import SchemaBindings.Proofs.Rooms

/-!
# The rule that takes markers out of words

The rule that settings come with looks for the marker and a word after it, takes the
marker away and puts a low line behind the word. A word is read to the end of the run of
characters that it stands in, which is also as far as the search can look. So every run
has one match at most, at its first marker that has something after it, and whatever
stands after that marker, other markers included, is part of the word.

Whether such a pattern compiles at all depends on the room that the word characters take,
of which there are several hundred ranges; the bound on that room is enough.
-/
namespace SchemaBindings

open Pattern Unicode

namespace Pattern

/-- A pattern that can be read, has a meaning and is not too large compiles to the program of its
meaning. -/
theorem Regex.compile_of_meaning {source : String} {flags : Flags} {shape : Shape}
    (meant : ((parse source.toList) >>= (·.meaning flags)).map Prod.fst = .ok shape)
    (small : shape.isTooLarge = false) :
    Regex.compile source flags = .ok ⟨source, shape.program,
      (List.range (shape.groups.foldl (fun most group => max most group.1) 0)).map
        fun offset => (shape.groups.lookup (offset + 1)).join⟩ := by
  cases found : (parse source.toList >>= (·.meaning flags)) with
  | error error =>
    rw [found] at meant
    contradiction
  | ok result =>
    rw [found] at meant
    obtain rfl : result.1 = shape := Except.ok.inj meant
    obtain ⟨expression, read, given⟩ := (bind_ok_iff _ _ _).mp found
    simp [compile, read, given, small, bind, Except.bind, pure, Except.pure]

/-- A pattern whose flags can be read and that compiles under them is the pattern of a rule. -/
theorem compilePattern_of_compile {pattern flags : String} {regex : Regex} (read : RuleFlags)
    (given : RuleFlags.read {} flags.toList = .ok read)
    (compiled : Regex.compile pattern read.matching = .ok regex) :
    compilePattern pattern flags = .ok (regex, read.everywhere) := by
  rw [compilePattern, bind_ok_iff]
  refine ⟨read, given, ?_⟩
  rw [compiled]
  rfl

/-- The shape of a text and a word after it, which makes a group. -/
def markedWordShape : Shape :=
  .sequence [.character (.single 'q'), .character (.single 'u'), .character (.single 'i'),
    .character (.single 'c'), .character (.single 'k'), .character (.single 't'),
    .character (.single 'y'), .character (.single 'p'), .character (.single 'e'),
    .character (.single '_'), .group 1 none (.repetition 1 none true (.character .word))]

/-- The pattern is read as this shape. Its text is a closed one, so that reading it is a
computation. -/
theorem markedWordShape_meaning :
    ((parse "quicktype_(\\w+)".toList) >>= (·.meaning {})).map Prod.fst = .ok markedWordShape :=
  rfl

/-- The shape is far below the size at which patterns are refused, though the letters of words are
many ranges. -/
theorem markedWordShape_small : markedWordShape.isTooLarge = false := by
  have word := costs_of_few length_tableRanges_wordTable_le
  have group := (word.repetition 0 true).group 1
  have marker := Outline.costs_literal ['q', 'u', 'i', 'c', 'k', 't', 'y', 'p', 'e', '_']
  have whole := Outline.costs_sequence (.cons marker (.cons group .nil))
  have outline : markedWordShape.outline =
      .sequence [.literal ['q', 'u', 'i', 'c', 'k', 't', 'y', 'p', 'e', '_'],
        .group 1 (.repetition 1 none true (.ofRanges (tableRanges wordTable)))] := rfl
  rw [← outline] at whole
  exact Shape.not_isTooLarge whole (by decide)

/-- The last character before a place. -/
theorem getLast?_or_cons (first : Char) (text : List Char) (before : Option Char) :
    (first :: text).getLast?.or before = text.getLast?.or (some first) := by
  rw [List.getLast?_cons]
  cases text.getLast? <;> rfl

namespace Program

variable {bound shift : Nat} {rest : Rest} {captures : Captures} {tried : Tried}

/-- Read a text, and go on with a program. -/
def spelled (text : List Char) (last : Program) : Program :=
  text.foldr (fun character program => .sequence (.character (.single character)) program) last

/-- Nothing has been spelled in front of the last program. -/
@[simp] theorem spelled_nil (last : Program) : spelled [] last = last := rfl

/-- The first letter is asked for before the others. -/
@[simp] theorem spelled_cons (first : Char) (text : List Char) (last : Program) :
    spelled (first :: text) last =
      .sequence (.character (.single first)) (spelled text last) := rfl

/-- A set of one character contains this character only. -/
theorem contains_single (character other : Char) :
    (CharSet.single character).contains other = (other == character) := by
  rw [CharSet.single, CharSet.contains, Bool.eq_iff_iff]
  simp only [Bool.and_eq_true, decide_eq_true_eq, beq_iff_eq]
  exact ⟨fun ⟨above, below⟩ => Char.le_antisymm below above, fun same => by simp [same]⟩

/-- Where the text stands, the search goes on behind it. -/
theorem run_spelled (text : List Char) (last : Program) (index : Nat) (before : Option Char)
    (after : List Char) :
    (spelled text last).run bound shift rest ⟨index, before, text ++ after⟩ captures tried =
      last.run bound shift rest ⟨index + text.length, text.getLast?.or before, after⟩ captures
        tried := by
  induction text generalizing index before with
  | nil => rfl
  | cons first text inductionHypothesis =>
    have place : index + 1 + text.length = index + (first :: text).length := by
      rw [List.length_cons]
      omega
    simp only [spelled_cons, run, List.cons_append, contains_single, beq_self_eq_true, if_true]
    rw [inductionHypothesis, getLast?_or_cons, place]

/-- Where the text does not stand, nothing is tried. -/
theorem run_spelled_of_other (text : List Char) (last : Program) (index : Nat)
    (before : Option Char) (after : List Char) (apart : ¬ text <+: after) :
    (spelled text last).run bound shift rest ⟨index, before, after⟩ captures tried =
      .error tried := by
  induction text generalizing index before after with
  | nil => exact absurd (List.nil_prefix) apart
  | cons first text inductionHypothesis =>
    rw [spelled_cons, run]
    cases after with
    | nil => rfl
    | cons next after =>
      by_cases same : next = first
      case neg => simp [run, contains_single, same]
      case pos =>
        subst same
        have further : ¬ text <+: after := fun found =>
          apart (List.cons_prefix_cons.mpr ⟨rfl, found⟩)
        simpa [run, contains_single] using inductionHypothesis (index + 1) (some next) after further

end Program

/-- The greatest stretch of characters of a set reaches to the end if all of them are in the set. -/
theorem stretchPlaces_of_all (set : CharSet) (label : Nat) {text : List Char}
    (all : ∀ character ∈ text, set.contains character = true) (index : Nat)
    (before : Option Char) (reached : List Cursor) {tried : Tried} (fresh : Fresh index tried) :
    ∃ others later, stretchPlaces set label index before reached tried text =
      (⟨index + text.length, text.getLast?.or before, []⟩ :: others, later) := by
  induction text generalizing index before reached tried with
  | nil =>
    refine ⟨reached, tried.insert (label, index), ?_⟩
    rw [stretchPlaces, fresh label index (Nat.le_refl _)]
    rfl
  | cons next text inductionHypothesis =>
    obtain ⟨first, others⟩ := List.forall_mem_cons.mp all
    have further : Fresh (index + 1) (tried.insert (label, index)) := by
      intro other place above
      have apart : ((label, index) == (other, place)) = false := by
        simp only [beq_eq_false_iff_ne, ne_eq, Prod.mk.injEq, not_and]
        omega
      rw [Std.HashSet.contains_insert, apart, Bool.false_or]
      exact fresh other place (by omega)
    obtain ⟨places, later, same⟩ := inductionHypothesis others (index + 1) (some next)
      (⟨index, before, next :: text⟩ :: reached) further
    refine ⟨places, later, ?_⟩
    rw [stretchPlaces, fresh label index (Nat.le_refl _)]
    have place : index + 1 + text.length = index + (next :: text).length := by
      rw [List.length_cons]
      omega
    simp only [Bool.false_eq_true, if_false, first, if_true, same, getLast?_or_cons, place]

/-- The text before a word that the rule takes away. -/
def wordMarker : List Char := ['q', 'u', 'i', 'c', 'k', 't', 'y', 'p', 'e', '_']

namespace Program

/-- Read a character of a word, and all that follow it. -/
def word : Program :=
  .sequence (.copies 0 0 (.character .word)) (.sequence (.character .word) (.stretch 0 true .word))

/-- Read the marker and a word after it, which makes a group. -/
def markedWord : Program := spelled wordMarker (.sequence (.group 1 word) .empty)

/-- The program looks at no characters but those that it takes. -/
theorem markedWord_local : markedWord.Local := by decide

/-- The characters of a text are read by sets of their own. -/
theorem sets_spelled (text : List Char) (last : Program) :
    (spelled text last).sets = text.map CharSet.single ++ last.sets := by
  induction text with
  | nil => rfl
  | cons first text inductionHypothesis => simp [sets, inductionHypothesis]

/-- The marker is made of letters that words are made of, so it belongs to the word behind it. -/
theorem isWord_of_mem_wordMarker {letter : Char} (spelled : letter ∈ wordMarker) :
    isWord letter = true := by
  have all : wordMarker.all isWord = true := by decide +kernel
  exact List.all_eq_true.mp all letter spelled

/-- What is no character of a word is passed. -/
theorem markedWord_passes {character : Char} (plain : isWord character = false) :
    markedWord.Passes character := by
  refine ⟨plain, fun set member => ?_⟩
  have sets : (Program.sequence (.group 1 word) .empty).sets = [.word, .word, .word] := rfl
  rw [markedWord, sets_spelled, sets, List.mem_append, List.mem_map] at member
  rcases member with ⟨letter, spelled, rfl⟩ | other
  · rw [contains_single, beq_eq_false_iff_ne]
    rintro rfl
    rw [isWord_of_mem_wordMarker spelled] at plain
    contradiction
  · have same : set = .word := by simpa using other
    rw [same]
    exact plain

variable {bound index : Nat} {before : Option Char} {tried : Tried}

/-- A word is read to its end, if the rest can go on from there. -/
theorem run_word {rest : Rest} {captures : Captures} {first : Char} {others : List Char}
    {reached : Cursor × Captures}
    (all : ∀ character ∈ first :: others, isWord character = true) (fresh : Fresh index tried)
    (ended : ∀ later, rest ⟨index + (first :: others).length, (first :: others).getLast?, []⟩
      captures later = .ok reached) :
    word.run bound 0 rest ⟨index, before, first :: others⟩ captures tried = .ok reached := by
  obtain ⟨head, tail⟩ := List.forall_mem_cons.mp all
  obtain ⟨places, later, read⟩ := stretchPlaces_of_all .word 0 tail
    (index + 1) (some first) [] (fresh.mono (Nat.le_succ index))
  have place : index + 1 + others.length = index + (first :: others).length := by
    rw [List.length_cons]
    omega
  have contained : CharSet.word.contains first = true := head
  have last : others.getLast?.or (some first) = (first :: others).getLast? := by
    rw [← getLast?_or_cons first others none, Option.or_none]
  rw [place, last] at read
  have finished : firstPlace rest captures
      (⟨index + (first :: others).length, (first :: others).getLast?, []⟩ :: places) later =
        .ok reached := by
    rw [firstPlace, ended]
  simp only [word, run, runCopies, contained, if_true, Nat.zero_add, read]
  exact finished

/-- A match begins where the marker and a word stand, and it ends where the word does. -/
theorem matchAt_markedWord {first : Char} {others : List Char}
    (all : ∀ character ∈ first :: others, isWord character = true) (fresh : Fresh index tried) :
    markedWord.matchAt bound ⟨index, before, wordMarker ++ first :: others⟩ tried =
      .ok ⟨index, ⟨index + wordMarker.length + (first :: others).length,
        (first :: others).getLast?, []⟩,
        [(1, index + wordMarker.length, index + wordMarker.length + (first :: others).length)]⟩ := by
  rw [matchAt, markedWord, run_spelled]
  have read : (Program.sequence (.group 1 word) .empty).run bound 0
      (fun stop captures _ => .ok (stop, captures))
      ⟨index + wordMarker.length, wordMarker.getLast?.or before, first :: others⟩ [] tried =
        .ok (⟨index + wordMarker.length + (first :: others).length,
          (first :: others).getLast?, []⟩,
          [(1, index + wordMarker.length,
            index + wordMarker.length + (first :: others).length)]) :=
    run_word all (fresh.mono (Nat.le_add_right index wordMarker.length)) fun later => rfl
  rw [read]

/-- Whether a text begins with the marker and has something after it. -/
def IsMarked (text : List Char) : Prop := wordMarker <+: text ∧ wordMarker.length < text.length

instance (text : List Char) : Decidable (IsMarked text) :=
  inferInstanceAs (Decidable (wordMarker <+: text ∧ wordMarker.length < text.length))

/-- A text that begins with the marker and has something after it is the marker and the rest. -/
theorem isMarked_iff {text : List Char} :
    IsMarked text ↔ ∃ first others, text = wordMarker ++ first :: others := by
  constructor
  · rintro ⟨⟨after, rfl⟩, longer⟩
    rw [List.length_append] at longer
    have some : after ≠ [] := by
      rintro rfl
      simp at longer
    obtain ⟨first, others, rfl⟩ := List.exists_cons_of_ne_nil some
    exact ⟨first, others, rfl⟩
  · rintro ⟨first, others, rfl⟩
    exact ⟨List.prefix_append _ _, by simp⟩

/-- Where no marked word stands, nothing is tried. -/
theorem matchAt_of_not_isMarked {text : List Char} (plain : ¬ IsMarked text) :
    markedWord.matchAt bound ⟨index, before, text⟩ tried = .error tried := by
  rw [matchAt, markedWord]
  by_cases begins : wordMarker <+: text
  case neg => rw [run_spelled_of_other _ _ _ _ _ begins]
  case pos =>
    obtain ⟨after, rfl⟩ := begins
    have nothing : after = [] := by
      by_contra some
      obtain ⟨first, others, rfl⟩ := List.exists_cons_of_ne_nil some
      exact plain (isMarked_iff.mpr ⟨first, others, rfl⟩)
    rw [run_spelled, nothing]
    rfl

/-- Where in a text the first marked word stands. -/
def markedAt? (text : List Char) : Option Nat :=
  text.tails.findIdx? fun rest => decide (IsMarked rest)

/-- A text that begins with a marked word has one at its beginning. -/
theorem markedAt?_of_isMarked {text : List Char} (marked : IsMarked text) :
    markedAt? text = some 0 := by
  cases text <;> simp [markedAt?, List.findIdx?_cons, marked]

/-- Otherwise the first marked word is that of the rest, one character further on. -/
theorem markedAt?_cons_of_not_isMarked {first : Char} {text : List Char}
    (plain : ¬ IsMarked (first :: text)) :
    markedAt? (first :: text) = (markedAt? text).map (· + 1) := by
  simp [markedAt?, List.findIdx?_cons, plain]

/-- The leftmost match in characters of words is at the first marked word, and it ends where they
do. What is tried at other places is nothing that the search would remember. -/
theorem search_markedWord {text : List Char} (all : ∀ character ∈ text, isWord character = true)
    (index : Nat) (before : Option Char) :
    markedWord.search bound ⟨index, before, text⟩ {} =
      (markedAt? text).map fun offset =>
        ⟨index + offset, ⟨index + text.length, text.getLast?.or before, []⟩,
          [(1, index + offset + wordMarker.length, index + text.length)]⟩ := by
  induction text generalizing index before with
  | nil =>
    have plain : ¬ IsMarked [] := by decide
    rw [search_of_error (matchAt_of_not_isMarked plain)]
    rfl
  | cons character text inductionHypothesis =>
    by_cases marked : IsMarked (character :: text)
    case pos =>
      rw [markedAt?_of_isMarked marked]
      obtain ⟨first, others, same⟩ := isMarked_iff.mp marked
      rw [same] at all ⊢
      have later : ∀ character ∈ first :: others, isWord character = true :=
        fun character member => all character (List.mem_append_right _ member)
      have place : index + wordMarker.length + (first :: others).length =
          index + (wordMarker ++ first :: others).length := by
        rw [List.length_append]
        omega
      have last : (first :: others).getLast? =
          (wordMarker ++ first :: others).getLast?.or before := by
        rw [List.getLast?_append]
        simp [List.getLast?_cons]
      rw [search_of_ok (matchAt_markedWord later (fresh_empty index)), place, last]
      rfl
    case neg =>
      obtain ⟨_, others⟩ := List.forall_mem_cons.mp all
      have place : index + 1 + text.length = index + (character :: text).length := by
        rw [List.length_cons]
        omega
      rw [search_of_error (matchAt_of_not_isMarked marked), searchAfter,
        inductionHypothesis others (index + 1) (some character),
        markedAt?_cons_of_not_isMarked marked, Option.map_map, place, getLast?_or_cons]
      refine congrArg (Option.map · (markedAt? text)) (funext fun offset => ?_)
      have moved : index + 1 + offset = index + (offset + 1) := by omega
      simp only [Function.comp_apply, moved]

end Program

end Pattern

/-- The rule that takes the marker away from a word and puts a low line behind it. -/
def Rule.markedWord : Rule where
  regex := ⟨"quicktype_(\\w+)", .markedWord, [none]⟩
  template := [Replacement.Part.group 1, .character '_'].flatMap Replacement.Part.template
  everywhere := true

/-- The pattern, the flags and the replacement that the settings come with compile to this rule. -/
theorem Rule.compile_markedWord :
    Rule.compile "quicktype_(\\w+)" "g" "$1_" = .ok .markedWord := by
  have program : markedWordShape.program = Program.markedWord := rfl
  have names : ((List.range
      (markedWordShape.groups.foldl (fun most group => max most group.1) 0)).map
        fun offset => (markedWordShape.groups.lookup (offset + 1)).join) = [none] := rfl
  have regex := Regex.compile_of_meaning markedWordShape_meaning markedWordShape_small
  rw [program, names] at regex
  have pattern : compilePattern "quicktype_(\\w+)" "g" = .ok (Rule.markedWord.regex, true) :=
    compilePattern_of_compile ⟨true, {}⟩ rfl regex
  have template : Replacement.toTemplate 1 [] "$1_".toList = .ok Rule.markedWord.template := rfl
  rw [Rule.compile_eq pattern]
  exact congrArg (Except.map _) template

/-- A run of characters of words without its first marker that has something after it, and with a
low line at the end. Without such a marker a run stays as it is. -/
def unmarked (run : List Char) : List Char :=
  match Program.markedAt? run with
  | some offset => run.take offset ++ run.drop (offset + wordMarker.length) ++ ['_']
  | none => run

/-- In characters of words the rule takes the first marker away that has something after it. -/
theorem Rule.markedWord_apply {run : String}
    (all : ∀ character ∈ run.toList, isWord character = true) :
    (Rule.markedWord.apply run).toList = unmarked run.toList := by
  rw [toList_apply rfl Program.markedWord_local]
  change Program.markedWord.resume _ _ 0 run.toList
    (Program.markedWord.search _ ⟨0, none, run.toList⟩ {}) = _
  rw [Program.search_markedWord all, unmarked]
  cases Program.markedAt? run.toList with
  | none => rfl
  | some offset =>
    rw [Option.map_some]
    simp only [Nat.zero_add, Option.or_none]
    let found : Match := ⟨offset, ⟨run.toList.length, run.toList.getLast?, []⟩,
      [(1, offset + wordMarker.length, run.toList.length)]⟩
    have captured : found.captured 1 run.toList =
        some (run.toList.drop (offset + wordMarker.length)) := by
      simp [Match.captured, found, List.take_of_length_le]
    have expanded : expand markedWord.template markedWord.regex run.toList found =
        run.toList.drop (offset + wordMarker.length) ++ ['_'] := by
      have known : ∀ part ∈ [Replacement.Part.group 1, .character '_'], part.Known 1 [] := by
        simp [Replacement.Part.Known]
      rw [markedWord, Replacement.expand_flatMap_template (by simp) _ _ known]
      simp [Replacement.Part.text, captured]
    have ended : Program.markedWord.onward run.toList.length found.stop = [] := by
      have inside : found.stop.index + found.stop.after.length = run.toList.length := rfl
      rw [Program.markedWord_local.onward_eq inside]
      simp only [found]
      rw [Program.search_markedWord (by simp)]
      rfl
    rw [Program.resume, expanded, ended]
    simp [splice]

/-- The longest runs of characters of words, and those of other characters between them. -/
def wordRuns (text : List Char) : List (List Char) :=
  text.splitBy fun left right => isWord left == isWord right

/-- Characters of one kind are a run where the next character is of the other kind. -/
theorem wordRuns_append {run rest : List Char} {kind : Bool} (some : run ≠ [])
    (same : ∀ character ∈ run, isWord character = kind)
    (other : ∀ character ∈ rest.head?, isWord character = !kind) :
    wordRuns (run ++ rest) = run :: wordRuns rest := by
  have chain : run.IsChain fun left right => (isWord left == isWord right) = true := by
    refine (List.pairwise_of_forall_mem_list fun left first right second => ?_).isChain
    rw [same left first, same right second, beq_self_eq_true]
  rw [wordRuns, List.splitBy_append, List.splitBy_of_isChain some chain]
  · rfl
  · intro left final right next
    rw [same left (List.mem_of_mem_getLast? final), other right next]
    cases kind <;> rfl

/-- A text begins with a run of either kind, which may be empty. -/
theorem exists_run (kind : Bool) (text : List Char) :
    ∃ run rest, text = run ++ rest ∧ (∀ character ∈ run, isWord character = kind) ∧
      ∀ character ∈ rest.head?, isWord character = !kind := by
  induction text with
  | nil => exact ⟨[], [], rfl, by simp, by simp⟩
  | cons first text inductionHypothesis =>
    obtain ⟨run, rest, rfl, same, other⟩ := inductionHypothesis
    by_cases head : isWord first = kind
    case pos => exact ⟨first :: run, rest, rfl, List.forall_mem_cons.mpr ⟨head, same⟩, other⟩
    case neg =>
      refine ⟨[], first :: (run ++ rest), rfl, by simp, ?_⟩
      rintro character ⟨⟩
      exact Bool.eq_not.mpr head

/-- A run is not empty where the text begins with a character of its kind. -/
theorem run_ne_nil {kind : Bool} {run rest : List Char} (some : run ++ rest ≠ [])
    (begins : ∀ character ∈ (run ++ rest).head?, isWord character = kind)
    (other : ∀ character ∈ rest.head?, isWord character = !kind) : run ≠ [] := by
  rintro rfl
  obtain ⟨first, more, rfl⟩ := List.exists_cons_of_ne_nil some
  have same := begins first rfl
  have differs := other first rfl
  rw [same] at differs
  cases kind <;> contradiction

/-- Words, none of them empty. -/
def AllWords (parts : List (String × String)) : Prop :=
  ∀ part ∈ parts, part.2.toList ≠ [] ∧ ∀ character ∈ part.2.toList, isWord character = true

/-- Text that does not begin with a word is words with other characters between them. -/
theorem exists_spaced (text : List Char)
    (plain : ∀ character ∈ text.head?, isWord character = false) :
    ∃ parts last, text = (spaced parts last).toList ∧
      Separated (isWord · = false) parts last ∧ AllWords parts := by
  induction length : text.length using Nat.strongRecOn generalizing text with
  | ind length inductionHypothesis =>
    subst length
    obtain ⟨gap, rest, rfl, between, begins⟩ := exists_run false text
    by_cases done : rest = []
    case pos =>
      refine ⟨[], .ofList gap, ?_, ⟨by simp, by simp, by simpa using between⟩, by simp [AllWords]⟩
      rw [spaced, String.toList_ofList, done, List.append_nil]
    case neg =>
      obtain ⟨name, more, rfl, letters, follows⟩ := exists_run true rest
      have some : name ≠ [] := run_ne_nil done begins follows
      have present : gap ≠ [] := run_ne_nil (by simp [some]) plain begins
      have shorter : more.length < (gap ++ (name ++ more)).length := by
        have positive := List.length_pos_of_ne_nil some
        simp only [List.length_append]
        omega
      obtain ⟨parts, last, same, spaces, words⟩ := inductionHypothesis _ shorter more follows rfl
      refine ⟨(.ofList gap, .ofList name) :: parts, last, ?_, ⟨?_, ?_, spaces.behind⟩, ?_⟩
      · simp [spaced, ← same]
      · refine List.forall_mem_cons.mpr ⟨?_, spaces.present⟩
        rw [← String.toList_inj.ne]
        simpa using present
      · exact List.forall_mem_cons.mpr ⟨by simpa using between, spaces.between⟩
      · exact List.forall_mem_cons.mpr ⟨by simpa using ⟨some, letters⟩, words⟩

/-- What has no character of a word stays as it is. -/
theorem unmarked_of_no_word {run : List Char}
    (plain : ∀ character ∈ run, isWord character = false) : unmarked run = run := by
  have none : Program.markedAt? run = none := by
    rw [Program.markedAt?, List.findIdx?_eq_none_iff]
    intro rest member
    rw [decide_eq_false_iff_not]
    rintro ⟨⟨after, same⟩, _⟩
    have inside : 'q' ∈ run := ((List.mem_tails _ _).mp member).subset (same ▸ by simp [wordMarker])
    have other := plain 'q' inside
    contradiction
  rw [unmarked, none]

/-- Changing the runs of a text changes the words between the other characters. -/
theorem flatMap_wordRuns_spaced {parts : List (String × String)} {last : String}
    {change : String → String} (spaces : Separated (isWord · = false) parts last)
    (words : AllWords parts)
    (each : ∀ part ∈ parts, (change part.2).toList = unmarked part.2.toList) :
    (wordRuns (spaced parts last).toList).flatMap unmarked =
      (spaced (changed change parts) last).toList := by
  induction parts with
  | nil =>
    rw [spaced, changed, List.map_nil, spaced]
    by_cases none : last.toList = []
    case pos => rw [none]; rfl
    case neg =>
      have single : wordRuns (last.toList ++ []) = [last.toList] :=
        wordRuns_append none spaces.behind (by simp)
      rw [List.append_nil] at single
      simp [single, unmarked_of_no_word spaces.behind]
  | cons part parts inductionHypothesis =>
    obtain ⟨gap, name⟩ := part
    obtain ⟨⟨some, letters⟩, others⟩ := List.forall_mem_cons.mp words
    obtain ⟨made, later⟩ := List.forall_mem_cons.mp each
    have rest := inductionHypothesis spaces.tail others later
    have present : gap.toList ≠ [] := by
      simpa using spaces.present (gap, name) List.mem_cons_self
    have between := spaces.between (gap, name) List.mem_cons_self
    have word : wordRuns (name.toList ++ (spaced parts last).toList) =
        name.toList :: wordRuns (spaced parts last).toList :=
      wordRuns_append some letters spaces.tail.head
    have begins : ∀ character ∈ (name.toList ++ (spaced parts last).toList).head?,
        isWord character = !false := by
      intro character first
      rw [List.head?_append_of_ne_nil _ some] at first
      exact letters character (List.mem_of_mem_head? first)
    have whole := wordRuns_append present between begins
    rw [spaced, String.toList_append, String.toList_append, List.append_assoc, whole, word]
    simp only [List.flatMap_cons, rest, unmarked_of_no_word between, ← made]
    simp [changed, spaced]

/-- The shipped rule changes the words of any text one by one, and nothing else: a run of characters
of words loses its first marker that has something after it and gets a low line at its end. -/
theorem Rule.markedWord_apply_eq (text : String) :
    (Rule.markedWord.apply text).toList = (wordRuns text.toList).flatMap unmarked := by
  obtain ⟨name, rest, split, letters, follows⟩ := exists_run true text.toList
  obtain ⟨parts, last, same, spaces, words⟩ := exists_spaced rest follows
  have whole : text = .ofList name ++ spaced parts last := by
    rw [← String.toList_inj, String.toList_append, String.toList_ofList, split, same]
  have passes : Separated Rule.markedWord.regex.program.Passes parts last :=
    ⟨spaces.present,
      fun part member character inside =>
        Program.markedWord_passes (spaces.between part member character inside),
      fun character inside => Program.markedWord_passes (spaces.behind character inside)⟩
  have others := flatMap_wordRuns_spaced spaces words fun part member =>
    markedWord_apply (words part member).2
  have begun : (Rule.markedWord.apply (.ofList name)).toList = unmarked name := by
    rw [markedWord_apply (by simpa using letters), String.toList_ofList]
  rw [whole, apply_append_spaced rfl Program.markedWord_local passes, String.toList_append, begun,
    String.toList_append, String.toList_ofList]
  by_cases none : name = []
  case pos =>
    rw [none, List.nil_append, others]
    rfl
  case neg =>
    rw [wordRuns_append none letters (same ▸ follows), List.flatMap_cons, others]

/-- The characters of a run are of one kind. -/
theorem same_kind_of_mem_wordRuns {text run : List Char} (member : run ∈ wordRuns text) :
    ∀ left ∈ run, ∀ right ∈ run, isWord left = isWord right := by
  have chain : run.IsChain fun left right => isWord left = isWord right :=
    (List.isChain_of_mem_splitBy member).imp fun left right same => by simpa using same
  clear member
  induction run with
  | nil => simp
  | cons first run inductionHypothesis =>
    have others := inductionHypothesis chain.tail
    have head : ∀ other ∈ run, isWord first = isWord other := by
      cases run with
      | nil => simp
      | cons second run =>
        intro other inside
        exact (List.isChain_cons_cons.mp chain).1.trans
          (others second List.mem_cons_self other inside)
    intro left leftMember right rightMember
    rcases List.mem_cons.mp leftMember with rfl | leftLater
    · rcases List.mem_cons.mp rightMember with rfl | rightLater
      · rfl
      · exact head right rightLater
    · rcases List.mem_cons.mp rightMember with rfl | rightLater
      · exact (head left leftLater).symm
      · exact others left leftLater right rightLater

/-- A run that is the marker and a word becomes the word with a low line behind it. -/
theorem unmarked_of_marker {word : List Char} (some : word ≠ []) :
    unmarked (wordMarker ++ word) = word ++ ['_'] := by
  obtain ⟨first, others, rfl⟩ := List.exists_cons_of_ne_nil some
  rw [unmarked, Program.markedAt?_of_isMarked (Program.isMarked_iff.mpr ⟨first, others, rfl⟩)]
  simp

/-- The pattern, the flags and the replacement that the settings come with compile to a rule that
changes the runs of characters of words in any text, and nothing else: a run loses its first marker
that has something after it and gets a low line at its end. So the marker and a word become the
word with a low line behind it. -/
theorem Rule.shipped_takes_markers :
    ∃ rule, Rule.compile "quicktype_(\\w+)" "g" "$1_" = .ok rule ∧
      (∀ text, (rule.apply text).toList = (wordRuns text.toList).flatMap fun run =>
        if run.all isWord then unmarked run else run) ∧
      ∀ word, word ≠ "" → word.toList.all isWord = true →
        rule.apply ("quicktype_" ++ word) = word ++ "_" := by
  refine ⟨.markedWord, compile_markedWord, fun text => ?_, fun word some letters => ?_⟩
  · rw [markedWord_apply_eq]
    refine List.flatMap_congr fun run member => ?_
    split
    case isTrue => rfl
    case isFalse mixed =>
      obtain ⟨other, inside, plain⟩ : ∃ other ∈ run, isWord other = false := by simpa using mixed
      exact unmarked_of_no_word fun character present =>
        (same_kind_of_mem_wordRuns member character present other inside).trans plain
  · have marker : "quicktype_".toList = wordMarker := rfl
    have spelled : ("quicktype_" ++ word).toList = wordMarker ++ word.toList := by
      rw [String.toList_append, marker]
    have all : ∀ character ∈ ("quicktype_" ++ word).toList, isWord character = true := by
      rw [spelled, List.forall_mem_append]
      exact ⟨fun _ => Program.isWord_of_mem_wordMarker, List.all_eq_true.mp letters⟩
    have present : word.toList ≠ [] := by simpa using some
    rw [← String.toList_inj, markedWord_apply all, spelled, unmarked_of_marker present]
    simp

/-- A marker in the middle of a run is taken away and one at its end is not, and of two markers in
a run only the first one is. -/
theorem Rule.shipped_takes_markers_at_line :
    ∃ rule, Rule.compile "quicktype_(\\w+)" "g" "$1_" = .ok rule ∧
      rule.apply "my_quicktype_if: quicktype_, quicktype_a_quicktype_b;" =
        "my_if_: quicktype_, a_quicktype_b_;" ∧
      rule.apply "quicktype_class" = "class_" := by
  obtain ⟨rule, compiled, changes, single⟩ := Rule.shipped_takes_markers
  refine ⟨rule, compiled, ?_, single "class" (by decide) (by decide +kernel)⟩
  rw [← String.toList_inj, changes]
  decide +kernel

end SchemaBindings
