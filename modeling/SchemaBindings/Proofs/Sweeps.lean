import SchemaBindings.Pattern.Template
import SchemaBindings.Proofs.Parts

/-!
# Replacing in the parts of a line

A line consists of parts with gaps between them. Where a program reads at least one
character, none of which may stand in a gap, and asks only for word characters, of which
there are none in a gap, every match lies in a part, and it is a match of the part by
itself. So replacing all matches of the line replaces those of every part and keeps the
gaps.

The search for the next match goes on with what has been tried in vain, from one part over
a gap into the next one. What counts is that nothing has been tried yet at a place further
on.
-/
namespace SchemaBindings.Pattern

open SchemaBindings.Unicode

/-- Whether nothing was tried from some place on. -/
def Fresh (index : Nat) (tried : Tried) : Prop :=
  ∀ label place, index ≤ place → tried.contains (label, place) = false

/-- Where nothing has been tried, everything is fresh. -/
theorem fresh_empty (index : Nat) : Fresh index {} := fun _ _ _ => Std.HashSet.contains_empty

/-- What is fresh from some place on is fresh from any later one. -/
theorem Fresh.mono {index further : Nat} {tried : Tried} (fresh : Fresh index tried)
    (above : index ≤ further) : Fresh further tried :=
  fun label place bound => fresh label place (Nat.le_trans above bound)

namespace Program

variable (program : Program)

/-- The leftmost match at a place or after it. -/
def search (bound : Nat) (cursor : Cursor) (tried : Tried) : Option Match :=
  program.firstMatch bound cursor.index cursor.before tried cursor.after

/-- The leftmost match after a place at which there is none. -/
def searchAfter (bound index : Nat) (tried : Tried) : List Char → Option Match
  | [] => none
  | next :: rest => program.search bound ⟨index + 1, some next, rest⟩ tried

/-- The leftmost match is the one at the first place, if there is one. -/
theorem search_eq (bound : Nat) (cursor : Cursor) (tried : Tried) :
    program.search bound cursor tried =
      match program.matchAt bound cursor tried with
      | .ok found => some found
      | .error later => program.searchAfter bound cursor.index later cursor.after := by
  obtain ⟨index, before, after⟩ := cursor
  cases after with
  | nil =>
    rw [search, firstMatch]
    cases program.matchAt bound ⟨index, before, []⟩ tried <;> rfl
  | cons next rest =>
    rw [search, firstMatch]
    cases program.matchAt bound ⟨index, before, next :: rest⟩ tried <;> rfl

variable {program} {bound : Nat} {cursor : Cursor} {tried : Tried} {found : Match}

/-- A match at the place itself is what a search finds. -/
theorem search_of_ok (here : program.matchAt bound cursor tried = .ok found) :
    program.search bound cursor tried = some found := by
  rw [search_eq, here]

/-- Without a match at the place itself, the search goes on behind it and remembers what has been
tried. -/
theorem search_of_error {later : Tried} (here : program.matchAt bound cursor tried = .error later) :
    program.search bound cursor tried =
      program.searchAfter bound cursor.index later cursor.after := by
  rw [search_eq, here]

/-- A match at a place begins there. -/
theorem start_of_matchAt (matched : program.matchAt bound cursor tried = .ok found) :
    found.start = cursor.index := by
  rw [matchAt] at matched
  split at matched
  · obtain rfl := Except.ok.inj matched
    rfl
  · contradiction

/-- The leftmost match does not begin before the place where the search began. -/
theorem le_start_of_search (matched : program.search bound cursor tried = some found) :
    cursor.index ≤ found.start := by
  obtain ⟨index, before, after⟩ := cursor
  induction after generalizing index before tried with
  | nil =>
    rw [search_eq] at matched
    split at matched
    case h_1 here =>
      obtain rfl := Option.some.inj matched
      exact Nat.le_of_eq (start_of_matchAt here).symm
    case h_2 => contradiction
  | cons next rest inductionHypothesis =>
    rw [search_eq] at matched
    split at matched
    case h_1 here =>
      obtain rfl := Option.some.inj matched
      exact Nat.le_of_eq (start_of_matchAt here).symm
    case h_2 => exact Nat.le_of_succ_le (inductionHypothesis (index + 1) (some next) matched)

/-- A match after a place begins further on. -/
theorem lt_start_of_searchAfter {index : Nat} {after : List Char}
    (matched : program.searchAfter bound index tried after = some found) : index < found.start := by
  cases after with
  | nil => contradiction
  | cons next rest => exact le_start_of_search matched

end Program

namespace Part

/-- A match in the text for a match in the part. -/
def found (part : Part) (matched : Match) : Match :=
  ⟨part.offset + matched.start, part.place matched.stop, part.moved matched.captures⟩

/-- Whether a program, run on the part in its text, cannot look beyond it. -/
structure Confines (part : Part) (program : Program) : Prop where
  apart : part.Apart
  stops : ∀ set ∈ program.sets, part.Stops set
  boundaries : ∀ condition ∈ program.looks, condition.isBoundary = true

/-- A match of the part that is not empty, with all its stretches. -/
structure Holds (part : Part) (found : Match) : Prop where
  inside : part.Inside found.stop
  reads : found.start < found.stop.index
  bounds : part.Bounds found.captures

variable {part : Part} {program : Program} {inner outer : Tried} {cursor : Cursor}

/-- A match at a place of the part is found in both searches, or in none. -/
theorem Confines.matchAt (confines : part.Confines program) (reads : program.least ≠ 0)
    {bound otherBound : Nat} (enough : part.length < bound) (otherEnough : part.length < otherBound)
    (inside : part.Inside cursor) (alike : part.Alike inner outer) :
    (∃ found, program.matchAt bound cursor inner = .ok found ∧
      program.matchAt otherBound (part.place cursor) outer = .ok (part.found found) ∧
      part.Holds found) ∨
    ∃ innerLater outerLater, program.matchAt bound cursor inner = .error innerLater ∧
      program.matchAt otherBound (part.place cursor) outer = .error outerLater ∧
      part.Later inner outer innerLater outerLater := by
  have agreed := simulates_run confines.apart enough otherEnough program confines.stops
    confines.boundaries 0 (cursor.index + program.least)
    (fun stop captures _ => .ok (stop, captures)) (fun stop captures _ => .ok (stop, captures))
    cursor [] inner outer inside (List.forall_mem_nil _) alike
    fun stop captures innerNow outerNow inside reached bounds _ _ => .ok inside reached bounds
  have none : part.moved [] = [] := rfl
  rw [none] at agreed
  rw [Program.matchAt, Program.matchAt]
  generalize program.run bound 0 _ cursor [] inner = first,
    program.run otherBound 0 _ (part.place cursor) [] outer = second at agreed ⊢
  cases agreed with
  | ok held further bounds =>
    have advanced : cursor.index < cursor.index + program.least := by omega
    exact .inl ⟨_, rfl, rfl, held, Nat.lt_of_lt_of_le advanced further, bounds⟩
  | error later => exact .inr ⟨_, _, rfl, rfl, later⟩

/-- Where nothing has been tried from the beginning of a part on, it is as if the part were searched
alone. -/
theorem alike_of_fresh (fresh : Fresh part.offset outer) : part.Alike {} outer :=
  fun label _ _ => (fresh label _ (Nat.le_add_right _ _)).trans Std.HashSet.contains_empty.symm

/-- What is tried aside of a part leaves fresh what is behind it. -/
theorem Aside.fresh {later : Tried} (aside : part.Aside outer later)
    (fresh : Fresh (part.offset + part.length + 1) outer) :
    Fresh (part.offset + part.length + 1) later := by
  intro label index above
  rw [aside label index (.inr (by omega))]
  exact fresh label index above

/-- What is tried aside of a part may be tried at several times. -/
theorem Aside.trans {middle later : Tried} (first : part.Aside outer middle)
    (second : part.Aside middle later) : part.Aside outer later :=
  fun label index outside => (second label index outside).trans (first label index outside)

/-- The leftmost match from a place of the part on is found in both searches, or it is found by
neither, and the search of the text goes on behind the part. -/
theorem Confines.search (confines : part.Confines program) (reads : program.least ≠ 0)
    {bound otherBound : Nat} (enough : part.length < bound) (otherEnough : part.length < otherBound)
    (inside : part.Inside cursor) (alike : part.Alike inner outer) :
    (∃ found, program.search bound cursor inner = some found ∧
      program.search otherBound (part.place cursor) outer = some (part.found found) ∧
      part.Holds found) ∨
    program.search bound cursor inner = none ∧ ∃ later, part.Aside outer later ∧
      program.search otherBound (part.place cursor) outer =
        program.searchAfter otherBound (part.offset + part.length) later part.after := by
  obtain ⟨index, before, after⟩ := cursor
  induction after generalizing index before inner outer with
  | nil =>
    obtain rfl : index = part.length := by simpa [Inside] using inside
    rcases confines.matchAt reads enough otherEnough inside alike with
      ⟨found, here, there, held⟩ | ⟨innerLater, outerLater, here, there, later⟩
    · exact .inl ⟨found, Program.search_of_ok here, Program.search_of_ok there, held⟩
    · exact .inr ⟨Program.search_of_error here, outerLater, later.aside,
        Program.search_of_error there⟩
  | cons next rest inductionHypothesis =>
    rcases confines.matchAt reads enough otherEnough inside alike with
      ⟨found, here, there, held⟩ | ⟨innerLater, outerLater, here, there, later⟩
    · exact .inl ⟨found, Program.search_of_ok here, Program.search_of_ok there, held⟩
    · rw [Program.search_of_error here, Program.search_of_error there]
      rcases inductionHypothesis later.alike (index + 1) (some next) inside.next with
        ⟨found, here, there, held⟩ | ⟨here, last, aside, there⟩
      · exact .inl ⟨found, here, there, held⟩
      · exact .inr ⟨here, last, later.aside.trans aside, there⟩

end Part

namespace Program

/-- Whether every way through a program reads a character, and all that it asks for around a match
is word characters. -/
structure Local (program : Program) : Prop where
  reads : program.least ≠ 0
  boundaries : ∀ condition ∈ program.looks, condition.isBoundary = true

instance (program : Program) : Decidable program.Local :=
  decidable_of_iff (program.least ≠ 0 ∧ ∀ condition ∈ program.looks, condition.isBoundary = true)
    ⟨fun ⟨reads, boundaries⟩ => ⟨reads, boundaries⟩, fun ⟨reads, boundaries⟩ => ⟨reads, boundaries⟩⟩

/-- Whether a program can neither read a character nor take it for a word character. -/
def Passes (program : Program) (character : Char) : Prop :=
  isWord character = false ∧ ∀ set ∈ program.sets, set.contains character = false

instance (program : Program) : DecidablePred program.Passes := fun character =>
  inferInstanceAs (Decidable (isWord character = false ∧
    ∀ set ∈ program.sets, set.contains character = false))

variable {program : Program} {bound : Nat} {tried : Tried} {gap : List Char}

/-- There is no match at a place between characters that a program passes. -/
theorem Local.matchAt_gap (held : program.Local) (enough : 0 < bound) (cursor : Cursor)
    (fresh : Fresh cursor.index tried)
    (before : ∀ character ∈ cursor.before, isWord character = false)
    (after : ∀ character ∈ cursor.after.head?, program.Passes character) :
    ∃ later, program.matchAt bound cursor tried = .error later ∧
      Fresh (cursor.index + 1) later := by
  -- The empty part at this place has no characters to read.
  let part : Part := ⟨cursor.index, 0, cursor.before, cursor.after⟩
  have confines : part.Confines program :=
    ⟨⟨before, fun character next => (after character next).1⟩,
      fun set member character next => (after character next).2 set member, held.boundaries⟩
  have inside : part.Inside ⟨0, none, []⟩ := rfl
  rcases confines.matchAt held.reads enough enough inside (Part.alike_of_fresh fresh) with
    ⟨found, _, _, matched⟩ | ⟨_, later, _, there, further⟩
  · have last : found.stop.index ≤ 0 := matched.inside.index_le
    have advanced := matched.reads
    omega
  · exact ⟨later, there, further.aside.fresh (fresh.mono (Nat.le_succ _))⟩

/-- The search goes on over a gap. -/
theorem Local.searchAfter_gap (held : program.Local) (enough : 0 < bound)
    (passes : ∀ character ∈ gap, program.Passes character) (present : gap ≠ []) (rest : List Char)
    {index : Nat} (fresh : Fresh (index + 1) tried) :
    ∃ later, Fresh (index + gap.length) later ∧
      program.searchAfter bound index tried (gap ++ rest) =
        program.search bound ⟨index + gap.length, gap.getLast?, rest⟩ later := by
  induction gap generalizing index tried with
  | nil => contradiction
  | cons first gap inductionHypothesis =>
    obtain ⟨passed, others⟩ := List.forall_mem_cons.mp passes
    cases gap with
    | nil => exact ⟨tried, fresh, rfl⟩
    | cons second gap =>
      obtain ⟨later, failed, further⟩ := held.matchAt_gap enough
        ⟨index + 1, some first, second :: gap ++ rest⟩ fresh
        (by simpa using passed.1) (by simpa using others second List.mem_cons_self)
      obtain ⟨last, free, same⟩ := inductionHypothesis others (List.cons_ne_nil _ _) further
      refine ⟨last, ?_, ?_⟩
      · simpa [Nat.add_assoc, Nat.add_comm] using free
      · have moved : index + 1 + (second :: gap).length =
            index + (first :: second :: gap).length := by
          simp only [List.length_cons]
          omega
        rw [moved] at same
        exact (search_of_error failed).trans same

/-- The search over a gap at the end finds nothing. -/
theorem Local.searchAfter_end (held : program.Local) (enough : 0 < bound)
    (passes : ∀ character ∈ gap, program.Passes character) {index : Nat}
    (fresh : Fresh (index + 1) tried) : program.searchAfter bound index tried gap = none := by
  induction gap generalizing index tried with
  | nil => rfl
  | cons first gap inductionHypothesis =>
    obtain ⟨passed, others⟩ := List.forall_mem_cons.mp passes
    obtain ⟨later, failed, further⟩ := held.matchAt_gap enough
      ⟨index + 1, some first, gap⟩ fresh (by simpa using passed.1)
      fun character next => others character (List.mem_of_mem_head? next)
    exact (search_of_error failed).trans (inductionHypothesis others further)

/-- Searched by itself, a text has no match that is empty, and every match ends in the text. -/
theorem Local.holds_of_search (held : program.Local) {length : Nat} {cursor : Cursor}
    {found : Match}
    (inside : cursor.index + cursor.after.length = length)
    (matched : program.search (length + 1) cursor {} = some found) :
    Part.Holds ⟨0, length, none, []⟩ found := by
  let part : Part := ⟨0, length, none, []⟩
  have confines : part.Confines program :=
    ⟨⟨by simp [part], by simp [part]⟩, fun _ _ => by simp [Part.Stops, part], held.boundaries⟩
  rcases confines.search held.reads (Nat.lt_succ_self _) (Nat.lt_succ_self _) inside
    (Part.alike_of_fresh (fresh_empty 0)) with ⟨other, here, _, matching⟩ | ⟨here, _⟩
  · obtain rfl := Option.some.inj (here.symm.trans matched)
    exact matching
  · rw [here] at matched
    contradiction

/-- All matches from a place on. -/
def onward (program : Program) (length : Nat) (cursor : Cursor) : List Match :=
  program.matchesFrom length (cursor.after.length + 1) cursor none

/-- Every round takes the leftmost match, and none of them is passed over. -/
theorem Local.matchesFrom_succ (held : program.Local) {length : Nat} {cursor : Cursor}
    (inside : cursor.index + cursor.after.length = length) (bound : Nat) (last : Option Nat) :
    program.matchesFrom length (bound + 1) cursor last =
      match program.search (length + 1) cursor {} with
      | none => []
      | some found =>
        found :: program.matchesFrom length bound found.stop (some found.stop.index) := by
  rw [matchesFrom]
  change (match program.search (length + 1) cursor {} with | none => [] | some found => _) = _
  split
  case h_1 => rfl
  case h_2 found matched =>
    have matching := held.holds_of_search inside matched
    rw [if_neg fun same => absurd same.1 (Nat.ne_of_lt matching.reads)]

/-- After a match fewer characters are left than before. -/
theorem Local.shorter_of_search (held : program.Local) {length : Nat} {cursor : Cursor}
    {found : Match} (inside : cursor.index + cursor.after.length = length)
    (matched : program.search (length + 1) cursor {} = some found) :
    found.stop.index + found.stop.after.length = length ∧
      found.stop.after.length < cursor.after.length := by
  have matching := held.holds_of_search inside matched
  have within : found.stop.index + found.stop.after.length = length := matching.inside
  have begins := le_start_of_search matched
  have reads := matching.reads
  exact ⟨within, by omega⟩

/-- Rounds enough find all matches, whatever was matched last. -/
theorem Local.matchesFrom_eq (held : program.Local) {length : Nat} {cursor : Cursor}
    (inside : cursor.index + cursor.after.length = length) (enough : cursor.after.length < bound)
    (last : Option Nat) :
    program.matchesFrom length bound cursor last = program.onward length cursor := by
  induction left : cursor.after.length using Nat.strongRecOn
    generalizing cursor bound last with
  | ind count inductionHypothesis =>
    obtain ⟨bound, rfl⟩ := Nat.exists_eq_succ_of_ne_zero (Nat.ne_zero_of_lt enough)
    rw [onward, held.matchesFrom_succ inside, held.matchesFrom_succ inside]
    split
    case h_1 => rfl
    case h_2 found matched =>
      obtain ⟨within, shorter⟩ := held.shorter_of_search inside matched
      rw [inductionHypothesis _ (left ▸ shorter) within (by omega) _ rfl,
        inductionHypothesis _ (left ▸ shorter) within (by omega) _ rfl]

/-- All matches from a place on are the leftmost one and those from its end on. -/
theorem Local.onward_eq (held : program.Local) {length : Nat} {cursor : Cursor}
    (inside : cursor.index + cursor.after.length = length) :
    program.onward length cursor =
      match program.search (length + 1) cursor {} with
      | none => []
      | some found => found :: program.onward length found.stop := by
  rw [onward, held.matchesFrom_succ inside]
  split
  case h_1 => rfl
  case h_2 found matched =>
    obtain ⟨within, shorter⟩ := held.shorter_of_search inside matched
    rw [held.matchesFrom_eq within shorter]

/-- A text with its matches replaced, from a place on at which the leftmost match is known. -/
def resume (program : Program) (length : Nat) (replacement : Match → List Char) (position : Nat)
    (after : List Char) : Option Match → List Char
  | none => after
  | some found => after.take (found.start - position) ++ replacement found ++
      splice replacement found.stop.index found.stop.after (program.onward length found.stop)

/-- Replacing all matches from a place on begins with the leftmost one. -/
theorem Local.splice_onward (held : program.Local) {length : Nat} {cursor : Cursor}
    (inside : cursor.index + cursor.after.length = length) (replacement : Match → List Char) :
    splice replacement cursor.index cursor.after (program.onward length cursor) =
      program.resume length replacement cursor.index cursor.after
        (program.search (length + 1) cursor {}) := by
  rw [held.onward_eq inside]
  cases program.search (length + 1) cursor {} <;> rfl

/-- What stands before the leftmost match is kept. -/
theorem resume_append {length : Nat} {replacement : Match → List Char} {position : Nat}
    (before after : List Char) {matched : Option Match}
    (behind : ∀ found ∈ matched, position + before.length ≤ found.start) :
    program.resume length replacement position (before ++ after) matched =
      before ++ program.resume length replacement (position + before.length) after matched := by
  cases matched with
  | none => rfl
  | some found =>
    have start := behind found rfl
    have length_eq : found.start - position =
        before.length + (found.start - (position + before.length)) := by omega
    rw [resume, resume, length_eq, List.take_append, List.take_of_length_le (by omega)]
    simp

end Program

namespace Part

variable {part : Part} {outer : Tried} {cursor : Cursor} {found : Match}

/-- A place inside of a part, seen in the whole text, has the rest of the text behind it. -/
theorem Inside.place {length : Nat} (inside : part.Inside cursor)
    (whole : part.offset + part.length + part.after.length = length) :
    (part.place cursor).index + (part.place cursor).after.length = length := by
  unfold Inside at inside
  simp only [Part.place, List.length_append]
  omega

/-- Replacing all matches of a text, from a place of a part on, replaces those of the part, and goes
on behind the part. -/
theorem Confines.resume {program : Program} (confines : part.Confines program)
    (held : program.Local) {length : Nat}
    (whole : part.offset + part.length + part.after.length = length)
    {replacement inner : Match → List Char}
    (same : ∀ found, part.Holds found → replacement (part.found found) = inner found)
    (inside : part.Inside cursor) (alike : part.Alike {} outer)
    (fresh : Fresh (part.offset + part.length + 1) outer) :
    ∃ later, Fresh (part.offset + part.length + 1) later ∧
      program.resume length replacement (part.offset + cursor.index) (cursor.after ++ part.after)
          (program.search (length + 1) (part.place cursor) outer) =
        program.resume part.length inner cursor.index cursor.after
            (program.search (part.length + 1) cursor {}) ++
          program.resume length replacement (part.offset + part.length) part.after
            (program.searchAfter (length + 1) (part.offset + part.length) later part.after) := by
  induction left : cursor.after.length using Nat.strongRecOn generalizing cursor outer with
  | ind count inductionHypothesis =>
    rcases confines.search held.reads (Nat.lt_succ_self _) (by omega : part.length < length + 1)
      inside alike with ⟨found, here, there, matching⟩ | ⟨here, later, aside, there⟩
    · have shorter := (held.shorter_of_search inside here).2
      obtain ⟨later, free, rest⟩ := inductionHypothesis _ (left ▸ shorter) matching.inside
        (alike_of_fresh (fresh_empty _)) (fresh_empty _) rfl
      refine ⟨later, free, ?_⟩
      have begins := Program.le_start_of_search here
      have reads := matching.reads
      have bound := matching.inside.index_le
      have kept : (cursor.after ++ part.after).take (part.offset + found.start -
          (part.offset + cursor.index)) = cursor.after.take (found.start - cursor.index) := by
        unfold Inside at inside
        rw [Nat.add_sub_add_left, List.take_append_of_le_length (by omega)]
      have outerRest := held.splice_onward (matching.inside.place whole) replacement
      have innerRest := held.splice_onward matching.inside inner
      calc
        program.resume length replacement (part.offset + cursor.index) (cursor.after ++ part.after)
            (program.search (length + 1) (part.place cursor) outer) =
            cursor.after.take (found.start - cursor.index) ++ inner found ++
              splice replacement (part.place found.stop).index (part.place found.stop).after
                (program.onward length (part.place found.stop)) := by
          rw [there, ← same found matching, ← kept]
          rfl
        _ = cursor.after.take (found.start - cursor.index) ++ inner found ++
              (splice inner found.stop.index found.stop.after
                  (program.onward part.length found.stop) ++
                program.resume length replacement (part.offset + part.length) part.after
                  (program.searchAfter (length + 1) (part.offset + part.length) later
                    part.after)) := by
          rw [outerRest, innerRest]
          exact congrArg _ rest
        _ = _ := by
          rw [here, Program.resume, ← List.append_assoc]
    · have reached : part.offset + cursor.index + cursor.after.length =
          part.offset + part.length := by
        unfold Inside at inside
        omega
      refine ⟨later, aside.fresh fresh, ?_⟩
      rw [here, there, Program.resume_append, reached]
      · rfl
      · intro found matched
        rw [reached]
        exact Nat.le_of_lt (Program.lt_start_of_searchAfter matched)

/-- A stretch of a part is the same stretch of the text. -/
theorem stretch_append (before text after : List Char) {start stop : Nat}
    (bound : stop ≤ text.length) :
    ((before ++ text ++ after).drop (before.length + start)).take
        (before.length + stop - (before.length + start)) =
      (text.drop start).take (stop - start) := by
  rw [Nat.add_sub_add_left, List.append_assoc, List.drop_length_add_append]
  rcases Nat.le_total stop start with none | some
  · simp [Nat.sub_eq_zero_of_le none]
  · rw [List.drop_append_of_le_length (by omega), List.take_append_of_le_length (by simp; omega)]

/-- The stretches of a group are those of the part. -/
theorem lookup_moved (part : Part) (captures : Captures) (group : Nat) :
    (part.moved captures).lookup group =
      (captures.lookup group).map fun bounds =>
        (part.offset + bounds.1, part.offset + bounds.2) := by
  induction captures with
  | nil => rfl
  | cons capture rest inductionHypothesis =>
    obtain ⟨index, bounds⟩ := capture
    by_cases same : group = index
    · simp [moved, same]
    · have other : (group == index) = false := beq_false_of_ne same
      simpa [moved, List.lookup_cons, other] using inductionHypothesis

/-- What a group has matched in a part is the same text. -/
theorem captured_found {before text after : List Char} {edge : Option Char} (group : Nat)
    (matching : Holds ⟨before.length, text.length, edge, after⟩ found) :
    (Part.found ⟨before.length, text.length, edge, after⟩ found).captured group
        (before ++ text ++ after) = found.captured group text := by
  rw [Match.captured, Match.captured]
  split
  · exact congrArg some (stretch_append before text after matching.inside.index_le)
  · rw [Part.found, lookup_moved, Option.map_map]
    cases listed : found.captures.lookup group with
    | none => rfl
    | some bounds =>
      obtain ⟨first, last, split, _⟩ := List.lookup_eq_some_iff.mp listed
      have ended : bounds.2 ≤ text.length := matching.bounds (group, bounds) (by simp [split])
      exact congrArg some (stretch_append before text after ended)

/-- A template is expanded for a match in a part as it is in the text. -/
theorem expand_found {before text after : List Char} {edge : Option Char} (template : List Char)
    (regex : Regex) (matching : Holds ⟨before.length, text.length, edge, after⟩ found) :
    expand template regex (before ++ text ++ after)
        (Part.found ⟨before.length, text.length, edge, after⟩ found) =
      expand template regex text found := by
  have values : (fun reference : Reference => reference.text regex (before ++ text ++ after)
      (Part.found ⟨before.length, text.length, edge, after⟩ found)) =
        fun reference => reference.text regex text found := by
    funext reference
    cases reference <;> simp only [Reference.text, captured_found _ matching]
  rw [expand, expand, values]

end Part

end SchemaBindings.Pattern
