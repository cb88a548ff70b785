import Mathlib.Data.List.Basic
import SchemaBindings.Pattern.Search

/-!
# Matching in a part of a text

A part of a text may be searched by itself or in its place. The outcome is the same if
the search cannot look beyond the part: the character after it belongs to no set of which
the program reads characters, and the only conditions are those on word characters, of
which there are none around the part.

The two searches are compared construct by construct. What a construct makes of the rest
of a match is simulated, if it turns rests that agree on the part into attempts that do.
To agree, two attempts end at the same place of the part, or have both tried the same
places of the part in vain. For a construct that reads characters, the rests have to agree
only so many characters further on. A place that was tried counts for both, so loops that
take different numbers of rounds still come to the same.
-/
namespace SchemaBindings.Pattern

open SchemaBindings.Unicode

/-- Whether a condition asks only for word characters. -/
def Look.isBoundary : Look → Bool
  | .boundary _ _ => true
  | _ => false

namespace Program

/-- The sets of which a program reads characters. -/
def sets : Program → List CharSet
  | .empty => []
  | .character set => [set]
  | .look _ => []
  | .group _ body => body.sets
  | .sequence first second => first.sets ++ second.sets
  | .choice _ first second => first.sets ++ second.sets
  | .stretch _ _ set => [set]
  | .star _ _ body => body.sets
  | .copies _ _ body => body.sets
  | .optionalCopies _ _ _ _ body => body.sets

/-- The conditions of a program. -/
def looks : Program → List Look
  | .look condition => [condition]
  | .group _ body => body.looks
  | .sequence first second => first.looks ++ second.looks
  | .choice _ first second => first.looks ++ second.looks
  | .star _ _ body => body.looks
  | .copies _ _ body => body.looks
  | .optionalCopies _ _ _ _ body => body.looks
  | _ => []

/-- A number of characters that every way through a program reads. -/
def least : Program → Nat
  | .character _ => 1
  | .group _ body => body.least
  | .sequence first second => first.least + second.least
  | .choice _ first second => min first.least second.least
  | .copies count _ body => count * body.least
  | _ => 0

end Program

/-- What was tried at some time was tried at a later time. -/
def Grown (earlier later : Tried) : Prop :=
  ∀ entry, earlier.contains entry = true → later.contains entry = true

/-- Nothing has been added. -/
theorem Grown.refl (tried : Tried) : Grown tried tried := fun _ => id

/-- What has grown twice has grown. -/
theorem Grown.trans {first second third : Tried} (earlier : Grown first second)
    (later : Grown second third) : Grown first third :=
  fun entry present => later entry (earlier entry present)

/-- An entry that is added leaves all others in their place. -/
theorem Grown.insert (tried : Tried) (entry : Nat × Nat) : Grown tried (tried.insert entry) :=
  fun other present => by simp [Std.HashSet.contains_insert, present]

/-- A part of a text: where it begins, how long it is, the character before it and the text after
it. -/
structure Part where
  offset : Nat
  length : Nat
  before : Option Char
  after : List Char

namespace Part

/-- The place in the text of a place in the part. -/
def place (part : Part) (cursor : Cursor) : Cursor :=
  ⟨part.offset + cursor.index, cursor.before.or part.before, cursor.after ++ part.after⟩

/-- The stretches of the text for stretches of the part. -/
def moved (part : Part) (captures : Captures) : Captures :=
  captures.map fun capture => (capture.1, part.offset + capture.2.1, part.offset + capture.2.2)

/-- Whether a place is one of the part. -/
def Inside (part : Part) (cursor : Cursor) : Prop :=
  cursor.index + cursor.after.length = part.length

/-- Whether stretches end in the part. -/
def Bounds (part : Part) (captures : Captures) : Prop :=
  ∀ capture ∈ captures, capture.2.2 ≤ part.length

/-- Whether the same places of the part were tried in both searches. -/
def Alike (part : Part) (inner outer : Tried) : Prop :=
  ∀ label index, index ≤ part.length →
    outer.contains (label, part.offset + index) = inner.contains (label, index)

/-- Whether the same places outside of the part were tried at two times. -/
def Aside (part : Part) (earlier later : Tried) : Prop :=
  ∀ label index, index < part.offset ∨ part.offset + part.length < index →
    later.contains (label, index) = earlier.contains (label, index)

/-- What was tried in both searches at some time, and at a later time. -/
structure Later (part : Part) (inner outer innerLater outerLater : Tried) : Prop where
  alike : part.Alike innerLater outerLater
  grown : Grown inner innerLater
  aside : part.Aside outer outerLater

/-- Whether two attempts come to the same, not before the given number of characters. -/
inductive Agree (part : Part) (least : Nat) (inner outer : Tried) : Attempt → Attempt → Prop
  | ok {stop : Cursor} {captures : Captures} (inside : part.Inside stop)
    (enough : least ≤ stop.index) (bounds : part.Bounds captures) :
    Agree part least inner outer (.ok (stop, captures)) (.ok (part.place stop, part.moved captures))
  | error {innerLater outerLater : Tried} (later : part.Later inner outer innerLater outerLater) :
    Agree part least inner outer (.error innerLater) (.error outerLater)

/-- Whether two rests come to the same at all places of the part from a floor on, whatever has been
tried in addition. -/
def RestsAgree (part : Part) (least floor : Nat) (inner : Tried) (rest other : Rest) : Prop :=
  ∀ cursor captures innerNow outerNow, part.Inside cursor → floor ≤ cursor.index →
    part.Bounds captures → part.Alike innerNow outerNow → Grown inner innerNow →
    part.Agree least innerNow outerNow (rest cursor captures innerNow)
      (other (part.place cursor) (part.moved captures) outerNow)

/-- Whether two constructs come to the same, if the rests do so the given number of characters
further on. -/
def Simulates (part : Part) (length : Nat) (run other : Rest → Rest) : Prop :=
  ∀ least rest otherRest cursor captures inner outer, part.Inside cursor → part.Bounds captures →
    part.Alike inner outer → part.RestsAgree least (cursor.index + length) inner rest otherRest →
    part.Agree least inner outer (run rest cursor captures inner)
      (other otherRest (part.place cursor) (part.moved captures) outer)

variable {part : Part} {inner outer innerLater outerLater : Tried} {least floor length : Nat}
variable {rest otherRest : Rest} {cursor : Cursor} {captures : Captures}

/-- A place in a part is as much further on in the whole text as the part begins in it. -/
@[simp] theorem place_index (part : Part) (cursor : Cursor) :
    (part.place cursor).index = part.offset + cursor.index := rfl

/-- A place inside of a part is not behind its end. -/
theorem Inside.index_le (inside : part.Inside cursor) : cursor.index ≤ part.length := by
  unfold Inside at inside
  omega

/-- From a place inside of a part that is not its end, the next one is inside as well. -/
theorem Inside.next {index : Nat} {before : Option Char} {next : Char} {after : List Char}
    (inside : part.Inside ⟨index, before, next :: after⟩) :
    part.Inside ⟨index + 1, some next, after⟩ := by
  unfold Inside at *
  simp only [List.length_cons] at inside ⊢
  omega

/-- To begin with, nothing has happened to either of the two. -/
theorem Later.refl (alike : part.Alike inner outer) : part.Later inner outer inner outer :=
  ⟨alike, .refl inner, fun _ _ _ => rfl⟩

/-- What happens later to both happens later still. -/
theorem Later.trans {innerLast outerLast : Tried}
    (first : part.Later inner outer innerLater outerLater)
    (second : part.Later innerLater outerLater innerLast outerLast) :
    part.Later inner outer innerLast outerLast :=
  ⟨second.alike, first.grown.trans second.grown, fun label index outside =>
    (second.aside label index outside).trans (first.aside label index outside)⟩

/-- Trying one more place of the part. -/
theorem Later.insert (alike : part.Alike inner outer) (label : Nat) {index : Nat}
    (inside : index ≤ part.length) :
    part.Later inner outer (inner.insert (label, index))
      (outer.insert (label, part.offset + index)) where
  alike other place bound := by
    rw [Std.HashSet.contains_insert, Std.HashSet.contains_insert, alike other place bound]
    congr 1
    rw [Bool.eq_iff_iff]
    simp
  grown := .insert inner _
  aside other place outside := by
    have apart : ((label, part.offset + index) == (other, place)) = false := by
      refine beq_false_of_ne fun same => ?_
      obtain ⟨_, rfl⟩ := Prod.mk.inj same
      omega
    rw [Std.HashSet.contains_insert, apart, Bool.false_or]

/-- Attempts that agree, given what was tried later, agree. -/
theorem Agree.earlier {first second : Attempt}
    (agree : part.Agree least innerLater outerLater first second)
    (later : part.Later inner outer innerLater outerLater) :
    part.Agree least inner outer first second := by
  cases agree with
  | ok inside enough bounds => exact .ok inside enough bounds
  | error last => exact .error (later.trans last)

/-- Programs that agree from some place on agree from any later one, with more that has been tried.
-/
theorem RestsAgree.mono {higher : Nat} (agree : part.RestsAgree least floor inner rest otherRest)
    (above : floor ≤ higher) (grown : Grown inner innerLater) :
    part.RestsAgree least higher innerLater rest otherRest :=
  fun cursor captures innerNow outerNow inside reached bounds alike now =>
    agree cursor captures innerNow outerNow inside (Nat.le_trans above reached) bounds alike
      (grown.trans now)

/-- Two ways, of which the second is gone if the first fails. -/
theorem Agree.orElse {first otherFirst : Attempt} {second otherSecond : Tried → Attempt}
    (agree : part.Agree least inner outer first otherFirst)
    (after : ∀ innerLater outerLater, part.Later inner outer innerLater outerLater →
      part.Agree least innerLater outerLater (second innerLater) (otherSecond outerLater)) :
    part.Agree least inner outer (Pattern.orElse first second)
      (Pattern.orElse otherFirst otherSecond) := by
  cases agree with
  | ok inside enough bounds => exact .ok inside enough bounds
  | error later => exact (after _ _ later).earlier later

/-- A numbered place is visited in both searches or in none. -/
theorem Agree.visit (label : Nat) {index : Nat} {way otherWay : Tried → Attempt}
    (alike : part.Alike inner outer) (inside : index ≤ part.length)
    (inserted : part.Later inner outer (inner.insert (label, index))
        (outer.insert (label, part.offset + index)) →
      part.Agree least (inner.insert (label, index)) (outer.insert (label, part.offset + index))
        (way (inner.insert (label, index)))
        (otherWay (outer.insert (label, part.offset + index)))) :
    part.Agree least inner outer (Pattern.visit label index inner way)
      (Pattern.visit label (part.offset + index) outer otherWay) := by
  rw [Pattern.visit, Pattern.visit, alike label index inside]
  split
  · exact .error (.refl alike)
  · have later := Later.insert alike label inside
    exact (inserted later).earlier later

namespace Simulates

variable {run other second otherSecond : Rest → Rest} {further : Nat}

/-- A program that takes no more than a length takes no more than a greater one. -/
theorem mono (simulates : part.Simulates further run other) (bound : length ≤ further) :
    part.Simulates length run other :=
  fun least rest otherRest cursor captures inner outer inside bounds alike agree =>
    simulates least rest otherRest cursor captures inner outer inside bounds alike
      (agree.mono (by omega) (.refl inner))

/-- To do nothing is the same in a part and in the whole text. -/
theorem nothing : part.Simulates 0 id id :=
  fun _ _ _ cursor captures inner outer inside bounds alike agree =>
    agree cursor captures inner outer inside (Nat.le_refl _) bounds alike (.refl inner)

/-- Two programs one after the other, of which each does the same in a part as in the whole text, do
so together. The lengths add up. -/
theorem sequence (first : part.Simulates length run other)
    (next : part.Simulates further second otherSecond) :
    part.Simulates (length + further) (run ∘ second) (other ∘ otherSecond) := by
  intro least rest otherRest cursor captures inner outer inside bounds alike agree
  refine first least _ _ cursor captures inner outer inside bounds alike ?_
  intro later captures innerNow outerNow inside reached bounds alike grown
  exact next least rest otherRest later captures innerNow outerNow inside bounds alike
    (agree.mono (by omega) grown)

/-- Copies are simulated if each of them is. -/
theorem copies {copy otherCopy : Nat → Rest → Rest}
    (each : ∀ number, part.Simulates length (copy number) (otherCopy number)) (count : Nat) :
    ∀ number, part.Simulates (count * length) (runCopies copy count number)
      (runCopies otherCopy count number) := by
  induction count with
  | zero =>
    intro number
    rw [Nat.zero_mul]
    exact nothing
  | succ count inductionHypothesis =>
    intro number
    rw [Nat.succ_mul, Nat.add_comm]
    exact (each number).sequence (inductionHypothesis (number + 1))

/-- Either way at a numbered place, the rest or one more time a construct before what follows it. -/
theorem leaveOrAgain (label : Nat) (greedy : Bool) (inside : part.Inside cursor)
    (bounds : part.Bounds captures) (alike : part.Alike inner outer)
    (agree : part.RestsAgree least cursor.index inner rest otherRest)
    (body : part.Simulates 0 run other) {again otherAgain : Rest}
    (more : part.RestsAgree least cursor.index (inner.insert (label, cursor.index)) again
      otherAgain) :
    part.Agree least inner outer
      (visit label cursor.index inner fun tried =>
        if greedy then orElse (run again cursor captures tried) (rest cursor captures)
        else orElse (rest cursor captures tried) (run again cursor captures))
      (visit label (part.place cursor).index outer fun tried =>
        if greedy then
          orElse (other otherAgain (part.place cursor) (part.moved captures) tried)
            (otherRest (part.place cursor) (part.moved captures))
        else
          orElse (otherRest (part.place cursor) (part.moved captures) tried)
            (other otherAgain (part.place cursor) (part.moved captures))) := by
  refine Agree.visit label alike inside.index_le fun inserted => ?_
  have leave : ∀ innerNow outerNow,
      part.Later (inner.insert (label, cursor.index))
        (outer.insert (label, part.offset + cursor.index)) innerNow outerNow →
      part.Agree least innerNow outerNow (rest cursor captures innerNow)
        (otherRest (part.place cursor) (part.moved captures) outerNow) :=
    fun innerNow outerNow later => agree cursor captures innerNow outerNow inside (Nat.le_refl _)
      bounds later.alike (inserted.grown.trans later.grown)
  have enter : ∀ innerNow outerNow,
      part.Later (inner.insert (label, cursor.index))
        (outer.insert (label, part.offset + cursor.index)) innerNow outerNow →
      part.Agree least innerNow outerNow (run again cursor captures innerNow)
        (other otherAgain (part.place cursor) (part.moved captures) outerNow) :=
    fun innerNow outerNow later =>
      body least again otherAgain cursor captures innerNow outerNow inside bounds later.alike
        (more.mono (Nat.le_refl _) later.grown)
  have now := Later.refl inserted.alike
  split
  · exact (enter _ _ now).orElse leave
  · exact (leave _ _ now).orElse enter

/-- Copies that may be left out are simulated if each of them is. -/
theorem optional {copy otherCopy : Nat → Rest → Rest} (label : Nat → Nat) (greedy : Bool)
    (each : ∀ number, part.Simulates 0 (copy number) (otherCopy number)) (count : Nat) :
    ∀ number, part.Simulates 0
      (fun rest => runOptional copy label greedy rest count number)
      (fun rest => runOptional otherCopy label greedy rest count number) := by
  induction count with
  | zero => exact fun number => nothing
  | succ count inductionHypothesis =>
    intro number least rest otherRest cursor captures inner outer inside bounds alike agree
    refine leaveOrAgain (label number) greedy inside bounds alike agree (each number) ?_
    intro later captures innerNow outerNow inside reached bounds alike grown
    refine inductionHypothesis (number + 1) least rest otherRest later captures innerNow outerNow
      inside bounds alike (agree.mono reached ?_)
    exact (Grown.insert inner _).trans grown

/-- A loop that comes back to a numbered place is given up, whatever its bound. -/
theorem rounds_of_tried (round : Rest → Rest) (label : Nat) (greedy : Bool) (rest : Rest)
    (bound : Nat) (cursor : Cursor) (captures : Captures) {tried : Tried}
    (present : tried.contains (label, cursor.index) = true) :
    rounds round label greedy rest bound cursor captures tried = .error tried := by
  cases bound with
  | zero => rfl
  | succ bound => rw [rounds, visit, if_pos present]

/-- A loop is simulated if its rounds are, as soon as the bounds are greater than the number of
characters that are left. -/
theorem rounds {round otherRound : Rest → Rest} (label : Nat) (greedy : Bool)
    (each : part.Simulates 0 round otherRound) {bound otherBound : Nat}
    (enough : part.length < bound) (otherEnough : part.length < otherBound) :
    part.Simulates 0 (fun rest => Pattern.rounds round label greedy rest bound)
      (fun rest => Pattern.rounds otherRound label greedy rest otherBound) := by
  intro least rest otherRest cursor captures inner outer inside bounds alike agree
  replace enough : cursor.after.length < bound := by unfold Inside at inside; omega
  replace otherEnough : cursor.after.length < otherBound := by unfold Inside at inside; omega
  induction bound generalizing otherBound cursor captures inner outer with
  | zero => contradiction
  | succ bound inductionHypothesis =>
    obtain _ | otherBound := otherBound
    · contradiction
    refine leaveOrAgain label greedy inside bounds alike agree each ?_
    intro later captures innerNow outerNow inside' reached bounds alike grown
    rcases Nat.eq_or_lt_of_le reached with same | further
    · -- The body has read nothing, so its end is a place that was tried when the round began.
      have present : innerNow.contains (label, later.index) = true :=
        grown _ (by simp [same])
      have otherPresent : outerNow.contains (label, (part.place later).index) = true :=
        (alike label later.index inside'.index_le).trans present
      rw [rounds_of_tried round label greedy rest bound later captures present,
        rounds_of_tried otherRound label greedy otherRest otherBound _ _ otherPresent]
      exact .error (.refl alike)
    · have shorter : later.after.length < cursor.after.length := by
        unfold Inside at inside inside'
        omega
      exact inductionHypothesis later captures innerNow outerNow inside' bounds alike
        (agree.mono reached ((Grown.insert inner _).trans grown)) (by omega) (by omega)

/-- A group notes the same stretch of the part. -/
theorem group (index : Nat) (body : part.Simulates length run other) :
    part.Simulates length
      (fun rest cursor => run
        (fun stop inner => rest stop ((index, cursor.index, stop.index) :: inner)) cursor)
      (fun rest cursor => other
        (fun stop inner => rest stop ((index, cursor.index, stop.index) :: inner)) cursor) := by
  intro least rest otherRest cursor captures inner outer inside bounds alike agree
  refine body least _ _ cursor captures inner outer inside bounds alike ?_
  intro stop captures innerNow outerNow inside' reached bounds alike grown
  exact agree stop ((index, cursor.index, stop.index) :: captures) innerNow outerNow inside' reached
    (List.forall_mem_cons.mpr ⟨inside'.index_le, bounds⟩) alike grown

/-- A choice is simulated if its branches are. -/
theorem choice (label : Nat) (first : part.Simulates length run other)
    (next : part.Simulates length second otherSecond) :
    part.Simulates length
      (fun rest cursor captures tried => visit label cursor.index tried fun tried =>
        orElse (run rest cursor captures tried) (second rest cursor captures))
      (fun rest cursor captures tried => visit label cursor.index tried fun tried =>
        orElse (other rest cursor captures tried) (otherSecond rest cursor captures)) := by
  intro least rest otherRest cursor captures inner outer inside bounds alike agree
  refine Agree.visit label alike inside.index_le fun inserted => Agree.orElse ?_ ?_
  · exact first least rest otherRest cursor captures _ _ inside bounds inserted.alike
      (agree.mono (Nat.le_refl _) inserted.grown)
  · intro innerLater outerLater later
    exact next least rest otherRest cursor captures _ _ inside bounds later.alike
      (agree.mono (Nat.le_refl _) (inserted.grown.trans later.grown))

end Simulates

/-- Whether no character of a set can follow the part. -/
def Stops (part : Part) (set : CharSet) : Prop :=
  ∀ character ∈ part.after.head?, set.contains character = false

/-- Whether no word character stands before the part, and none follows it. -/
structure Apart (part : Part) : Prop where
  before : ∀ character ∈ part.before, isWord character = false
  after : ∀ character ∈ part.after.head?, isWord character = false

/-- The word characters of ASCII are characters of ASCII. -/
theorem toNat_lt_of_isAsciiWord {character : Char} (word : isAsciiWord character = true) :
    character.toNat < 128 := by
  have bounded {last : Char} (less : character ≤ last) (bound : last.toNat < 128) :
      character.toNat < 128 :=
    Nat.lt_of_le_of_lt (UInt32.le_iff_toNat_le.mp (Char.le_def.mp less)) bound
  simp only [isAsciiWord, isAsciiLetter, isAsciiDigit, Bool.or_eq_true, Bool.and_eq_true,
    decide_eq_true_eq, beq_iff_eq] at word
  rcases word with ((⟨_, small⟩ | ⟨_, capital⟩) | ⟨_, digit⟩) | mark
  · exact bounded small (by decide)
  · exact bounded capital (by decide)
  · exact bounded digit (by decide)
  · rw [mark]
    decide

/-- A character that is no word character is none among ASCII characters either. -/
theorem isAsciiWord_eq_false {character : Char} (other : isWord character = false) :
    isAsciiWord character = false := by
  rw [isWord] at other
  split at other
  case isTrue => exact other
  case isFalse large =>
    rw [← Bool.not_eq_true]
    exact fun word => large (toNat_lt_of_isAsciiWord word)

/-- The conditions on word characters hold at the same places of the part. -/
theorem Apart.holds_place (apart : part.Apart) {condition : Look}
    (boundary : condition.isBoundary = true) (cursor : Cursor) :
    condition.holds (part.place cursor) = condition.holds cursor := by
  have words (unicode : Bool) : (part.place cursor).words unicode = cursor.words unicode := by
    have plain : ∀ character, isWord character = false →
        (if unicode then isWord else isAsciiWord) character = false := by
      intro character other
      cases unicode with
      | false => simpa using isAsciiWord_eq_false other
      | true => simpa using other
    obtain ⟨index, before, after⟩ := cursor
    refine Prod.ext ?_ ?_
    · cases before with
      | some character => simp [place, Cursor.words]
      | none =>
        cases bordering : part.before with
        | none => simp [place, Cursor.words, bordering]
        | some character =>
          simp [place, Cursor.words, bordering, plain character (apart.before _ bordering)]
    · cases after with
      | cons character after => simp [place, Cursor.words]
      | nil =>
        cases bordering : part.after.head? with
        | none => simp [place, Cursor.words, bordering]
        | some character =>
          simp [place, Cursor.words, bordering, plain character (apart.after _ bordering)]
  cases condition with
  | boundary kind unicode => simp only [Look.holds, words]
  | _ => contradiction

namespace Simulates

variable {set : CharSet}

/-- A character of the part is read in both searches, and the one that follows the part in none. -/
theorem character (stops : part.Stops set) (bound otherBound shift : Nat) :
    part.Simulates 1 ((Program.character set).run bound shift)
      ((Program.character set).run otherBound shift) := by
  intro least rest otherRest cursor captures inner outer inside bounds alike agree
  obtain ⟨index, before, after⟩ := cursor
  have failed : part.Agree least inner outer (.error inner) (.error outer) :=
    .error (Later.refl alike)
  cases after with
  | nil =>
    cases following : part.after with
    | nil => simpa [Program.run, place, following] using failed
    | cons next after =>
      have away := stops next (by simp [following])
      simpa [Program.run, place, following, away] using failed
  | cons next after =>
    by_cases member : set.contains next = true
    · have moved := agree ⟨index + 1, some next, after⟩ captures inner outer inside.next
        (Nat.le_refl _) bounds alike (.refl inner)
      simpa [Program.run, place, member, Nat.add_assoc] using moved
    · simpa [Program.run, place, member] using failed

/-- A condition on word characters holds in both searches or in none. -/
theorem look (apart : part.Apart) {condition : Look} (boundary : condition.isBoundary = true)
    (bound otherBound shift : Nat) :
    part.Simulates 0 ((Program.look condition).run bound shift)
      ((Program.look condition).run otherBound shift) := by
  intro least rest otherRest cursor captures inner outer inside bounds alike agree
  rw [Program.run, Program.run, apart.holds_place boundary cursor]
  split
  · exact agree cursor captures inner outer inside (Nat.le_refl _) bounds alike (.refl inner)
  · exact .error (.refl alike)

end Simulates

/-- The longest stretch of characters of a set, from a place of the part, has the same places in
both searches: it ends where the part does. -/
theorem Stops.stretchPlaces {set : CharSet} (stops : part.Stops set) (label : Nat) :
    ∀ (after : List Char) (index : Nat) (before : Option Char) (reached : List Cursor)
      (inner outer : Tried), part.Inside ⟨index, before, after⟩ → part.Alike inner outer →
      ∃ places innerLater outerLater,
        Pattern.stretchPlaces set label index before reached inner after =
          (places ++ reached, innerLater) ∧
        Pattern.stretchPlaces set label (part.offset + index) (before.or part.before)
            (reached.map part.place) outer (after ++ part.after) =
          ((places ++ reached).map part.place, outerLater) ∧
        part.Later inner outer innerLater outerLater ∧
        ∀ cursor ∈ places, part.Inside cursor ∧ index ≤ cursor.index := by
  intro after
  induction after with
  | nil =>
    intro index before reached inner outer inside alike
    have tried := alike label index inside.index_le
    by_cases present : inner.contains (label, index) = true
    · refine ⟨[], inner, outer, by simp [Pattern.stretchPlaces, present], ?_, .refl alike, by simp⟩
      cases following : part.after <;> simp [Pattern.stretchPlaces, tried, present]
    · refine ⟨[⟨index, before, []⟩], _, _, by simp [Pattern.stretchPlaces, present], ?_,
        .insert alike label inside.index_le, by simpa using inside⟩
      cases following : part.after with
      | nil => simp [Pattern.stretchPlaces, tried, present, place, following]
      | cons next after =>
        have away := stops next (by simp [following])
        simp [Pattern.stretchPlaces, tried, present, place, following, away]
  | cons next after inductionHypothesis =>
    intro index before reached inner outer inside alike
    have tried := alike label index inside.index_le
    by_cases present : inner.contains (label, index) = true
    · exact ⟨[], inner, outer, by simp [Pattern.stretchPlaces, present],
        by simp [Pattern.stretchPlaces, tried, present], .refl alike, by simp⟩
    · have inserted := Later.insert alike label inside.index_le
      by_cases member : set.contains next = true
      · obtain ⟨places, innerLater, outerLater, first, second, later, within⟩ :=
          inductionHypothesis (index + 1) (some next) (⟨index, before, next :: after⟩ :: reached)
            _ _ inside.next inserted.alike
        refine ⟨places ++ [⟨index, before, next :: after⟩], innerLater, outerLater, ?_, ?_,
          inserted.trans later, ?_⟩
        · simpa [Pattern.stretchPlaces, present, member] using first
        · simpa [Pattern.stretchPlaces, tried, present, member, place, Nat.add_assoc] using second
        · intro cursor listed
          rcases List.mem_append.mp listed with listed | listed
          · obtain ⟨held, further⟩ := within cursor listed
            exact ⟨held, Nat.le_of_succ_le further⟩
          · obtain rfl := List.mem_singleton.mp listed
            exact ⟨inside, Nat.le_refl _⟩
      · exact ⟨[⟨index, before, next :: after⟩], _, _,
          by simp [Pattern.stretchPlaces, present, member],
          by simp [Pattern.stretchPlaces, tried, present, member, place], inserted,
          by simpa using inside⟩

/-- The first of several places of the part from which the rest succeeds is the same. -/
theorem RestsAgree.firstPlace (agree : part.RestsAgree least floor inner rest otherRest)
    (bounds : part.Bounds captures) :
    ∀ (places : List Cursor) (innerNow outerNow : Tried), part.Alike innerNow outerNow →
      Grown inner innerNow → (∀ cursor ∈ places, part.Inside cursor ∧ floor ≤ cursor.index) →
      part.Agree least innerNow outerNow (Pattern.firstPlace rest captures places innerNow)
        (Pattern.firstPlace otherRest (part.moved captures) (places.map part.place) outerNow) := by
  intro places
  induction places with
  | nil => exact fun innerNow outerNow alike _ _ => .error (.refl alike)
  | cons cursor places inductionHypothesis =>
    intro innerNow outerNow alike grown within
    obtain ⟨⟨inside, reached⟩, others⟩ := List.forall_mem_cons.mp within
    have first := agree cursor captures innerNow outerNow inside reached bounds alike grown
    rw [List.map_cons, Pattern.firstPlace, Pattern.firstPlace]
    exact first.orElse fun innerLater outerLater later =>
      inductionHypothesis innerLater outerLater later.alike (grown.trans later.grown) others

namespace Simulates

variable {set : CharSet}

/-- The longest stretch of characters comes to the same. -/
theorem longStretch (stops : part.Stops set) (bound otherBound label shift : Nat) :
    part.Simulates 0 ((Program.stretch label true set).run bound shift)
      ((Program.stretch label true set).run otherBound shift) := by
  intro least rest otherRest cursor captures inner outer inside bounds alike agree
  obtain ⟨places, innerLater, outerLater, first, second, later, within⟩ :=
    stops.stretchPlaces (shift + label) cursor.after cursor.index cursor.before [] inner outer
      inside alike
  rw [List.append_nil] at first second
  rw [Program.run, Program.run, first]
  have moved : Pattern.stretchPlaces set (shift + label) (part.place cursor).index
      (part.place cursor).before [] outer (part.place cursor).after =
        (places.map part.place, outerLater) := second
  rw [moved]
  have reached := agree.firstPlace bounds places innerLater outerLater later.alike later.grown
    within
  exact reached.earlier later

/-- The shortest stretch ends at its place, or goes on by a character of the set. -/
theorem shortStretch_cons (set : CharSet) (label : Nat) (rest : Rest) (captures : Captures)
    (index : Nat) (before : Option Char) (tried : Tried) (next : Char) (after : List Char) :
    Pattern.shortStretch set label rest captures index before tried (next :: after) =
      visit label index tried fun tried =>
        orElse (rest ⟨index, before, next :: after⟩ captures tried) fun tried =>
          if set.contains next then
            Pattern.shortStretch set label rest captures (index + 1) (some next) tried after
          else .error tried := by
  rw [Pattern.shortStretch, visit]
  rfl

/-- The shortest stretch of characters comes to the same. -/
theorem shortStretch (stops : part.Stops set) (bound otherBound label shift : Nat) :
    part.Simulates 0 ((Program.stretch label false set).run bound shift)
      ((Program.stretch label false set).run otherBound shift) := by
  intro least rest otherRest cursor captures inner outer inside bounds alike agree
  obtain ⟨index, before, after⟩ := cursor
  simp only [Program.run, place]
  induction after generalizing index before inner outer with
  | nil =>
    have ended (inserted : part.Later inner outer (inner.insert (shift + label, index))
        (outer.insert (shift + label, part.offset + index))) :=
      agree ⟨index, before, []⟩ captures _ _ inside (Nat.le_refl _) bounds inserted.alike
        inserted.grown
    cases following : part.after with
    | nil =>
      refine Agree.visit _ alike inside.index_le fun inserted => ?_
      simpa [place, following] using ended inserted
    | cons next after =>
      have away := stops next (by simp [following])
      rw [List.nil_append, shortStretch_cons]
      refine Agree.visit _ alike inside.index_le fun inserted => ?_
      have agreed := ended inserted
      simp only [place, List.nil_append, following] at agreed
      simp only [away]
      revert agreed
      cases otherRest ⟨part.offset + index, before.or part.before, next :: after⟩
        (part.moved captures) (outer.insert (shift + label, part.offset + index)) <;> exact id
  | cons next after inductionHypothesis =>
    rw [List.cons_append, shortStretch_cons, shortStretch_cons]
    refine Agree.visit _ alike inside.index_le fun inserted => Agree.orElse ?_ ?_
    · exact agree ⟨index, before, next :: after⟩ captures _ _ inside (Nat.le_refl _) bounds
        inserted.alike inserted.grown
    · intro innerLater outerLater later
      split
      · exact inductionHypothesis innerLater outerLater later.alike (index + 1) (some next)
          inside.next (agree.mono (Nat.le_succ _) (inserted.grown.trans later.grown))
      · exact .error (.refl later.alike)

end Simulates

/-- A program simulates itself on a part that it cannot look beyond, whatever the bounds of its
loops, as long as they are greater than the number of characters of the part. -/
theorem simulates_run (apart : part.Apart) {bound otherBound : Nat} (enough : part.length < bound)
    (otherEnough : part.length < otherBound) (program : Program)
    (stops : ∀ set ∈ program.sets, part.Stops set)
    (boundaries : ∀ condition ∈ program.looks, condition.isBoundary = true) :
    ∀ shift, part.Simulates program.least (program.run bound shift)
      (program.run otherBound shift) := by
  induction program with
  | empty => exact fun shift => .nothing
  | character set => exact .character (stops set List.mem_cons_self) bound otherBound
  | look condition => exact .look apart (boundaries condition List.mem_cons_self) bound otherBound
  | group index body inductionHypothesis =>
    exact fun shift => .group index (inductionHypothesis stops boundaries shift)
  | sequence first second inductionFirst inductionSecond =>
    obtain ⟨stopsFirst, stopsSecond⟩ := List.forall_mem_append.mp stops
    obtain ⟨looksFirst, looksSecond⟩ := List.forall_mem_append.mp boundaries
    exact fun shift => (inductionFirst stopsFirst looksFirst shift).sequence
      (inductionSecond stopsSecond looksSecond shift)
  | choice label first second inductionFirst inductionSecond =>
    obtain ⟨stopsFirst, stopsSecond⟩ := List.forall_mem_append.mp stops
    obtain ⟨looksFirst, looksSecond⟩ := List.forall_mem_append.mp boundaries
    exact fun shift => .choice _
      ((inductionFirst stopsFirst looksFirst shift).mono (Nat.min_le_left _ _))
      ((inductionSecond stopsSecond looksSecond shift).mono (Nat.min_le_right _ _))
  | stretch label greedy set =>
    have held := stops set List.mem_cons_self
    cases greedy with
    | true => exact .longStretch held bound otherBound label
    | false => exact .shortStretch held bound otherBound label
  | star label greedy body inductionHypothesis =>
    exact fun shift => .rounds _ greedy
      ((inductionHypothesis stops boundaries shift).mono (Nat.zero_le _)) enough otherEnough
  | copies count width body inductionHypothesis =>
    exact fun shift => .copies (fun number => inductionHypothesis stops boundaries _) count 0
  | optionalCopies label count width greedy body inductionHypothesis =>
    exact fun shift => .optional _ greedy
      (fun number => (inductionHypothesis stops boundaries _).mono (Nat.zero_le _)) count 0

end Part

end SchemaBindings.Pattern
