import Mathlib.Data.List.TakeWhile
import SchemaBindings.Proofs.Parsing

/-!
# How far reading looks

A step of reading takes characters from the beginning of a text, and what it makes of them
does not depend on where in a text they stand. Of what follows them it looks at most at the
next character: to find the end of a number, and nowhere else. So a step that has succeeded
gives the same value in front of any other text that goes on with the same character, and a
step that has ended with a bracket in front of any text whatever.

Loops are bounded by the number of characters that are left. Two runs of a step in front of
different texts have different bounds, and so it is two steps of reading that are compared
here, for texts that are shorter than what each of them has room for.
-/
namespace SchemaBindings.Json.Decoder

variable {α β γ : Type}

/-- A step reads some characters in front of others and gives a value, at whatever place. -/
def Reads (decoder : Decoder α) (read rest : List Char) (value : α) : Prop :=
  ∀ position, ∃ reached, decoder ⟨read ++ rest, position⟩ = .ok (value, ⟨rest, reached⟩)

/-- Whatever one step of reading makes of a text shorter than `left` that goes on with `next`, it
makes of at least `least` characters at its beginning; and another step makes the same of them in
front of any text that goes on like the rest, as long as all this is shorter than `right`. If the
steps are closed, it does not matter how the text goes on. -/
def Agree (closed : Bool) (left right : Nat) (next : Option Char) (least : Nat)
    (decoder other : Decoder α) : Prop :=
  ∀ text position value rest reached, text.length < left → text.head? = next →
    decoder ⟨text, position⟩ = .ok (value, ⟨rest, reached⟩) →
      ∃ read, text = read ++ rest ∧ least ≤ read.length ∧
        ∀ following, (closed = false → following.head? = rest.head?) →
          (read ++ following).length < right → Reads other read following value

section Combining

variable {closed : Bool} {left right least : Nat} {next : Option Char}

/-- A first step that succeeds is followed by the next one. -/
theorem bind_eq_ok {decoder : Decoder α} {then_ : α → Decoder β} {source final : Source}
    {value : β} (ended : (decoder >>= then_) source = .ok (value, final)) :
    ∃ passed between, decoder source = .ok (passed, between) ∧
      then_ passed between = .ok (value, final) := by
  change (decoder source >>= fun reached => then_ reached.1 reached.2) = _ at ended
  cases read : decoder source with
  | error error =>
    rw [read] at ended
    contradiction
  | ok reached =>
    rw [read] at ended
    exact ⟨reached.1, reached.2, rfl, ended⟩

/-- What follows a step that has given a value goes on with it. -/
theorem bind_of_ok {decoder : Decoder α} {then_ : α → Decoder β} {source between : Source}
    {passed : α} (read : decoder source = .ok (passed, between)) :
    (decoder >>= then_) source = then_ passed between := by
  change (decoder source >>= fun reached => then_ reached.1 reached.2) = _
  rw [read]
  rfl

/-- Steps are read one after the other. -/
theorem Reads.bind {decoder : Decoder α} {then_ : α → Decoder β} {read more rest : List Char}
    {passed : α} {value : β} (begun : Reads decoder read (more ++ rest) passed)
    (ended : Reads (then_ passed) more rest value) :
    Reads (decoder >>= then_) (read ++ more) rest value := by
  intro position
  obtain ⟨between, begun⟩ := begun position
  obtain ⟨reached, ended⟩ := ended between
  exact ⟨reached, by rw [List.append_assoc, bind_of_ok begun, ended]⟩

/-- Texts that go on alike go on alike behind the same characters. If it does not matter how they go
on, it does not matter behind some character. -/
theorem head?_append_congr {read rest following : List Char} (enough : least ≤ read.length)
    (joint : closed = false ∨ 0 < least) (alike : closed = false → following.head? = rest.head?) :
    (read ++ following).head? = (read ++ rest).head? := by
  cases read with
  | cons character read => rfl
  | nil =>
    rcases joint with shut | some
    · exact alike shut
    · exact absurd (Nat.lt_of_lt_of_le some enough) (Nat.not_lt_zero 0)

/-- Steps that read some characters at least read fewer of them at least. -/
theorem agree_mono {decoder other : Decoder α} {fewer : Nat}
    (agree : Agree closed left right next least decoder other) (less : fewer ≤ least) :
    Agree closed left right next fewer decoder other := by
  intro text position value rest reached short begins ended
  obtain ⟨read, split, enough, others⟩ :=
    agree text position value rest reached short begins ended
  exact ⟨read, split, Nat.le_trans less enough, others⟩

/-- That no character has to be read is the least that can be said. -/
theorem agree_zero {decoder other : Decoder α}
    (agree : Agree closed left right next least decoder other) :
    Agree closed left right next 0 decoder other :=
  agree_mono agree (Nat.zero_le least)

/-- Steps agree on shorter texts, too. -/
theorem agree_shorter {decoder other : Decoder α} {shorter shorterOther : Nat}
    (agree : Agree closed left right next least decoder other) (less : shorter ≤ left)
    (lessOther : shorterOther ≤ right) :
    Agree closed shorter shorterOther next least decoder other := by
  intro text position value rest reached short begins ended
  obtain ⟨read, split, enough, same⟩ :=
    agree text position value rest reached (Nat.lt_of_lt_of_le short less) begins ended
  exact ⟨read, split, enough, fun following alike room =>
    same following alike (Nat.lt_of_lt_of_le room lessOther)⟩

/-- Steps agree if their parts do. What the second parts read, or else what follows it, decides how
the text goes on behind the first ones. -/
theorem agree_sequence {first later : Nat} {decoder other : Decoder α}
    {then_ thenOther : α → Decoder β} (joint : closed = false ∨ 0 < later)
    (begun : Agree false left right next first decoder other)
    (ended : ∀ value next,
      Agree closed (left - first) (right - first) next later (then_ value) (thenOther value)) :
    Agree closed left right next (first + later) (decoder >>= then_) (other >>= thenOther) := by
  intro text position value rest reached short begins ran
  obtain ⟨passed, ⟨between, place⟩, ranFirst, ranThen⟩ := bind_eq_ok ran
  obtain ⟨read, rfl, enough, same⟩ := begun text position passed between place short begins ranFirst
  rw [List.length_append] at short
  obtain ⟨more, rfl, enoughMore, sameMore⟩ :=
    ended passed _ between place value rest reached (by omega) rfl ranThen
  refine ⟨read ++ more, by rw [List.append_assoc], by rw [List.length_append]; omega, ?_⟩
  intro following alike room
  rw [List.append_assoc, List.length_append] at room
  have goesOn := head?_append_congr enoughMore joint alike
  have roomBegun : (read ++ (more ++ following)).length < right := by
    rw [List.length_append]
    exact room
  exact Reads.bind (same (more ++ following) (fun _ => goesOn) roomBegun)
    (sameMore following alike (by omega))

/-- Two steps one after the other look no further than at the next character, if neither of them
does. What the first one reads is not there for the second one. -/
theorem agree_bind {first : Nat} {decoder other : Decoder α} {then_ thenOther : α → Decoder β}
    (begun : Agree false left right next first decoder other)
    (ended : ∀ value next,
      Agree false (left - first) (right - first) next 0 (then_ value) (thenOther value)) :
    Agree false left right next 0 (decoder >>= then_) (other >>= thenOther) :=
  agree_zero (agree_sequence (.inl rfl) begun ended)

/-- The first parts take as many characters as are asked for. -/
theorem agree_bindFirst {decoder other : Decoder α} {then_ thenOther : α → Decoder β}
    (begun : Agree false left right next least decoder other)
    (ended : ∀ value next,
      Agree false (left - least) (right - least) next 0 (then_ value) (thenOther value)) :
    Agree false left right next least (decoder >>= then_) (other >>= thenOther) :=
  agree_sequence (.inl rfl) begun ended

/-- The last parts take some characters, and if it does not matter to them what follows, it does not
matter to the steps. -/
theorem agree_bindLast {first : Nat} {decoder other : Decoder α}
    {then_ thenOther : α → Decoder β} (begun : Agree false left right next first decoder other)
    (ended : ∀ value next,
      Agree closed (left - first) (right - first) next (least + 1) (then_ value)
        (thenOther value)) :
    Agree closed left right next (least + 1) (decoder >>= then_) (other >>= thenOther) :=
  agree_mono (agree_sequence (.inr (Nat.succ_pos least)) begun ended) (Nat.le_add_left _ first)

/-- A step that changes nothing but the value of another one. -/
theorem agree_map {decoder other : Decoder α}
    (agree : Agree closed left right next least decoder other) (change : α → β) :
    Agree closed left right next least (decoder >>= fun value => pure (change value))
      (other >>= fun value => pure (change value)) := by
  intro text position value rest reached short begins ran
  obtain ⟨passed, between, ranFirst, ranThen⟩ := bind_eq_ok ran
  obtain ⟨rfl, rfl⟩ := Prod.mk.inj (Except.ok.inj ranThen)
  obtain ⟨read, split, enough, same⟩ :=
    agree text position passed rest reached short begins ranFirst
  refine ⟨read, split, enough, fun following alike room position => ?_⟩
  obtain ⟨place, given⟩ := same following alike room position
  exact ⟨place, by rw [bind_of_ok given]; rfl⟩

/-- A step that reads nothing. -/
theorem agree_pure (value : α) :
    Agree closed left right next 0 (pure value : Decoder α) (pure value) := by
  intro text position result rest reached _ _ ended
  obtain ⟨rfl, same⟩ := Prod.mk.inj (Except.ok.inj ended)
  obtain ⟨rfl, rfl⟩ := Source.mk.inj same
  exact ⟨[], rfl, Nat.le_refl 0, fun _ _ _ position => ⟨position, rfl⟩⟩

/-- A step that never succeeds agrees with any other one. -/
theorem agree_of_never {decoder : Decoder α} (never : Gives (fun _ => False) decoder)
    (other : Decoder α) : Agree closed left right next least decoder other := by
  intro text position value rest reached _ _ ended
  exact (never _ _ _ ended).elim

/-- A fault gives nothing, so that nothing has to be agreed on. -/
theorem agree_failPeeked (fault : ReadFault) (other : Decoder α) :
    Agree closed left right next least (failPeeked fault) other :=
  agree_of_never (gives_failPeeked fault) other

/-- Nothing comes after a fault. -/
theorem agree_failPeekedBind (fault : ReadFault) (then_ : α → Decoder β) (other : Decoder β) :
    Agree closed left right next least (failPeeked fault >>= then_) other :=
  agree_of_never (gives_bind (gives_failPeeked fault) fun _ => False.elim) other

/-- Nor does a fault at the place itself give anything. -/
theorem agree_failHere (fault : ReadFault) (other : Decoder α) :
    Agree closed left right next least (failHere fault) other :=
  agree_of_never (gives_failHere fault) other

/-- A step that may be left out comes before others. -/
theorem agree_iteBind {condition : Prop} [Decidable condition] {first firstOther : Decoder Unit}
    {then_ thenOther : Unit → Decoder α} (begun : Agree false left right next 0 first firstOther)
    (ended : ∀ next, Agree false left right next 0 (then_ ()) (thenOther ())) :
    Agree false left right next 0 (if condition then first >>= then_ else then_ ())
      (if condition then firstOther >>= thenOther else thenOther ()) := by
  split
  · exact agree_bind begun fun _ => ended
  · exact ended next

/-- A step may fail at first. -/
theorem agree_guard {condition : Prop} [Decidable condition] {fault : ReadFault}
    {then_ thenOther : Unit → Decoder α}
    (ended : ¬condition → Agree closed left right next least (then_ ()) (thenOther ())) :
    Agree closed left right next least
      (if condition then failPeeked fault >>= then_ else then_ ())
      (if condition then failPeeked fault >>= thenOther else thenOther ()) := by
  split
  case isTrue => exact agree_failPeekedBind fault _ _
  case isFalse holds => exact ended holds

/-- The path to a value does not change what is read. -/
theorem agree_within {decoder other : Decoder α} (segment : Segment)
    (agree : Agree closed left right next least decoder other) :
    Agree closed left right next least (within segment decoder) (within segment other) := by
  intro text position value rest reached short begins ended
  rw [within] at ended
  split at ended
  · rename_i result read
    obtain rfl := Except.ok.inj ended
    obtain ⟨read, split, enough, same⟩ := agree text position value rest reached short begins read
    refine ⟨read, split, enough, fun following alike room position => ?_⟩
    obtain ⟨place, given⟩ := same following alike room position
    exact ⟨place, by rw [within, given]⟩
  · contradiction

end Combining

section Looking

variable {closed : Bool} {left right least : Nat} {next : Option Char}

/-- A step may look at the next character, and then it goes on from there. -/
theorem agree_peek {then_ thenOther : Option Char → Decoder α}
    (agree : Agree false left right next least (then_ next) (thenOther next)) :
    Agree false left right next least (peek >>= then_) (peek >>= thenOther) := by
  intro text position value rest reached short begins ran
  change then_ text.head? ⟨text, position⟩ = _ at ran
  rw [begins] at ran
  obtain ⟨read, rfl, enough, same⟩ := agree text position value rest reached short begins ran
  refine ⟨read, rfl, enough, fun following alike room position => ?_⟩
  have head : (read ++ following).head? = next :=
    (head?_append_congr enough (.inl rfl) alike).trans begins
  change ∃ place, thenOther (read ++ following).head? ⟨read ++ following, position⟩ = _
  rw [head]
  exact same following alike room position

/-- White space is skipped up to the first other character. -/
theorem skipSpace_rest (text : List Char) (position : Position) :
    (skipSpace text position).rest = text.dropWhile isJsonSpace := by
  induction text generalizing position with
  | nil => rfl
  | cons character rest inductionHypothesis =>
    rw [skipSpace, List.dropWhile_cons]
    split
    · exact inductionHypothesis _
    · rfl

/-- A step may look at the next character that is no white space, and then it goes on from there. -/
theorem agree_afterSpace {then_ thenOther : Option Char → Decoder α}
    (joint : closed = false ∨ 0 < least)
    (agree : ∀ visible, Agree closed left right visible least (then_ visible) (thenOther visible)) :
    Agree closed left right next least (peekVisible >>= then_) (peekVisible >>= thenOther) := by
  intro text position value rest reached short _ ran
  change then_ (skipSpace text position).rest.head? (skipSpace text position) = _ at ran
  rcases skipped : skipSpace text position with ⟨visible, place⟩
  have dropped : text.dropWhile isJsonSpace = visible := by
    rw [← skipSpace_rest text position, skipped]
  have parts : text = text.takeWhile isJsonSpace ++ visible := by
    rw [← dropped, List.takeWhile_append_dropWhile]
  rw [skipped] at ran
  have shorter : visible.length < left := by
    rw [parts, List.length_append] at short
    omega
  obtain ⟨read, rfl, enough, same⟩ :=
    agree visible.head? visible place value rest reached shorter rfl ran
  refine ⟨text.takeWhile isJsonSpace ++ read, by rw [List.append_assoc]; exact parts,
    by rw [List.length_append]; omega, fun following alike room position => ?_⟩
  rw [List.append_assoc, List.length_append] at room
  have head : (read ++ following).head? = (read ++ rest).head? :=
    head?_append_congr enough joint alike
  have again : (text.takeWhile isJsonSpace ++ (read ++ following)).dropWhile isJsonSpace =
      read ++ following := by
    rw [List.dropWhile_append_of_pos fun character member => List.mem_takeWhile_imp member]
    have stops := List.head?_dropWhile_not isJsonSpace text
    rw [dropped, ← head] at stops
    cases whole : read ++ following with
    | nil => rfl
    | cons character others =>
      rw [whole] at stops
      exact List.dropWhile_cons_of_neg (by simpa using stops)
  change ∃ place, thenOther
    (skipSpace (text.takeWhile isJsonSpace ++ read ++ following) position).rest.head?
    (skipSpace (text.takeWhile isJsonSpace ++ read ++ following) position) = _
  rcases skippedOther : skipSpace (text.takeWhile isJsonSpace ++ read ++ following) position with
    ⟨visibleOther, placeOther⟩
  obtain rfl : visibleOther = read ++ following := by
    rw [← again, ← List.append_assoc, ← skipSpace_rest _ position, skippedOther]
  rw [head]
  exact same following alike (by omega) placeOther

/-- Behind white space the next character is another one, and the step may depend on this one just
as well. -/
theorem agree_peekVisible {then_ thenOther : Option Char → Decoder α}
    (agree : ∀ visible, Agree false left right visible least (then_ visible) (thenOther visible)) :
    Agree false left right next least (peekVisible >>= then_) (peekVisible >>= thenOther) :=
  agree_afterSpace (.inl rfl) agree

/-- The same holds where the end does not depend on what follows, as the step has to read a
character then. -/
theorem agree_peekVisibleLast {then_ thenOther : Option Char → Decoder α}
    (agree : ∀ visible,
      Agree closed left right visible (least + 1) (then_ visible) (thenOther visible)) :
    Agree closed left right next (least + 1) (peekVisible >>= then_) (peekVisible >>= thenOther) :=
  agree_afterSpace (.inr (Nat.succ_pos least)) agree

/-- A character that is there is read, whatever follows it. -/
theorem agree_advance (character : Char) :
    Agree closed left right (some character) 1 advance advance := by
  intro text position value rest reached _ begins ended
  obtain ⟨tail, rfl⟩ := List.head?_eq_some_iff.mp begins
  obtain ⟨rfl, same⟩ := Prod.mk.inj (Except.ok.inj ended)
  obtain ⟨rfl, rfl⟩ := Source.mk.inj same
  exact ⟨[character], rfl, Nat.le_refl 1, fun _ _ _ position => ⟨_, rfl⟩⟩

/-- At the end of a text there is nothing to be read. -/
theorem agree_atEnd {decoder other : Decoder α} {value : α}
    (stops : ∀ position, decoder ⟨[], position⟩ = .ok (value, ⟨[], position⟩))
    (stopsOther : ∀ position, other ⟨[], position⟩ = .ok (value, ⟨[], position⟩)) :
    Agree false left right none 0 decoder other := by
  intro text position result rest reached _ begins ended
  obtain rfl := List.head?_eq_none_iff.mp begins
  rw [stops] at ended
  obtain ⟨rfl, same⟩ := Prod.mk.inj (Except.ok.inj ended)
  obtain ⟨rfl, -⟩ := Source.mk.inj same
  refine ⟨[], rfl, Nat.le_refl 0, fun following alike _ position => ⟨position, ?_⟩⟩
  obtain rfl := List.head?_eq_none_iff.mp (alike rfl)
  exact stopsOther position

/-- One character is passed over, whichever comes next; at the end of a text, where there is none,
both stay where they are. -/
theorem agree_advanceAny : Agree false left right next 0 advance advance := by
  cases next with
  | some character => exact agree_zero (agree_advance character)
  | none => exact agree_atEnd (fun _ => rfl) fun _ => rfl

/-- The number of characters that are left is room enough for them. -/
theorem agree_remaining {then_ : Nat → Decoder α}
    (agree : ∀ room roomOther,
      Agree closed (room + 1) (roomOther + 1) next least (then_ room) (then_ roomOther)) :
    Agree closed left right next least (remaining >>= then_) (remaining >>= then_) := by
  intro text position value rest reached _ begins ran
  change then_ text.length ⟨text, position⟩ = _ at ran
  have agreeFor (roomOther : Nat) :=
    agree text.length roomOther text position value rest reached (Nat.lt_succ_self _) begins ran
  obtain ⟨read, rfl, enough, _⟩ := agreeFor 0
  refine ⟨read, rfl, enough, fun following alike _ position => ?_⟩
  obtain ⟨readOther, split, _, same⟩ := agreeFor (read ++ following).length
  obtain rfl := List.append_cancel_right split
  exact same following alike (Nat.lt_succ_self _) position

/-- Nothing is asked of the other step if there is no room for it. -/
theorem agree_noRoom {decoder other another : Decoder α}
    (agree : Agree closed left right next least decoder other) :
    Agree closed left 0 next least decoder another := by
  intro text position value rest reached short begins ended
  obtain ⟨read, split, enough, _⟩ := agree text position value rest reached short begins ended
  exact ⟨read, split, enough, fun _ _ room => absurd room (Nat.not_lt_zero _)⟩

/-- Loops agree if their rounds do, each of which leaves room for the next one. How much room there
is for so many rounds may depend on the state of the loop. -/
theorem agree_rounds (loop : γ → Nat → Decoder α) (room : γ → Nat → Nat)
    (none : ∀ state, room state 0 = 0)
    (round : ∀ bound boundOther,
      (∀ state next, Agree closed (room state bound) (room state boundOther) next least
        (loop state bound) (loop state boundOther)) →
      ∀ state next, Agree closed (room state (bound + 1)) (room state (boundOther + 1)) next least
        (loop state (bound + 1)) (loop state (boundOther + 1)))
    (bound boundOther : Nat) (state : γ) (next : Option Char) :
    Agree closed (room state bound) (room state boundOther) next least (loop state bound)
      (loop state boundOther) := by
  induction bound generalizing boundOther state next with
  | zero =>
    intro text position value rest reached short
    rw [none] at short
    exact absurd short (Nat.not_lt_zero _)
  | succ bound inductionHypothesis =>
    cases boundOther with
    | zero =>
      rw [none]
      exact agree_noRoom (round bound 0 (inductionHypothesis 0) state next)
    | succ boundOther =>
      exact round bound boundOther (inductionHypothesis boundOther) state next

/-- A text that is too short for a character has none. -/
theorem agree_short {character : Char} (decoder other : Decoder α) :
    Agree closed 1 right (some character) least decoder other := by
  intro text position value rest reached short begins
  obtain ⟨tail, rfl⟩ := List.head?_eq_some_iff.mp begins
  exact absurd (List.eq_nil_of_length_eq_zero (Nat.lt_one_iff.mp short))
    (List.cons_ne_nil character tail)

/-- A loop that is about to read a character has a round left for it. -/
theorem agree_roundLeft {character : Char} {decoder : Decoder α} (loop : Nat → Decoder α)
    (agree : ∀ boundOther, Agree false left (boundOther + 1 + 1) (some character) least decoder
      (loop (boundOther + 1))) (boundOther : Nat) :
    Agree false left (boundOther + 1) (some character) least decoder (loop boundOther) := by
  cases boundOther with
  | succ boundOther => exact agree boundOther
  | zero =>
    intro text position value rest reached short begins ended
    obtain ⟨read, rfl, enough, _⟩ := agree 0 text position value rest reached short begins ended
    refine ⟨read, rfl, enough, fun following alike room => ?_⟩
    -- Nothing fits but the empty text, and a character comes next.
    obtain ⟨rfl, rfl⟩ := List.append_eq_nil_iff.mp
      (List.eq_nil_of_length_eq_zero (Nat.lt_one_iff.mp room))
    rw [List.nil_append, ← alike rfl] at begins
    contradiction

/-- Loops that stop at the end of a text, where they may have no round left, agree if their rounds
do in front of a character. -/
theorem agree_roundsToEnd (loop : γ → Nat → Decoder α) (result : γ → α)
    (stops : ∀ state bound position,
      loop state bound ⟨[], position⟩ = .ok (result state, ⟨[], position⟩))
    (round : ∀ bound boundOther,
      (∀ state next, Agree false (bound + 1) (boundOther + 1) next 0 (loop state bound)
        (loop state boundOther)) →
      ∀ state character, Agree false (bound + 1 + 1) (boundOther + 1 + 1) (some character) 0
        (loop state (bound + 1)) (loop state (boundOther + 1)))
    (bound boundOther : Nat) (state : γ) (next : Option Char) :
    Agree false (bound + 1) (boundOther + 1) next 0 (loop state bound) (loop state boundOther) := by
  induction bound generalizing boundOther state next with
  | zero =>
    cases next with
    | none => exact agree_atEnd (stops state 0) (stops state boundOther)
    | some character => exact agree_short _ _
  | succ bound inductionHypothesis =>
    cases next with
    | none => exact agree_atEnd (stops state (bound + 1)) (stops state boundOther)
    | some character =>
      exact agree_roundLeft (loop state)
        (fun boundOther => round bound boundOther (inductionHypothesis boundOther) state character)
        boundOther

end Looking

/-- A step takes `least` characters or more from the beginning of a text, and looks only at the next
one behind those it takes; if it is closed, not even at that. -/
def Local (closed : Bool) (least : Nat) (decoder : Decoder α) : Prop :=
  ∀ left right next, Agree closed left right next least decoder decoder

end SchemaBindings.Json.Decoder
