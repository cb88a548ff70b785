import SchemaBindings.Proofs.Lookahead

/-!
# Where values end

Every step of reading a value takes the value and looks no further than at the next
character, and a list or a table ends with its bracket. So the same characters are read
wherever they stand. A value takes at least one character, which is why loops that are
bounded by the characters of a text never come to their bounds before the text ends.
-/
namespace SchemaBindings.Json.Decoder

variable {α β : Type}

section Scalars

/-- A fixed word is read letter by letter. -/
theorem local_word (letters : List Char) : Local false 0 (word letters) := by
  intro left right next
  induction letters generalizing left right next with
  | nil => exact agree_pure ()
  | cons letter letters inductionHypothesis =>
    refine agree_peek ?_
    cases next with
    | none => exact agree_failHere _ _
    | some character =>
      dsimp only
      split
      · exact agree_bind (agree_advance character) fun _ => inductionHypothesis _ _
      · exact agree_failPeeked _ _

/-- The four digits of a code point are read, whatever follows them. -/
theorem local_hexEscape : Local false 0 hexEscape := by
  intro left right next text position value rest reached _ _ ended
  rw [hexEscape] at ended
  dsimp only at ended
  split at ended
  · contradiction
  case isFalse enough =>
    split at ended
    case h_2 => contradiction
    case h_1 number digits =>
      obtain ⟨rfl, same⟩ := Prod.mk.inj (Except.ok.inj ended)
      obtain ⟨rfl, -⟩ := Source.mk.inj same
      refine ⟨text.take 4, (List.take_append_drop 4 text).symm, Nat.zero_le _, ?_⟩
      intro following alike _ place
      -- Fewer than four characters are the whole text, and then the other one ends there as well.
      have length : (text.take 4).length = 4 ∨ following = [] := by
        rw [List.length_take]
        rcases Nat.lt_or_ge text.length 4 with short | long
        · rw [List.drop_eq_nil_of_le short.le] at alike
          exact .inr (List.head?_eq_none_iff.mp (alike rfl))
        · exact .inl (Nat.min_eq_left long)
      have again : (text.take 4 ++ following).take 4 = text.take 4 ∧
          (text.take 4 ++ following).drop 4 = following := by
        rcases length with four | rfl
        · exact ⟨List.take_left' four, List.drop_left' four⟩
        · rw [List.append_nil, List.take_take, Nat.min_self, List.drop_take]
          exact ⟨rfl, rfl⟩
      rw [hexEscape]
      dsimp only
      rw [again.1, again.2, if_neg enough, digits]
      exact ⟨_, rfl⟩

/-- One of the two signs between the halves of a pair is read, or the half before it stands alone
and is refused. -/
theorem local_pairSign (sign : Char) : Local false 1 (pairSign sign) := by
  intro left right next
  refine agree_peek ?_
  cases next with
  | none => exact agree_failHere _ _
  | some character =>
    dsimp only
    split
    · exact agree_advance character
    · exact agree_failPeeked _ _

/-- A code point takes four digits, and a half of a pair four more behind its signs. How much is
read depends on the digits alone. -/
theorem local_unicodeEscape : Local false 0 unicodeEscape := by
  intro left right next
  refine agree_bind (local_hexEscape _ _ _) fun first _ => ?_
  split
  · exact agree_failHere _ _
  · split
    · refine agree_bind (local_pairSign _ _ _ _) fun _ _ => ?_
      refine agree_bind (local_pairSign _ _ _ _) fun _ _ => ?_
      refine agree_bind (local_hexEscape _ _ _) fun second _ => ?_
      split
      · exact agree_failHere _ _
      · exact agree_pure _
    · exact agree_pure _

/-- The letter behind a backslash says what follows it, and only one letter has anything following.
-/
theorem local_stringEscape : Local false 0 stringEscape := by
  intro left right next
  refine agree_peek ?_
  have plain (character value : Char) : Agree false left right (some character) 0
      (do advance; return value) (do advance; return value) :=
    agree_bind (agree_advance character) fun _ _ => agree_pure value
  split
  · exact agree_failHere _ _
  · split
    case h_9 => exact agree_bind (agree_advance _) fun _ => local_unicodeEscape _ _
    case h_10 => exact agree_failPeeked _ _
    all_goals exact plain _ _

/-- An escape that is passed over is held against less than one that is read, but no fewer
characters are taken. -/
theorem local_skippedEscape : Local false 0 skippedEscape := by
  intro left right next
  refine agree_peek ?_
  split
  · refine agree_bind (agree_advance _) fun _ _ => ?_
    exact agree_bind (local_hexEscape _ _ _) fun _ _ => agree_pure ' '
  · exact local_stringEscape _ _ _

/-- The characters of a string are read up to its closing quote. -/
theorem agree_stringCharacters {escape : Decoder Char} {control : Decoder (List Char)}
    (escapes : Local false 0 escape) (never : Gives (fun _ => False) control)
    (bound boundOther : Nat) (next : Option Char) :
    Agree false bound boundOther next 1 (stringCharacters escape control bound)
      (stringCharacters escape control boundOther) := by
  refine agree_rounds (fun _ : Unit => stringCharacters escape control) (fun _ bound => bound)
    (fun _ => rfl) ?_ bound boundOther () next
  intro bound boundOther inductionHypothesis _ next
  refine agree_peek ?_
  split
  · exact agree_failHere _ _
  · exact agree_bindFirst (agree_advance _) fun _ _ => agree_pure []
  · refine agree_bindFirst (agree_advance _) fun _ _ => agree_bind (escapes _ _ _) fun _ _ => ?_
    exact agree_map (agree_zero (inductionHypothesis () _)) _
  · split
    · exact agree_of_never never _
    · refine agree_bindFirst (agree_advance _) fun _ _ => ?_
      exact agree_map (agree_zero (inductionHypothesis () _)) _

/-- A string ends with its quote, so that the bound, which is the number of characters that are
left, is never come to. -/
theorem local_stringRest : Local false 1 stringRest := fun _ _ _ =>
  agree_remaining fun _ _ => agree_map
    (agree_stringCharacters local_stringEscape (gives_failPeeked _) _ _ _) _

/-- The same loop passes over a string; only what it makes of an escape and of a control character
is another matter. -/
theorem local_skipString : Local false 1 skipString := fun _ _ _ =>
  agree_remaining fun _ _ => agree_map
    (agree_stringCharacters local_skippedEscape (gives_failHere _) _ _ _) _

/-- Digits are read up to the first other character. -/
theorem agree_digitsAfter (full : Bool) (digits : Digits) (bound boundOther : Nat)
    (next : Option Char) :
    Agree false (bound + 1) (boundOther + 1) next 0 (digitsAfter full digits bound)
      (digitsAfter full digits boundOther) := by
  refine agree_roundsToEnd (fun state : Bool × Digits => digitsAfter state.1 state.2) Prod.snd
    (fun _ bound _ => by cases bound <;> rfl) ?_ bound boundOther (full, digits) next
  intro bound boundOther inductionHypothesis ⟨full, digits⟩ character
  refine agree_peek ?_
  dsimp only
  split
  · refine agree_bind (agree_advance _) fun _ _ => ?_
    split
    · exact inductionHypothesis (true, _) _
    · exact inductionHypothesis (false, _) _
  · exact agree_pure _

/-- If a digit comes first, it is read. -/
theorem agree_digitsAfter_digit {character : Char} (digit : isDigit character = true)
    (full : Bool) (digits : Digits) (bound boundOther : Nat) :
    Agree false (bound + 1) (boundOther + 1) (some character) 1 (digitsAfter full digits bound)
      (digitsAfter full digits boundOther) := by
  cases bound with
  | zero => exact agree_short _ _
  | succ bound =>
    refine agree_roundLeft (digitsAfter full digits) (fun boundOther => agree_peek ?_) boundOther
    dsimp only
    rw [if_pos digit, if_pos digit]
    refine agree_bindFirst (agree_advance _) fun _ _ => ?_
    split
    · exact agree_digitsAfter true _ _ _ _
    · exact agree_digitsAfter false _ _ _ _

/-- The digits of an exponent are read up to the first other character, unless they come to a number
that is out of range; and then nothing is given at all. -/
theorem agree_exponentDigits (positive zero : Bool) (value bound boundOther : Nat)
    (next : Option Char) :
    Agree false (bound + 1) (boundOther + 1) next 0 (exponentDigits positive zero bound value)
      (exponentDigits positive zero boundOther value) := by
  refine agree_roundsToEnd (fun value bound => exponentDigits positive zero bound value) id
    (fun _ bound _ => by cases bound <;> rfl) ?_ bound boundOther value next
  intro bound boundOther inductionHypothesis value character
  refine agree_peek ?_
  dsimp only
  split
  · refine agree_bind (agree_advance _) fun _ _ => ?_
    split
    · exact inductionHypothesis _ _
    · split
      · exact agree_failHere _ _
      · exact inductionHypothesis _ _
  · exact agree_pure _

/-- Digits are passed over up to the first other character, whatever number they would be. -/
theorem agree_skipDigits (bound boundOther : Nat) (next : Option Char) :
    Agree false (bound + 1) (boundOther + 1) next 0 (skipDigits bound) (skipDigits boundOther) := by
  refine agree_roundsToEnd (fun _ : Unit => skipDigits) (fun _ => ())
    (fun _ bound _ => by cases bound <;> rfl) ?_ bound boundOther () next
  intro bound boundOther inductionHypothesis _ character
  refine agree_peek ?_
  split
  · exact agree_bind (agree_advance _) fun _ _ => inductionHypothesis () _
  · exact agree_pure _

/-- An exponent has at least one digit, behind a sign or without one. -/
theorem local_exponent (zero : Bool) : Local false 0 (exponent zero) := by
  intro left right next
  refine agree_peek (agree_iteBind agree_advanceAny fun _ => agree_peek ?_)
  split
  · exact agree_failHere _ _
  · split
    · exact agree_remaining fun _ _ => agree_map (agree_exponentDigits _ _ _ _ _ _) _
    · exact agree_failPeeked _ _

/-- Once its parts are known, a number is made of them, or it is out of range; no character is read
for this. -/
theorem local_realNumber (negative : Bool) (significand : Nat) (scale : Int) :
    Local false 0 (realNumber negative significand scale) := by
  intro left right next
  rw [realNumber]
  split
  · exact agree_pure _
  · exact agree_failHere _ _

/-- Behind the digits of a fraction an exponent may follow, and its letter is the next character if
it does. -/
theorem local_finishReal (negative : Bool) (significand : Nat) (scale : Int) :
    Local false 0 (finishReal negative significand scale) := by
  intro left right next
  refine agree_peek ?_
  split
  case h_3 => exact local_realNumber _ _ _ _ _ _
  all_goals
    exact agree_bind (agree_advance _) fun _ _ =>
      agree_bind (local_exponent _ _ _ _) fun _ => local_realNumber _ _ _ _ _

/-- Behind a point at least one digit has to follow, so a point at the end is not left for others to
read. -/
theorem local_fraction (negative : Bool) (significand : Nat) (scale : Int) :
    Local false 0 (fraction negative significand scale) := by
  intro left right next
  refine agree_peek ?_
  split
  · exact agree_failHere _ _
  · split
    · exact agree_remaining fun _ _ =>
        agree_bind (agree_digitsAfter _ _ _ _ _) fun _ => local_finishReal _ _ _ _ _
    · exact agree_failPeeked _ _

/-- Behind the digits in front of the point, the next character says whether the number goes on. -/
theorem local_finishNumber (negative : Bool) (digits : Digits) :
    Local false 0 (finishNumber negative digits) := by
  intro left right next
  refine agree_peek ?_
  split
  · exact agree_bind (agree_advance _) fun _ => local_fraction _ _ _ _ _
  · exact local_finishReal _ _ _ _ _ _
  · exact local_finishReal _ _ _ _ _ _
  · split
    · exact local_realNumber _ _ _ _ _ _
    · split
      · exact agree_pure _
      · split
        · exact agree_pure _
        · exact local_realNumber _ _ _ _ _ _

/-- Of a number at least one digit is read. -/
theorem local_number (negative : Bool) : Local false 1 (number negative) := by
  intro left right next
  refine agree_peek ?_
  split
  · exact agree_failHere _ _
  -- A zero in front stands alone.
  · refine agree_bindFirst (agree_advance _) fun _ _ => agree_peek ?_
    split
    · split
      · exact agree_failPeeked _ _
      · exact local_finishNumber _ _ _ _ _
    · exact local_finishNumber _ _ _ _ _
  · split
    case isTrue digit =>
      exact agree_remaining fun _ _ =>
        agree_bindFirst (agree_digitsAfter_digit digit _ _ _ _) fun _ => local_finishNumber _ _ _ _
    · exact agree_failPeeked _ _

/-- A minus stands in front of a number at once and is read with it. -/
theorem local_signedNumber : Local false 1 signedNumber := by
  intro left right next
  refine agree_peek ?_
  split
  case isTrue minus =>
    obtain rfl := eq_of_beq minus
    exact agree_bindLast (agree_advance _) fun _ => local_number _ _ _
  case isFalse => exact local_number _ _ _ _

/-- An exponent that is passed over begins and ends where one does that is read. -/
theorem local_skipExponent : Local false 0 skipExponent := by
  intro left right next
  refine agree_peek ?_
  split
  case h_3 => exact agree_pure ()
  all_goals
    refine agree_bind (agree_advance _) fun _ next => ?_
    refine agree_peek (agree_iteBind agree_advanceAny fun _ => agree_peek ?_)
    split
    · exact agree_remaining fun _ _ => agree_skipDigits _ _ _
    · exact agree_failPeeked _ _

/-- What follows the digits of a number that is passed over. -/
theorem local_skipFraction :
    Local false 0 (do
      if (← peek) == some '.' then
        advance
        if ((← peek).map isDigit).getD false then skipDigits (← remaining)
        else failPeeked .invalidNumber
      skipExponent) := by
  intro left right next
  refine agree_peek ?_
  dsimp only
  split
  · refine agree_bind agree_advanceAny fun _ _ => agree_peek ?_
    split
    · refine agree_remaining fun _ _ => ?_
      exact agree_bind (agree_skipDigits _ _ _) fun _ => local_skipExponent _ _
    · exact agree_failPeekedBind _ _ _
  · exact local_skipExponent _ _ _

/-- A number that is passed over takes a digit at least. A zero in front stands alone here as well.
-/
theorem local_skipNumber : Local false 1 skipNumber := by
  intro left right next
  refine agree_peek (agree_guard fun digit => ?_)
  cases next with
  | none => exact absurd rfl digit
  | some character =>
    refine agree_bindFirst (agree_advance _) fun _ next => ?_
    dsimp only
    split
    · exact agree_peek (agree_guard fun _ => local_skipFraction _ _ _)
    · refine agree_remaining fun _ _ => ?_
      exact agree_bind (agree_skipDigits _ _ _) fun _ => local_skipFraction _ _

end Scalars

section Brackets

variable {closed : Bool} {left right : Nat} {next : Option Char}

/-- An opening bracket is read, unless it would go deeper than is allowed, which does not depend on
the text. -/
theorem agree_openBracket (depth : Nat) (character : Char) :
    Agree closed left right (some character) 1 (openBracket depth) (openBracket depth) := by
  rw [openBracket]
  split
  · exact agree_failPeeked _ _
  · exact agree_advance character

/-- What comes next inside of brackets is looked at, and only a comma is read. -/
theorem local_moreElements (closing : Char) (first : Bool) (atEnd noComma : ReadFault)
    (atElement : Char → Option ReadFault) :
    Local false 0 (moreElements closing first atEnd noComma atElement) := by
  intro left right next
  refine agree_peekVisible fun visible => ?_
  cases visible with
  | none => exact agree_failPeeked _ _
  | some character =>
    dsimp only
    split
    · exact agree_pure false
    · split
      -- The first element has no comma in front.
      · cases atElement character with
        | some fault => exact agree_failPeeked _ _
        | none => exact agree_pure true
      · split
        · refine agree_bind (agree_advance _) fun _ _ => agree_peekVisible fun visible => ?_
          cases visible with
          | none => exact agree_failPeeked _ _
          | some next =>
            dsimp only
            split
            · exact agree_failPeeked _ _
            · cases atElement next with
              | some fault => exact agree_failPeeked _ _
              | none => exact agree_pure true
        · exact agree_failPeeked _ _

/-- A closing bracket is the end, whatever follows it. -/
theorem local_closeList : Local closed 1 closeList := by
  intro left right next
  refine agree_peekVisibleLast fun visible => ?_
  split
  · exact agree_advance _
  · refine agree_of_never (gives_after fun _ => gives_after fun _ => ?_) _
    split
    · exact gives_failPeeked _
    · exact gives_failPeeked _
  · exact agree_failPeeked _ _
  · exact agree_failPeeked _ _

/-- So is the closing brace of an object, which comes with fewer faults, as commas have been looked
at before. -/
theorem local_closeObject : Local closed 1 closeObject := by
  intro left right next
  refine agree_peekVisibleLast fun visible => ?_
  split
  · exact agree_advance _
  · exact agree_failPeeked _ _
  · exact agree_failPeeked _ _
  · exact agree_failPeeked _ _

/-- White space in front of a colon is read with it, and what follows is left alone. -/
theorem local_colon : Local false 1 colon := by
  intro left right next
  refine agree_peekVisible fun visible => ?_
  split
  · exact agree_advance _
  · exact agree_failPeeked _ _
  · exact agree_failPeeked _ _

/-- The items of a list agree if each item is read without looking further. -/
theorem agree_items {item : Decoder α} (readsItem : Local false 1 item)
    (bound boundOther index : Nat) (next : Option Char) :
    Agree false bound boundOther next 0 (items item bound index) (items item boundOther index) := by
  refine agree_rounds (fun index bound => items item bound index) (fun _ bound => bound)
    (fun _ => rfl) ?_ bound boundOther index next
  intro bound boundOther inductionHypothesis index next
  refine agree_bind (local_moreElements _ _ _ _ _ _ _ _) fun more _ => ?_
  cases more with
  | false => exact agree_pure []
  | true =>
    refine agree_bind (agree_within _ (readsItem _ _ _)) fun value _ => ?_
    exact agree_map (inductionHypothesis (index + 1) _) _

/-- A key is a string, so it ends with its quote. Where no key comes next, no more than white space
and a comma is read. -/
theorem local_nextKey (first : Bool) : Local false 0 (nextKey first) := by
  intro left right next
  refine agree_within _ (agree_bind (local_moreElements _ _ _ _ _ _ _ _) fun more _ => ?_)
  cases more with
  | false => exact agree_pure none
  | true =>
    exact agree_bind agree_advanceAny fun _ _ =>
      agree_map (agree_zero (local_stringRest _ _ _)) _

/-- The fields of an object agree if each value is read without looking further. The induction is on
the bounds, which need not be the same as the texts need not be of the same length. -/
theorem agree_fields {value : Decoder α} (readsValue : Local false 1 value) (first : Bool)
    (bound boundOther : Nat) (next : Option Char) :
    Agree false bound boundOther next 0 (fields value bound first)
      (fields value boundOther first) := by
  refine agree_rounds (fun first bound => fields value bound first) (fun _ bound => bound)
    (fun _ => rfl) ?_ bound boundOther first next
  intro bound boundOther inductionHypothesis first next
  refine agree_bind (local_nextKey _ _ _ _) fun key _ => ?_
  cases key with
  | none => exact agree_pure []
  | some key =>
    refine agree_bind (local_colon _ _ _) fun _ _ => ?_
    refine agree_bind (agree_zero (agree_within _ (readsValue _ _ _))) fun read _ => ?_
    exact agree_map (inductionHypothesis false _) _

end Brackets

section Values

variable {closed : Bool}

/-- A word that stands for a value is read after its first letter. -/
theorem agree_wordValue {left right : Nat} (character : Char) (letters : List Char) (value : α) :
    Agree false left right (some character) 1
      (do advance; word letters; return value) (do advance; word letters; return value) :=
  agree_bindFirst (agree_advance character) fun _ _ =>
    agree_map (local_word letters _ _ _) fun _ => value

/-- A list is a value whose end does not depend on what follows it. -/
theorem agree_listValue {left right : Nat} (depth : Nat) (character : Char) {item : Decoder α}
    (readsItem : Local false 1 item) (change : List α → β) :
    Agree closed left right (some character) 1
      (do
        openBracket depth
        let values ← items item ((← remaining) + 1) 0
        closeList
        return change values)
      (do
        openBracket depth
        let values ← items item ((← remaining) + 1) 0
        closeList
        return change values) :=
  agree_bindLast (agree_openBracket depth character) fun _ _ => agree_remaining fun _ _ =>
    agree_bindLast (agree_items readsItem _ _ _ _) fun values _ =>
      agree_map (local_closeList _ _ _) fun _ => change values

/-- So is a table. -/
theorem agree_tableValue {left right : Nat} (depth : Nat) (character : Char) {value : Decoder α}
    (readsValue : Local false 1 value) (change : List (String × α) → β) :
    Agree closed left right (some character) 1
      (do
        openBracket depth
        let pairs ← fields value ((← remaining) + 1) true
        closeObject
        return change pairs)
      (do
        openBracket depth
        let pairs ← fields value ((← remaining) + 1) true
        closeObject
        return change pairs) :=
  agree_bindLast (agree_openBracket depth character) fun _ _ => agree_remaining fun _ _ =>
    agree_bindLast (agree_fields readsValue _ _ _ _) fun pairs _ =>
      agree_map (local_closeObject _ _ _) fun _ => change pairs

/-- A value of any type is read without looking further. The induction is on the depth, and each
kind of value ends in its own way: words and strings by their last character, lists and objects by
their brackets, and a number by the next character, which is looked at and left. -/
theorem local_any (depth : Nat) : Local false 1 (any depth) := by
  induction depth with
  | zero => exact fun _ _ _ => agree_failPeeked _ _
  | succ depth inductionHypothesis =>
    intro left right next
    refine agree_peekVisible fun visible => ?_
    split
    case h_1 => exact agree_failPeeked _ _
    case h_2 => exact agree_wordValue _ _ _
    case h_3 => exact agree_wordValue _ _ _
    case h_4 => exact agree_wordValue _ _ _
    case h_5 =>
      exact agree_bindFirst (agree_advance _) fun _ _ =>
        agree_map (agree_zero (local_stringRest _ _ _)) _
    case h_6 => exact agree_listValue _ _ inductionHypothesis _
    case h_7 => exact agree_tableValue _ _ inductionHypothesis _
    case h_8 =>
      split
      · exact agree_map (local_signedNumber _ _ _) _
      · exact agree_failPeeked _ _

/-- A value of another type is never given. -/
theorem wrongType_never (expected : String) :
    Gives (fun _ => False) (wrongType expected : Decoder α) := by
  refine gives_after fun visible => ?_
  split
  case h_1 => exact gives_after fun _ => gives_after fun _ => gives_failHere _
  case h_2 => exact gives_after fun _ => gives_after fun _ => gives_failHere _
  case h_3 => exact gives_after fun _ => gives_after fun _ => gives_failHere _
  case h_4 => exact gives_after fun _ => gives_after fun _ => gives_failHere _
  case h_5 => exact gives_failHere _
  case h_6 => exact gives_failHere _
  case h_7 =>
    split
    · refine gives_after fun number => ?_
      cases number with
      | integer value => exact gives_failHere _
      | real value => exact gives_failHere _
    · exact gives_failPeeked _
  case h_8 => exact gives_failPeeked _

/-- Where something else is asked for than what is there, nothing is given, so that there is nothing
to agree on. -/
theorem agree_wrongType {left right least : Nat} {next : Option Char} (expected : String)
    (other : Decoder α) : Agree closed left right next least (wrongType expected) other :=
  agree_of_never (wrongType_never expected) other

/-- A string is read up to its quote, and anything else is refused. -/
theorem local_string (expected : String) : Local false 1 (string expected) := by
  intro left right next
  refine agree_peekVisible fun visible => ?_
  split
  · exact agree_bindFirst (agree_advance _) fun _ _ => agree_zero (local_stringRest _ _ _)
  · exact agree_wrongType _ _

/-- A truth value is one of two words, told by the first letter. -/
theorem local_boolean : Local false 1 boolean := by
  intro left right next
  refine agree_peekVisible fun visible => ?_
  split
  · exact agree_wordValue _ _ _
  · exact agree_wordValue _ _ _
  · exact agree_wrongType _ _

/-- An integer is a number that is held against its range after it has been read. -/
theorem local_integer64 : Local false 1 integer64 := by
  intro left right next
  refine agree_peekVisible fun visible => ?_
  split
  · split
    · refine agree_bindFirst (local_signedNumber _ _ _) fun number _ => ?_
      cases number with
      | integer value =>
        dsimp only
        split
        · exact agree_pure _
        · exact agree_failHere _ _
      | real value => exact agree_failHere _ _
    · exact agree_wrongType _ _
  · exact agree_wrongType _ _

/-- What may be absent is the word for it or else the value, which begins with another character. -/
theorem local_optional {value : Decoder α} (reads : Local false 1 value) :
    Local false 1 (optional value) := by
  intro left right next
  refine agree_peekVisible fun visible => ?_
  split
  · exact agree_wordValue _ _ _
  · exact agree_map (reads _ _ _) _

/-- A list ends with its bracket, whatever follows it. Its items may well look at the next
character, since the bracket or a comma is there for them. -/
theorem local_list {item : Nat → Decoder α} (reads : ∀ depth, Local false 1 (item depth))
    (depth : Nat) : Local closed 1 (list item depth) := by
  intro left right next
  refine agree_peekVisibleLast fun visible => ?_
  split
  · exact agree_listValue _ _ (reads _) _
  · exact agree_wrongType _ _

/-- A table ends with its brace, in the same way. -/
theorem local_table {value : Nat → Decoder α} (reads : ∀ depth, Local false 1 (value depth))
    (depth : Nat) : Local closed 1 (table value depth) := by
  intro left right next
  refine agree_peekVisibleLast fun visible => ?_
  split
  · exact agree_tableValue _ _ (reads _) _
  · exact agree_wrongType _ _

end Values

section Skipping

/-- The loops that pass over a value, and over what is left of a list or of an object. -/
inductive Skipped where
  | value
  | items
  | fields

/-- How the loop runs. -/
def Skipped.loop : Skipped → (bound : Nat) → Decoder Unit
  | .value => skipValue
  | .items => skipItems
  | .fields => skipFields

/-- How many characters there is room for. A value has one more round for each of its brackets than
for the elements inside. -/
def Skipped.room : Skipped → (bound : Nat) → Nat
  | .value, bound => (bound + 1) / 2
  | .items, bound => bound / 2
  | .fields, bound => bound / 2

/-- The loops agree, each on the texts for which it has room. -/
def SkipsAgree (bound boundOther : Nat) : Prop :=
  ∀ (skipped : Skipped) (next : Option Char),
    Agree false (skipped.room bound) (skipped.room boundOther) next 1 (skipped.loop bound)
      (skipped.loop boundOther)

variable {bound boundOther : Nat}

/-- Every loop has room for what follows the first character of a value. -/
theorem Skipped.le_room (skipped : Skipped) (bound : Nat) :
    (bound + 1 + 1) / 2 - 1 ≤ skipped.room bound := by
  cases skipped with
  | value => simp only [room]; omega
  | items => simp only [room]; omega
  | fields => simp only [room]; omega

/-- A loop goes on with another one behind the first character of a value. -/
theorem SkipsAgree.next {left right : Nat} (agree : SkipsAgree bound boundOther)
    (skipped : Skipped) (next : Option Char) (less : left ≤ (bound + 1 + 1) / 2 - 1)
    (lessOther : right ≤ (boundOther + 1 + 1) / 2 - 1) :
    Agree false left right next 0 (skipped.loop bound) (skipped.loop boundOther) :=
  agree_zero (agree_shorter (agree skipped next) (less.trans (skipped.le_room bound))
    (lessOther.trans (skipped.le_room boundOther)))

/-- One round more for a value: its first character says what it is, and the loop for its kind goes
on behind it. -/
theorem SkipsAgree.value (agree : SkipsAgree bound boundOther) (next : Option Char) :
    Agree false ((bound + 1 + 1) / 2) ((boundOther + 1 + 1) / 2) next 1 (skipValue (bound + 1))
      (skipValue (boundOther + 1)) := by
  have wordValue (left right : Nat) (character : Char) (letters : List Char) :
      Agree false left right (some character) 1 (do advance; word letters)
        (do advance; word letters) :=
    agree_bindFirst (agree_advance character) fun _ _ => local_word letters _ _ _
  refine agree_peekVisible fun visible => ?_
  split
  case h_1 => exact agree_failPeeked _ _
  case h_2 => exact wordValue _ _ _ _
  case h_3 => exact wordValue _ _ _ _
  case h_4 => exact wordValue _ _ _ _
  case h_5 =>
    exact agree_bindFirst (agree_advance _) fun _ _ => agree_zero (local_skipString _ _ _)
  case h_6 =>
    refine agree_bindFirst (agree_advance _) fun _ _ => agree_peekVisible fun visible => ?_
    split
    · exact agree_advanceAny
    · exact agree.next .items _ (by omega) (by omega)
    · exact agree_failPeeked _ _
  case h_7 =>
    refine agree_bindFirst (agree_advance _) fun _ _ => agree_peekVisible fun visible => ?_
    split
    · exact agree_advanceAny
    · exact agree.next .fields _ (by omega) (by omega)
    · exact agree_failPeeked _ _
  case h_8 =>
    split
    · exact agree_bindLast (agree_advance _) fun _ => local_skipNumber _ _
    · split
      · exact local_skipNumber _ _ _
      · exact agree_failPeeked _ _

/-- One round more for the items of a list: a value is passed over, and a comma or the bracket
follows it. -/
theorem SkipsAgree.items (agree : SkipsAgree bound boundOther) (next : Option Char) :
    Agree false ((bound + 1) / 2) ((boundOther + 1) / 2) next 1 (skipItems (bound + 1))
      (skipItems (boundOther + 1)) := by
  refine agree_bindFirst (agree .value next) fun _ _ => agree_peekVisible fun visible => ?_
  split
  · exact agree_bind (agree_advance _) fun _ _ => agree.next .items _ (by omega) (by omega)
  · exact agree_advanceAny
  · exact agree_failPeeked _ _
  · exact agree_failPeeked _ _

/-- One round more for the fields of an object: a key and a colon come before each value. -/
theorem SkipsAgree.fields (agree : SkipsAgree bound boundOther) (next : Option Char) :
    Agree false ((bound + 1) / 2) ((boundOther + 1) / 2) next 1 (skipFields (bound + 1))
      (skipFields (boundOther + 1)) := by
  refine agree_peekVisible fun visible => ?_
  split
  · refine agree_bindFirst (agree_advance _) fun _ _ => ?_
    refine agree_bind (local_skipString _ _ _) fun _ _ => ?_
    refine agree_bind (local_colon _ _ _) fun _ _ => ?_
    refine agree_bind (agree.next .value _ (by omega) (by omega)) fun _ _ => ?_
    refine agree_peekVisible fun visible => ?_
    split
    · exact agree_bind (agree_advance _) fun _ _ => agree.next .fields _ (by omega) (by omega)
    · exact agree_advanceAny
    · exact agree_failPeeked _ _
    · exact agree_failPeeked _ _
  · exact agree_failPeekedBind _ _ _
  · exact agree_failPeekedBind _ _ _

/-- A value is passed over without looking further. The bound is twice the number of characters
that are left, since a value in brackets takes two rounds for each of them at most. -/
theorem local_skip : Local false 1 skip := by
  intro left right next
  have round (bound boundOther : Nat) (agree : SkipsAgree bound boundOther) :
      SkipsAgree (bound + 1) (boundOther + 1) := by
    intro skipped next
    cases skipped with
    | value => exact agree.value next
    | items => exact agree.items next
    | fields => exact agree.fields next
  refine agree_remaining fun room roomOther => ?_
  have agree := agree_rounds Skipped.loop Skipped.room (fun skipped => by cases skipped <;> rfl)
    round (2 * room + 2) (2 * roomOther + 2) .value next
  have enough (room : Nat) : room + 1 ≤ Skipped.value.room (2 * room + 2) := by
    simp only [Skipped.room]
    omega
  exact agree_shorter agree (enough room) (enough roomOther)

end Skipping

end SchemaBindings.Json.Decoder
