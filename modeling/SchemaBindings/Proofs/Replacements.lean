import SchemaBindings.Proofs.GroupNames
import SchemaBindings.Rule.Basic

/-!
# What replacements mean

Two small languages meet when a rule is applied: the one that authors write, and the one
that the text in the place of a match is expanded from. The first is described here by
itself, as a reading from left to right part by part. Turning a replacement into a
template writes one piece for every part that is read, and expanding the template takes
the pieces apart again at the same places: a dollar sign is always written twice or with
a brace after it, the brace is closed by the first one that comes, and what stands between
is read as a number only where one was meant. So the text that comes out is that of the
parts, and only the two references that are not supported stop the reading.
-/
namespace SchemaBindings

open SchemaBindings.Pattern SchemaBindings.Unicode

/-- What stands before the first sign of a kind. -/
theorem takeWhile_closed {stop : Char} {name : List Char} (rest : List Char)
    (first : stop ∉ name) : (name ++ stop :: rest).takeWhile (· != stop) = name := by
  rw [List.takeWhile_append_of_pos]
  · simp
  · rintro character member
    rw [bne_iff_ne]
    rintro rfl
    exact first member

/-- If anything is left where the sign is looked for, then the sign is there. -/
theorem eq_closed_of_drop {stop sign : Char} {text rest : List Char}
    (left : text.drop (text.takeWhile (· != stop)).length = sign :: rest) :
    text = text.takeWhile (· != stop) ++ stop :: rest := by
  induction text with
  | nil => contradiction
  | cons character text inductionHypothesis =>
    by_cases met : character = stop
    case pos =>
      simp only [met, bne_self_eq_false, Bool.false_eq_true, not_false_eq_true,
        List.takeWhile_cons_of_neg, List.length_nil, List.drop_zero, List.nil_append] at left ⊢
      rw [(List.cons.inj left).2]
    case neg =>
      have passed : (character :: text).takeWhile (· != stop) =
          character :: text.takeWhile (· != stop) :=
        List.takeWhile_cons_of_pos (bne_iff_ne.mpr met)
      rw [passed] at left ⊢
      exact congrArg (character :: ·) (inductionHypothesis left)

namespace Replacement

/-- A part of a replacement. -/
inductive Part where
  | character (character : Char)
  | whole
  | group (number : Nat)
  | named (name : String)
deriving DecidableEq, Repr

namespace Part

/-- The text that a part stands for when a match is replaced. -/
def text (regex : Regex) (text : List Char) (found : Match) : Part → List Char
  | .character sign => [sign]
  | .whole => (text.drop found.start).take (found.stop.index - found.start)
  | .group number => (found.captured number text).getD []
  | .named name => ((regex.groupNamed name).bind (found.captured · text)).getD []

/-- What is written for a part in a template. -/
def template : Part → List Char
  | .character sign => if sign = '$' then ['$', '$'] else [sign]
  | .whole => numberReference 0
  | .group number => numberReference number
  | .named name => nameReference name.toList

/-- A part refers to groups that there are. -/
def Known (groups : Nat) (names : List String) : Part → Prop
  | .group number => number ≤ groups
  | .named name => name ∈ names
  | _ => True

end Part

/-- What follows a dollar sign and makes one part with it: that part, and what comes after it. -/
inductive Token (groups : Nat) (names : List String) : List Char → Part → List Char → Prop
  | dollar (rest : List Char) : Token groups names ('$' :: rest) (.character '$') rest
  | whole (rest : List Char) : Token groups names ('&' :: rest) .whole rest
  /-- A number of two digits, if there is such a group. -/
  | double {first second : Char} (rest : List Char) (tens : isAsciiDigit first = true)
      (ones : isAsciiDigit second = true)
      (present : 1 ≤ digitNumber first * 10 + digitNumber second ∧
        digitNumber first * 10 + digitNumber second ≤ groups) :
      Token groups names (first :: second :: rest)
        (.group (digitNumber first * 10 + digitNumber second)) rest
  /-- A number of one digit, if there is such a group and none with the digit after it. -/
  | single {first : Char} (rest : List Char) (digit : isAsciiDigit first = true)
      (present : 1 ≤ digitNumber first ∧ digitNumber first ≤ groups)
      (alone : ∀ second more, rest = second :: more → isAsciiDigit second = true →
        ¬ (1 ≤ digitNumber first * 10 + digitNumber second ∧
          digitNumber first * 10 + digitNumber second ≤ groups)) :
      Token groups names (first :: rest) (.group (digitNumber first)) rest
  /-- The name of a group up to the first closing bracket. -/
  | named {name : List Char} (rest : List Char) (first : '>' ∉ name)
      (known : String.ofList name ∈ names) :
      Token groups names ('<' :: (name ++ '>' :: rest)) (.named (.ofList name)) rest

/-- The signs that ask for the text before and after a match. -/
def IsBarred (sign : Char) : Prop := sign = '\x60' ∨ sign = '\''

instance (sign : Char) : Decidable (IsBarred sign) :=
  inferInstanceAs (Decidable (sign = '\x60' ∨ sign = '\''))

/-- One part is read from the beginning of a text. -/
inductive Step (groups : Nat) (names : List String) : List Char → Part → List Char → Prop
  | plain {character : Char} (rest : List Char) (other : character ≠ '$') :
      Step groups names (character :: rest) (.character character) rest
  | token {following rest : List Char} {part : Part}
      (read : Token groups names following part rest) :
      Step groups names ('$' :: following) part rest
  /-- A dollar sign that makes no part with what follows stands for itself. -/
  | stray {following : List Char}
      (none : ∀ part rest, ¬ Token groups names following part rest)
      (free : ∀ sign rest, following = sign :: rest → ¬ IsBarred sign) :
      Step groups names ('$' :: following) (.character '$') following

/-- Reading a text from left to right gives these parts and reaches what is left. -/
inductive Reads (groups : Nat) (names : List String) : List Char → List Part → List Char → Prop
  | here (text : List Char) : Reads groups names text [] text
  | next {text between rest : List Char} {part : Part} {parts : List Part}
      (first : Step groups names text part between)
      (later : Reads groups names between parts rest) :
      Reads groups names text (part :: parts) rest

variable {groups : Nat} {names : List String}

/-- A number is found exactly where one of two digits, or else one of one digit, is a group. -/
theorem numberAt_eq_some_iff {following rest : List Char} {number : Nat} :
    numberAt groups following = some (number, rest) ↔
      (∃ first second, following = first :: second :: rest ∧ isAsciiDigit first = true ∧
        isAsciiDigit second = true ∧ number = digitNumber first * 10 + digitNumber second ∧
        1 ≤ number ∧ number ≤ groups) ∨
      ∃ first, following = first :: rest ∧ isAsciiDigit first = true ∧
        number = digitNumber first ∧ 1 ≤ number ∧ number ≤ groups ∧
        ∀ second more, rest = second :: more → isAsciiDigit second = true →
          ¬ (1 ≤ digitNumber first * 10 + digitNumber second ∧
            digitNumber first * 10 + digitNumber second ≤ groups) := by
  match following with
  | [] => simp [numberAt]
  | first :: rest' =>
    by_cases digit : isAsciiDigit first = true
    case neg => simp [numberAt, digit]
    case pos =>
      cases rest' with
      | nil =>
        simp only [numberAt, digit]
        grind
      | cons second tail =>
        simp only [numberAt, digit]
        grind

/-- A name is found exactly where a bracket is closed after the name of a group. -/
theorem nameAt_eq_some_iff {following name rest : List Char} :
    nameAt names following = some (name, rest) ↔
      following = '<' :: (name ++ '>' :: rest) ∧ '>' ∉ name ∧ String.ofList name ∈ names := by
  match following with
  | [] => simp [nameAt]
  | first :: inside =>
    by_cases opened : first = '<'
    case neg => simp [nameAt, opened]
    case pos =>
      subst opened
      simp only [nameAt]
      constructor
      · intro found
        split at found
        case h_1 => contradiction
        case h_2 sign others left =>
          split at found
          case isFalse => contradiction
          case isTrue known =>
            obtain ⟨rfl, rfl⟩ := Prod.mk.inj (Option.some.inj found)
            refine ⟨congrArg ('<' :: ·) (eq_closed_of_drop left), ?_, List.contains_iff_mem.mp known⟩
            intro member
            have allowed := List.all_eq_true.mp List.all_takeWhile '>' member
            contradiction
      · rintro ⟨same, first, known⟩
        obtain rfl := (List.cons.inj same).2
        simp [takeWhile_closed rest first, known]

/-- The part that follows a dollar sign and makes one with it, as it is looked for. -/
def tokenAt (groups : Nat) (names : List String) (following : List Char) :
    Option (Part × List Char) :=
  match following with
  | '$' :: rest => some (.character '$', rest)
  | '&' :: rest => some (.whole, rest)
  | _ =>
    match numberAt groups following with
    | some (number, rest) => some (.group number, rest)
    | none => (nameAt names following).map fun found => (.named (.ofList found.1), found.2)

/-- A digit after a dollar sign can only begin a number. -/
theorem tokenAt_of_digit {first : Char} {rest : List Char} (digit : isAsciiDigit first = true)
    {number : Nat} {left : List Char}
    (found : numberAt groups (first :: rest) = some (number, left)) :
    tokenAt groups names (first :: rest) = some (.group number, left) := by
  unfold tokenAt
  split
  case h_1 same =>
    obtain ⟨rfl, -⟩ := List.cons.inj same
    contradiction
  case h_2 same =>
    obtain ⟨rfl, -⟩ := List.cons.inj same
    contradiction
  case h_3 => rw [found]

/-- What is looked for is what there is. -/
theorem token_iff {following rest : List Char} {part : Part} :
    Token groups names following part rest ↔
      tokenAt groups names following = some (part, rest) := by
  constructor
  · rintro (_ | _ | @⟨first, second, _, tens, ones, present⟩ | @⟨first, _, digit, present, alone⟩ |
      @⟨name, _, first, known⟩)
    case dollar => rfl
    case whole => rfl
    case double =>
      exact tokenAt_of_digit tens
        (numberAt_eq_some_iff.mpr (.inl ⟨first, second, rfl, tens, ones, rfl, present⟩))
    case single =>
      exact tokenAt_of_digit digit
        (numberAt_eq_some_iff.mpr (.inr ⟨first, rfl, digit, rfl, present.1, present.2, alone⟩))
    case named =>
      have found : nameAt names ('<' :: (name ++ '>' :: rest)) = some (name, rest) :=
        nameAt_eq_some_iff.mpr ⟨rfl, first, known⟩
      have number : numberAt groups ('<' :: (name ++ '>' :: rest)) = none := rfl
      simp [tokenAt, found, number]
  · intro found
    unfold tokenAt at found
    split at found
    case h_1 =>
      obtain ⟨rfl, rfl⟩ := Prod.mk.inj (Option.some.inj found)
      exact .dollar _
    case h_2 =>
      obtain ⟨rfl, rfl⟩ := Prod.mk.inj (Option.some.inj found)
      exact .whole _
    case h_3 =>
      split at found
      case h_1 number left numbered =>
        obtain ⟨rfl, rfl⟩ := Prod.mk.inj (Option.some.inj found)
        rcases numberAt_eq_some_iff.mp numbered with
          ⟨first, second, rfl, tens, ones, rfl, present⟩ |
          ⟨first, rfl, digit, rfl, least, most, alone⟩
        · exact .double _ tens ones present
        · exact .single _ digit ⟨least, most⟩ alone
      case h_2 =>
        obtain ⟨⟨name, left⟩, named, same⟩ := Option.map_eq_some_iff.mp found
        obtain ⟨rfl, rfl⟩ := Prod.mk.inj same
        obtain ⟨rfl, first, known⟩ := nameAt_eq_some_iff.mp named
        exact .named _ first known

/-- After a sign that is not supported nothing else is found. -/
theorem tokenAt_of_isBarred {sign : Char} (barred : IsBarred sign) (rest : List Char) :
    tokenAt groups names (sign :: rest) = none := by
  rcases barred with rfl | rfl
  · rfl
  · rfl

/-- What a token is read from does not begin with a sign that is barred. -/
theorem Token.free {following rest : List Char} {part : Part}
    (read : Token groups names following part rest) :
    ∀ sign left, following = sign :: left → ¬ IsBarred sign := by
  rintro sign left rfl barred
  rw [token_iff, tokenAt_of_isBarred barred] at read
  contradiction

/-- A text can be read in one way only. -/
theorem Step.unique {text first second : List Char} {part other : Part}
    (read : Step groups names text part first) (again : Step groups names text other second) :
    part = other ∧ first = second := by
  cases read with
  | plain rest unlike =>
    cases again with
    | plain => exact ⟨rfl, rfl⟩
    | token => contradiction
    | stray => contradiction
  | token read =>
    cases again with
    | plain _ unlike => contradiction
    | token again =>
      rw [token_iff] at read again
      exact Prod.mk.inj (Option.some.inj (read.symm.trans again))
    | stray none => exact absurd read (none _ _)
  | stray none =>
    cases again with
    | plain _ unlike => contradiction
    | token again => exact absurd again (none _ _)
    | stray => exact ⟨rfl, rfl⟩

/-- The reading of a text is stopped by a reference that is not supported. -/
def Barred (text : List Char) : Prop :=
  ∃ sign rest, text = '$' :: sign :: rest ∧ IsBarred sign

/-- Nothing is read where the reading is stopped. -/
theorem Barred.not_step {text : List Char} (barred : Barred text) (part : Part)
    (rest : List Char) : ¬ Step groups names text part rest := by
  obtain ⟨sign, left, rfl, unsupported⟩ := barred
  intro read
  cases read with
  | plain _ unlike => contradiction
  | token read => exact read.free sign left rfl unsupported
  | stray _ free => exact free sign left rfl unsupported

/-- The parts up to the end or up to where the reading is stopped are determined. -/
theorem Reads.unique {text first second : List Char} {parts others : List Part}
    (read : Reads groups names text parts first) (reached : first = [] ∨ Barred first)
    (again : Reads groups names text others second) (finished : second = [] ∨ Barred second) :
    parts = others ∧ first = second := by
  have stays {text rest : List Char} {part : Part} (stopped : text = [] ∨ Barred text) :
      ¬ Step groups names text part rest := by
    rcases stopped with rfl | barred
    · exact nofun
    · exact barred.not_step part rest
  induction read generalizing others with
  | here text =>
    cases again with
    | here => exact ⟨rfl, rfl⟩
    | next step => exact absurd step (stays reached)
  | next step later inductionHypothesis =>
    cases again with
    | here => exact absurd step (stays finished)
    | next other again =>
      obtain ⟨rfl, rfl⟩ := step.unique other
      obtain ⟨rfl, rfl⟩ := inductionHypothesis reached again
      exact ⟨rfl, rfl⟩

/-- The groups that are referred to exist. -/
theorem Reads.known {text rest : List Char} {parts : List Part}
    (read : Reads groups names text parts rest) : ∀ part ∈ parts, part.Known groups names := by
  induction read with
  | here => exact nofun
  | next first later inductionHypothesis =>
    refine List.forall_mem_cons.mpr ⟨?_, inductionHypothesis⟩
    cases first with
    | plain => trivial
    | token read =>
      cases read with
      | dollar => trivial
      | whole => trivial
      | double _ _ _ present => exact present.2
      | single _ _ present => exact present.2
      | named _ _ known => exact known
    | stray => trivial

end Replacement

namespace Pattern

/-- A number is read back from the digits that it is written in. -/
theorem Reference.ofText_toString (number : Nat) :
    Reference.ofText (toString number).toList = .number number := by
  have written : (toString number).toList = Nat.toDigits 10 number := Nat.toList_repr
  have digits : (Nat.toDigits 10 number).all isAsciiDigit = true :=
    List.all_eq_true.mpr fun digit member =>
      Nat.isDigit_of_mem_toDigits (by decide) (by decide) member
  have some : (Nat.toDigits 10 number).isEmpty = false := by simp
  have value : (Nat.toDigits 10 number).foldl
      (fun value digit => value * 10 + (digit.toNat - '0'.toNat)) 0 = number := by
    simp only [Nat.mul_comm _ 10]
    exact Nat.ofDigitChars_ten_toDigits
  rw [ofText, written, some, digits, value]
  rfl

/-- A number has no brace in it. -/
theorem brace_not_mem_toString (number : Nat) : '}' ∉ (toString number).toList := by
  have written : (toString number).toList = Nat.toDigits 10 number := Nat.toList_repr
  rw [written]
  intro member
  have digit := Nat.isDigit_of_mem_toDigits (by decide) (by decide) member
  contradiction

/-- What stands in braces after a dollar sign is a reference. -/
theorem referenceAt_braced {name : List Char} (rest : List Char) (closed : '}' ∉ name) :
    referenceAt ('{' :: (name ++ '}' :: rest)) = some (.ofText name, rest) := by
  simp [referenceAt, takeWhile_closed rest closed]

/-- A reference in braces is expanded to what it stands for. -/
theorem expandWithin_braced (value : Reference → List Char) (bound : Nat) {name : List Char}
    (rest : List Char) (closed : '}' ∉ name) :
    expandWithin value (bound + 1) ('$' :: '{' :: (name ++ '}' :: rest)) =
      value (.ofText name) ++ expandWithin value bound rest := by
  rw [expandWithin]
  · rw [referenceAt_braced rest closed]
  · exact nofun

/-- A reference to a group by its number expands to the value of this group, and what follows it is
expanded behind. -/
theorem expandWithin_number (value : Reference → List Char) (bound number : Nat)
    (rest : List Char) :
    expandWithin value (bound + 1) (Replacement.numberReference number ++ rest) =
      value (.number number) ++ expandWithin value bound rest := by
  have braced := expandWithin_braced value bound rest (brace_not_mem_toString number)
  rw [Reference.ofText_toString] at braced
  simpa [Replacement.numberReference] using braced

/-- So does a reference to a group by its name. -/
theorem expandWithin_name (value : Reference → List Char) (bound : Nat) {name : List Char}
    (named : IsGroupName name) (rest : List Char) :
    expandWithin value (bound + 1) (Replacement.nameReference name ++ rest) =
      value (.name name) ++ expandWithin value bound rest := by
  have closed : '}' ∉ name := fun member => named.ne_brace '}' member rfl
  have braced := expandWithin_braced value bound rest closed
  rw [named.ofText] at braced
  simpa [Replacement.nameReference] using braced

end Pattern

namespace Replacement

/-- Something is written for every part. -/
theorem Part.template_length_pos (part : Part) : 0 < part.template.length := by
  cases part with
  | character sign =>
    rw [template]
    split <;> simp
  | whole => simp [template, numberReference]
  | group number => simp [template, numberReference]
  | named name => simp [template, nameReference]

/-- The piece of the template for one part is expanded to the text of that part. -/
theorem Part.expandWithin_template {regex : Regex}
    (readable : ∀ name, some name ∈ regex.groupNames → IsGroupName name.toList)
    (text : List Char) (found : Match) {part : Part}
    (known : part.Known regex.groupCount (regex.groupNames.filterMap id)) (bound : Nat)
    (rest : List Char) :
    expandWithin (·.text regex text found) (bound + 1) (part.template ++ rest) =
      part.text regex text found ++
        expandWithin (·.text regex text found) bound rest := by
  cases part with
  | character sign =>
    by_cases dollar : sign = '$'
    case pos =>
      subst dollar
      rfl
    case neg => simp [template, Part.text, dollar, expandWithin]
  | whole =>
    rw [template, expandWithin_number]
    simp [Part.text, Reference.text, Match.captured]
  | group number =>
    rw [template, expandWithin_number]
    have present : number ≤ regex.groupCount := known
    simp [Part.text, Reference.text, present]
  | named name =>
    have member : some name ∈ regex.groupNames := by simpa using List.mem_filterMap.mp known
    rw [template, expandWithin_name _ _ (readable name member)]
    cases number : regex.groupNamed name <;> simp [Part.text, Reference.text, number]

/-- A template that is written part by part is expanded to the texts of the parts. -/
theorem expand_flatMap_template {regex : Regex}
    (readable : ∀ name, some name ∈ regex.groupNames → IsGroupName name.toList)
    (text : List Char) (found : Match) {parts : List Part}
    (known : ∀ part ∈ parts, part.Known regex.groupCount (regex.groupNames.filterMap id)) :
    expand (parts.flatMap Part.template) regex text found =
      parts.flatMap (·.text regex text found) := by
  have within (bound : Nat) (enough : (parts.flatMap Part.template).length ≤ bound) :
      expandWithin (·.text regex text found) bound (parts.flatMap Part.template) =
        parts.flatMap (·.text regex text found) := by
    induction parts generalizing bound with
    | nil => cases bound <;> rfl
    | cons part parts inductionHypothesis =>
      rw [List.flatMap_cons, List.length_append] at enough
      have written := part.template_length_pos
      obtain ⟨bound, rfl⟩ : ∃ left, bound = left + 1 := ⟨bound - 1, by omega⟩
      obtain ⟨first, others⟩ := List.forall_mem_cons.mp known
      rw [List.flatMap_cons, List.flatMap_cons,
        Part.expandWithin_template readable text found first,
        inductionHypothesis others bound (by omega)]
  exact within _ (Nat.le_refl _)

end Replacement

/-- With a pattern that is compiled, compiling a rule is turning its replacement into a template. -/
theorem Rule.compile_eq {pattern flags : String} {regex : Regex} {everywhere : Bool}
    (compiled : compilePattern pattern flags = .ok (regex, everywhere)) (replacement : String) :
    Rule.compile pattern flags replacement =
      (Replacement.toTemplate regex.groupCount (regex.groupNames.filterMap id)
        replacement.toList).map (⟨regex, ·, everywhere⟩) := by
  rw [Rule.compile, compiled]
  rfl

namespace Replacement

end Replacement

end SchemaBindings
