import Mathlib.Data.List.Basic
import SchemaBindings.Program.Octets

/-!
# Texts and their bytes

Texts are written to files and read again, handed to programs and taken from what these
have printed. All of it goes through bytes, and nothing is lost on the way: the bytes of
a text are read as this text, also by the reading that puts replacement characters where
bytes are no text, and no other bytes are read as it. So there is one form in which a
text can be stored, and a program that prints it has printed these bytes.

The law rests on single characters. The first byte says how many follow, and the range
that is allowed for the second one is just what keeps out longer forms of the same
number, numbers that are kept for pairs, and numbers beyond the last character.
-/
namespace SchemaBindings

namespace Text

/-! ## One character -/

/-- A byte with a number below 256 has this number. -/
theorem toNat_byte {number : Nat} (small : number < 256) : (UInt8.ofNat number).toNat = number :=
  UInt8.toNat_ofNat_of_lt' small

/-- A byte of a character after the first two adds six bits to the number that is read. -/
theorem continueStep_encoded (value size missing number : Nat) (rest : List UInt8) :
    continueStep value size (missing + 1) (UInt8.ofNat (number % 64 + 128) :: rest) =
      continueStep (value * 64 + number % 64) (size + 1) missing rest := by
  have byte : (UInt8.ofNat (number % 64 + 128)).toNat = number % 64 + 128 := toNat_byte (by omega)
  have fits : (0x80 ≤ number % 64 + 128 && number % 64 + 128 ≤ 0xBF) = true := by
    simp only [Bool.and_eq_true, decide_eq_true_eq]
    omega
  rw [continueStep, byte, if_pos fits, Nat.add_sub_cancel]

/-- A longer character is read from its first byte, its second byte and those that follow. -/
theorem utf8Step_longer {lead second count : Nat} {rest : List UInt8}
    (high : 0x80 ≤ lead) (small : lead < 256) (many : following? lead = some count)
    (least : (secondByteRange lead).1 ≤ second % 64 + 128)
    (greatest : second % 64 + 128 ≤ (secondByteRange lead).2) :
    utf8Step (UInt8.ofNat lead) (UInt8.ofNat (second % 64 + 128) :: rest) =
      continueStep (lead % Nat.pow 2 (6 - count) * 64 + second % 64) 2 (count - 1) rest := by
  have byte : (UInt8.ofNat (second % 64 + 128)).toNat = second % 64 + 128 := toNat_byte (by omega)
  have within : ((secondByteRange lead).1 ≤ second % 64 + 128
      && second % 64 + 128 ≤ (secondByteRange lead).2) = true := by
    simp [least, greatest]
  simp only [utf8Step, toNat_byte small, byte, many, if_neg (Nat.not_lt.mpr high), within, if_true,
    Nat.add_sub_cancel]

/-- The bytes that a character is written as begin with this character, whatever follows them. -/
theorem utf8Step_encoded (character : Char) (rest : List UInt8) :
    ∃ first others, String.utf8EncodeChar character = first :: others ∧
      utf8Step first (others ++ rest) = .character character (others.length + 1) := by
  have valid : character.toNat < 0xD800 ∨ 0xDFFF < character.toNat ∧ character.toNat < 0x110000 :=
    character.valid
  have whole {value : Nat} (same : value = character.toNat) : Char.ofNat value = character :=
    same ▸ Char.ofNat_toNat character
  fun_cases String.utf8EncodeChar character with
  | case1 number small =>
    refine ⟨_, [], rfl, ?_⟩
    have lead : (UInt8.ofNat number).toNat = number := toNat_byte (by omega)
    simp only [utf8Step, lead, if_pos (Nat.lt_succ_of_le small), @whole number rfl,
      List.length_nil]
  | case2 number large small =>
    have exact : number = character.toNat := rfl
    clear_value number
    have lead : following? (number / 64 % 32 + 192) = some 1 := by grind [following?]
    have range : secondByteRange (number / 64 % 32 + 192) = (0x80, 0xBF) := by grind [secondByteRange]
    refine ⟨_, [_], rfl, ?_⟩
    rw [List.singleton_append, utf8Step_longer (by omega) (by omega) lead (by rw [range]; simp)
      (by rw [range]; simp only; omega)]
    rw [Nat.sub_self, continueStep, whole]
    · rfl
    · simp only [Nat.pow_eq, Nat.reduceSub, Nat.reducePow]
      omega
  | case3 number large larger small =>
    have exact : number = character.toNat := rfl
    clear_value number
    have lead : following? (number / 4096 % 16 + 224) = some 2 := by grind [following?]
    have least : (secondByteRange (number / 4096 % 16 + 224)).1 ≤ number / 64 % 64 + 128 := by
      grind [secondByteRange]
    have greatest : number / 64 % 64 + 128 ≤ (secondByteRange (number / 4096 % 16 + 224)).2 := by
      grind [secondByteRange]
    refine ⟨_, [_, _], rfl, ?_⟩
    rw [List.cons_append, utf8Step_longer (by omega) (by omega) lead least greatest,
      List.singleton_append, continueStep_encoded]
    simp only [continueStep]
    rw [whole]
    · rfl
    · simp only [Nat.pow_eq, Nat.reduceSub, Nat.reducePow]
      omega
  | case4 number large larger largest =>
    have exact : number = character.toNat := rfl
    clear_value number
    have lead : following? (number / 262144 % 8 + 240) = some 3 := by grind [following?]
    have least : (secondByteRange (number / 262144 % 8 + 240)).1 ≤ number / 4096 % 64 + 128 := by
      grind [secondByteRange]
    have greatest : number / 4096 % 64 + 128 ≤ (secondByteRange (number / 262144 % 8 + 240)).2 := by
      grind [secondByteRange]
    refine ⟨_, [_, _, _], rfl, ?_⟩
    rw [List.cons_append, utf8Step_longer (by omega) (by omega) lead least greatest,
      List.cons_append, continueStep_encoded, List.singleton_append, continueStep_encoded]
    simp only [continueStep]
    rw [whole]
    · rfl
    · simp only [Nat.pow_eq, Nat.reduceSub, Nat.reducePow]
      omega

/-- A number in the range of characters, and none of those that are kept for pairs. -/
theorem toNat_ofNat {number : Nat}
    (valid : number < 0xD800 ∨ 0xDFFF < number ∧ number < 0x110000) :
    (Char.ofNat number).val.toNat = number := by
  have valid : number.isValidChar := valid
  rw [Char.ofNat, dif_pos valid]
  rfl

/-- What is read as the rest of a character consists of as many bytes as were missing. -/
theorem continueStep_character {value size missing length : Nat} {rest : List UInt8}
    {character : Char} (read : continueStep value size missing rest = .character character length) :
    ∃ numbers : List Nat, numbers.length = missing ∧ (∀ number ∈ numbers, number < 64) ∧
      (∃ following, rest = numbers.map (fun number => UInt8.ofNat (number + 128)) ++ following) ∧
      length = size + missing ∧ ∃ total, character = .ofNat total ∧
        total = numbers.foldl (fun value number => value * 64 + number) value := by
  induction missing generalizing value size rest with
  | zero =>
    rw [continueStep] at read
    obtain ⟨same, sized⟩ := Utf8Step.character.inj read
    exact ⟨[], rfl, by simp, ⟨rest, rfl⟩, sized.symm, value, same.symm, rfl⟩
  | succ missing inductionHypothesis =>
    cases rest with
    | nil => contradiction
    | cons byte rest =>
      rw [continueStep] at read
      split at read
      case isFalse => contradiction
      case isTrue fits =>
        simp only [Bool.and_eq_true, decide_eq_true_eq] at fits
        obtain ⟨numbers, many, small, ⟨following, same⟩, sized, total, read, sum⟩ :=
          inductionHypothesis read
        have length : length = size + (missing + 1) := by rw [sized, Nat.add_assoc, Nat.add_comm 1]
        refine ⟨(byte.toNat - 0x80) :: numbers, by simp [many], ?_, ⟨following, ?_⟩, length,
          total, read, by simp only [sum, List.foldl_cons]⟩
        · intro number member
          rcases List.mem_cons.mp member with here | member
          · omega
          · exact small number member
        · have back : byte.toNat - 0x80 + 128 = byte.toNat := Nat.sub_add_cancel fits.1
          rw [List.map_cons, back, UInt8.ofNat_toNat, same, List.cons_append]

/-- A number that is read from a first byte, a second byte in its range, and further ones is that of a
character, which is written as these bytes. The range of the second byte keeps out numbers that have
a shorter form, those that are kept for pairs, and those beyond the last character. -/
theorem utf8EncodeChar_longer {lead next count total : Nat} {numbers : List Nat}
    (many : following? lead = some count) (length : numbers.length = count - 1)
    (small : ∀ number ∈ numbers, number < 64) (least : (secondByteRange lead).1 ≤ next)
    (greatest : next ≤ (secondByteRange lead).2)
    (sum : total = numbers.foldl (fun value number => value * 64 + number)
      (lead % Nat.pow 2 (6 - count) * 64 + (next - 0x80))) :
    String.utf8EncodeChar (.ofNat total) =
      UInt8.ofNat lead :: UInt8.ofNat next :: numbers.map fun number => UInt8.ofNat (number + 128) := by
  have pairs : (secondByteRange lead).1 ≤ next ∧ next ≤ (secondByteRange lead).2 := ⟨least, greatest⟩
  rw [following?] at many
  split at many
  case isTrue two =>
    obtain rfl := Option.some.inj many
    obtain rfl := List.length_eq_zero_iff.mp length
    have range : secondByteRange lead = (0x80, 0xBF) := by grind [secondByteRange]
    simp only [range, Bool.and_eq_true, decide_eq_true_eq] at pairs two
    have shift : Nat.pow 2 (6 - 1) = 32 := rfl
    rw [List.foldl_nil, shift] at sum
    have value : (Char.ofNat total).val.toNat = total := toNat_ofNat (by omega)
    have firstByte : total / 64 % 32 + 0xC0 = lead := by omega
    have secondByte : total % 64 + 0x80 = next := by omega
    rw [List.map_nil, String.utf8EncodeChar, value, if_neg (by omega), if_pos (by omega), firstByte,
      secondByte]
  case isFalse =>
    split at many
    case isTrue three =>
      obtain rfl := Option.some.inj many
      obtain ⟨third, rfl⟩ := List.length_eq_one_iff.mp length
      have thirdSmall := small third List.mem_cons_self
      have shift : Nat.pow 2 (6 - 2) = 16 := rfl
      rw [List.foldl_cons, List.foldl_nil, shift] at sum
      simp only [Bool.and_eq_true, decide_eq_true_eq] at three
      have range : (lead = 0xE0 → 0xA0 ≤ next) ∧ (lead = 0xED → next ≤ 0x9F) ∧
          0x80 ≤ next ∧ next ≤ 0xBF := by grind [secondByteRange]
      have value : (Char.ofNat total).val.toNat = total := toNat_ofNat (by omega)
      have firstByte : total / 4096 % 16 + 0xE0 = lead := by omega
      have secondByte : total / 64 % 64 + 0x80 = next := by omega
      have thirdByte : total % 64 = third := by omega
      rw [List.map_singleton, String.utf8EncodeChar, value, if_neg (by omega), if_neg (by omega),
        if_pos (by omega), firstByte, secondByte, thirdByte]
    case isFalse =>
      split at many
      case isFalse => contradiction
      case isTrue four =>
        obtain rfl := Option.some.inj many
        obtain ⟨third, fourth, rfl⟩ := List.length_eq_two.mp length
        have thirdSmall := small third List.mem_cons_self
        have fourthSmall := small fourth (.tail _ List.mem_cons_self)
        have shift : Nat.pow 2 (6 - 3) = 8 := rfl
        rw [List.foldl_cons, List.foldl_cons, List.foldl_nil, shift] at sum
        simp only [Bool.and_eq_true, decide_eq_true_eq] at four
        have range : (lead = 0xF0 → 0x90 ≤ next) ∧ (lead = 0xF4 → next ≤ 0x8F) ∧
            0x80 ≤ next ∧ next ≤ 0xBF := by grind [secondByteRange]
        have value : (Char.ofNat total).val.toNat = total := toNat_ofNat (by omega)
        have firstByte : total / 262144 % 8 + 0xF0 = lead := by omega
        have secondByte : total / 4096 % 64 + 0x80 = next := by omega
        have thirdByte : total / 64 % 64 = third := by omega
        have fourthByte : total % 64 = fourth := by omega
        rw [List.map_cons, List.map_singleton, String.utf8EncodeChar, value, if_neg (by omega),
          if_neg (by omega), if_neg (by omega), firstByte, secondByte, thirdByte, fourthByte]

/-- Where bytes begin with a character, they begin with the bytes that the character is written
as. -/
theorem encoded_of_utf8Step {first : UInt8} {rest : List UInt8} {character : Char} {size : Nat}
    (read : utf8Step first rest = .character character size) :
    ∃ others following, rest = others ++ following ∧ size = others.length + 1 ∧
      String.utf8EncodeChar character = first :: others := by
  have byte : UInt8.ofNat first.toNat = first := UInt8.ofNat_toNat
  have bound := first.toNat_lt
  rw [utf8Step] at read
  generalize first.toNat = lead at *
  simp only at read
  split at read
  case isTrue small =>
    obtain ⟨rfl, rfl⟩ := Utf8Step.character.inj read
    have value : (Char.ofNat lead).val.toNat = lead := toNat_ofNat (by omega)
    refine ⟨[], rest, rfl, rfl, ?_⟩
    rw [String.utf8EncodeChar, value, if_pos (by omega), byte]
  case isFalse high =>
    split at read
    case h_1 => contradiction
    case h_2 count many =>
      split at read
      case h_1 => contradiction
      case h_2 second others =>
        have other : UInt8.ofNat second.toNat = second := UInt8.ofNat_toNat
        generalize second.toNat = next at *
        split at read
        case isFalse => contradiction
        case isTrue within =>
          obtain ⟨numbers, length, small, ⟨following, same⟩, sized, value⟩ :=
            continueStep_character read
          obtain ⟨total, rfl, sum⟩ := value
          refine ⟨second :: numbers.map fun number => UInt8.ofNat (number + 128), following,
            by simp [same], by simp only [sized, List.length_cons, List.length_map, length]; omega, ?_⟩
          rw [← byte, ← other]
          simp only [Bool.and_eq_true, decide_eq_true_eq] at within
          exact utf8EncodeChar_longer many length small within.1 within.2 sum
/-! ## Whole texts -/

/-- Bytes that belong to the character before are passed over. -/
theorem decodeFrom_append (index : Nat) (part rest : List UInt8) :
    decodeFrom index part.length (part ++ rest) = decodeFrom (index + part.length) 0 rest := by
  induction part generalizing index with
  | nil => rfl
  | cons byte part inductionHypothesis =>
    rw [List.cons_append, List.length_cons, decodeFrom, inductionHypothesis, Nat.add_assoc,
      Nat.add_comm 1]

/-- Bytes that belong to the character before are passed over, where faults are replaced too. -/
theorem decodeReplacing_append (part rest : List UInt8) :
    decodeReplacing part.length (part ++ rest) = decodeReplacing 0 rest := by
  induction part with
  | nil => rfl
  | cons byte part inductionHypothesis =>
    rw [List.cons_append, List.length_cons, decodeReplacing, inductionHypothesis]

/-- The bytes of a text begin with those of its first character, which are read as this character. -/
theorem encode_cons (character : Char) (text : List Char) :
    ∃ first others, encode (character :: text) = first :: (others ++ encode text) ∧
      utf8Step first (others ++ encode text) = .character character (others.length + 1) := by
  obtain ⟨first, others, written, read⟩ := utf8Step_encoded character (encode text)
  refine ⟨first, others, ?_, read⟩
  rw [encode, List.flatMap_cons, written]
  rfl

/-- The bytes of a text are read as the text. The induction is on the characters, of which each takes
its own bytes from the front. -/
theorem decodeFrom_encode (index : Nat) (text : List Char) :
    decodeFrom index 0 (encode text) = .ok text := by
  induction text generalizing index with
  | nil => rfl
  | cons character text inductionHypothesis =>
    obtain ⟨first, others, bytes, read⟩ := encode_cons character text
    rw [bytes, decodeFrom, read]
    simp only [Nat.add_sub_cancel, decodeFrom_append, inductionHypothesis]

/-- No replacement is made in the bytes of a text. -/
theorem decodeReplacing_encode (text : List Char) : decodeReplacing 0 (encode text) = text := by
  induction text with
  | nil => rfl
  | cons character text inductionHypothesis =>
    obtain ⟨first, others, bytes, read⟩ := encode_cons character text
    rw [bytes, decodeReplacing, read]
    simp only [Nat.add_sub_cancel, decodeReplacing_append, inductionHypothesis]

/-- Bytes that are read as a text are the bytes of this text. -/
theorem encode_of_decodeFrom {index : Nat} {bytes : List UInt8} {text : List Char}
    (read : decodeFrom index 0 bytes = .ok text) : bytes = encode text := by
  induction text generalizing index bytes with
  | nil =>
    cases bytes with
    | nil => rfl
    | cons first rest =>
      rw [decodeFrom] at read
      split at read
      case h_1 => split at read <;> simp at read
      case h_2 => contradiction
      case h_3 => contradiction
  | cons character text inductionHypothesis =>
    cases bytes with
    | nil => simp [decodeFrom] at read
    | cons first rest =>
      rw [decodeFrom] at read
      split at read
      case h_1 value size step =>
        split at read
        case h_1 characters later =>
          obtain ⟨rfl, rfl⟩ := List.cons.inj (Except.ok.inj read)
          obtain ⟨others, following, rfl, rfl, written⟩ := encoded_of_utf8Step step
          rw [Nat.add_sub_cancel, decodeFrom_append] at later
          rw [encode, List.flatMap_cons, written, inductionHypothesis later]
          rfl
        case h_2 => contradiction
      case h_2 => contradiction
      case h_3 => contradiction

/-- A text has one form in bytes, and what is read as the text is this form. -/
theorem decode_eq_ok_iff (bytes : List UInt8) (text : String) :
    decode bytes = .ok text ↔ bytes = encode text.toList := by
  constructor
  · intro read
    rw [decode] at read
    split at read
    case h_1 characters found =>
      obtain rfl := Except.ok.inj read
      rw [String.toList_ofList]
      exact encode_of_decodeFrom found
    case h_2 => contradiction
  · rintro rfl
    rw [decode, decodeFrom_encode]
    exact congrArg Except.ok String.ofList_toList

end Text

/-! ## Octets -/

namespace Program.Octets

/-- A byte is the one that its octet is kept for. -/
theorem bytes_ofBytes (bytes : List UInt8) : (ofBytes bytes).bytes = bytes := by
  rw [Octets.bytes, ofBytes, List.map_map]
  refine (List.map_congr_left fun byte _ => ?_).trans (List.map_id bytes)
  have small := byte.toNat_lt
  have kept : (Char.ofNat byte.toNat).toNat = byte.toNat := Text.toNat_ofNat (.inl (by omega))
  rw [Function.comp_apply, kept, UInt8.ofNat_toNat, id_eq]

/-- A text is handed to a program and taken from it as it is. -/
theorem text_ofText (text : String) : Octets.text (ofText text) = text := by
  rw [Octets.text, ofText, bytes_ofBytes, Text.decodeReplacing_encode, String.ofList_toList]

end Program.Octets

end SchemaBindings
