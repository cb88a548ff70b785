/-!
# Texts as bytes

A text is stored as bytes in the usual variable-length form: the first byte of a
character says how many follow, and only the shortest form of a code point that is a
character counts. A sequence of bytes that is no text is faulty at its first byte
that begins no character. The fault is as long as the bytes that could still have
become a character, and it is open if there are no bytes after them.
-/
namespace SchemaBindings.Text

/-- A place at which bytes are no text. -/
structure Utf8Fault where
  index : Nat
  /-- The number of bytes; none if more bytes could complete them. -/
  length : Option Nat
deriving DecidableEq, Repr

/-- The text that describes the fault. -/
def Utf8Fault.message (fault : Utf8Fault) : String :=
  match fault.length with
  | some length =>
    "invalid utf-8 sequence of " ++ toString length ++ " bytes from index " ++ toString fault.index
  | none => "incomplete utf-8 byte sequence from index " ++ toString fault.index

/-- What bytes begin with. -/
inductive Utf8Step where
  | character (value : Char) (size : Nat)
  | invalid (size : Nat)
  | incomplete (size : Nat)

/-- The least and greatest second byte after a first byte of a longer character. -/
def secondByteRange (first : Nat) : Nat × Nat :=
  if first == 0xE0 then (0xA0, 0xBF)
  else if first == 0xED then (0x80, 0x9F)
  else if first == 0xF0 then (0x90, 0xBF)
  else if first == 0xF4 then (0x80, 0x8F)
  else (0x80, 0xBF)

/-- The number of bytes after a first byte of a longer character. -/
def following? (first : Nat) : Option Nat :=
  if 0xC2 ≤ first && first ≤ 0xDF then some 1
  else if 0xE0 ≤ first && first ≤ 0xEF then some 2
  else if 0xF0 ≤ first && first ≤ 0xF4 then some 3
  else none

/-- Read the bytes after the first one or two. -/
def continueStep (value size : Nat) : (missing : Nat) → List UInt8 → Utf8Step
  | 0, _ => .character (.ofNat value) size
  | _ + 1, [] => .incomplete size
  | missing + 1, byte :: rest =>
    if 0x80 ≤ byte.toNat && byte.toNat ≤ 0xBF then
      continueStep (value * 64 + (byte.toNat - 0x80)) (size + 1) missing rest
    else .invalid size

/-- What the bytes from a first one on begin with. -/
def utf8Step (first : UInt8) (rest : List UInt8) : Utf8Step :=
  let lead := first.toNat
  if lead < 0x80 then .character (.ofNat lead) 1
  else
    match following? lead with
    | none => .invalid 1
    | some count =>
      match rest with
      | [] => .incomplete 1
      | second :: others =>
        let (least, greatest) := secondByteRange lead
        if least ≤ second.toNat && second.toNat ≤ greatest then
          let value := lead % Nat.pow 2 (6 - count) * 64 + (second.toNat - 0x80)
          continueStep value 2 (count - 1) others
        else .invalid 1

/-- Read bytes as a text; `skip` bytes belong to the character before. -/
def decodeFrom (index : Nat) : (skip : Nat) → List UInt8 → Except Utf8Fault (List Char)
  | _, [] => .ok []
  | skip + 1, _ :: rest => decodeFrom (index + 1) skip rest
  | 0, first :: rest =>
    match utf8Step first rest with
    | .character value size =>
      match decodeFrom (index + 1) (size - 1) rest with
      | .ok characters => .ok (value :: characters)
      | .error fault => .error fault
    | .invalid size => .error ⟨index, some size⟩
    | .incomplete _ => .error ⟨index, none⟩

/-- Read bytes as a text. -/
def decode (bytes : List UInt8) : Except Utf8Fault String :=
  match decodeFrom 0 0 bytes with
  | .ok characters => .ok (.ofList characters)
  | .error fault => .error fault

/-- Read bytes as a text in which a replacement character stands for each fault. -/
def decodeReplacing : (skip : Nat) → List UInt8 → List Char
  | _, [] => []
  | skip + 1, _ :: rest => decodeReplacing skip rest
  | 0, first :: rest =>
    match utf8Step first rest with
    | .character value size => value :: decodeReplacing (size - 1) rest
    | .invalid size => '\uFFFD' :: decodeReplacing (size - 1) rest
    | .incomplete size => '\uFFFD' :: decodeReplacing (size - 1) rest

/-- Write a text as bytes. -/
def encode (text : List Char) : List UInt8 := text.flatMap String.utf8EncodeChar

end SchemaBindings.Text
