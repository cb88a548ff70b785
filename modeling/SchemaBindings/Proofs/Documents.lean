import SchemaBindings.Config.Language
import SchemaBindings.Proofs.Endings

/-!
# Texts that begin with a document

A document is read up to its end, and what follows it is for the caller to look at. A caller
that does not look accepts every text that begins with a document; one that does accepts
those with nothing but white space behind it. Both of them are given the same value, because
no text begins with two different documents.
-/
namespace SchemaBindings

namespace Json

namespace Decoder

variable {α : Type}

section Records

variable {closed : Bool} {σ : Type}

/-- Each field of a record is read without looking further. -/
def ReadsFields (known : List (RecordField σ)) : Prop :=
  ∀ field ∈ known, ∀ depth record, Local false 1 (field.read depth record)

/-- A fault that is reported behind a bracket gives nothing, whether or not the bracket is there. -/
theorem failAfter_never (closing : Char) (fault : ReadFault) :
    Gives (fun _ => False) (failAfter closing fault : Decoder α) := by
  intro source value rest ended
  contradiction

/-- The fields of a record agree, the ones that are known as well as those that are passed over. -/
theorem agree_recordFields {known : List (RecordField σ)} (reads : ReadsFields known)
    (depth bound boundOther : Nat) (first : Bool) (seen : List String) (record : σ)
    (next : Option Char) :
    Agree false bound boundOther next 0 (recordFields known depth bound first seen record)
      (recordFields known depth boundOther first seen record) := by
  refine agree_rounds
    (fun (state : Bool × List String × σ) bound =>
      recordFields known depth bound state.1 state.2.1 state.2.2)
    (fun _ bound => bound) (fun _ => rfl) ?_ bound boundOther (first, seen, record) next
  intro bound boundOther inductionHypothesis ⟨first, seen, record⟩ next
  refine agree_bind (local_nextKey _ _ _ _) fun key _ => ?_
  cases key with
  | none => exact agree_pure record
  | some key =>
    dsimp only
    split
    -- A field that is not known is passed over.
    · refine agree_bind (local_colon _ _ _) fun _ _ => ?_
      refine agree_bind (agree_zero (agree_within _ (local_skip _ _ _))) fun _ _ => ?_
      exact inductionHypothesis (false, seen, record) _
    case h_2 field found =>
      split
      · exact agree_of_never (failAfter_never _ _) _
      · refine agree_bind (local_colon _ _ _) fun _ _ => ?_
        have readsField := reads field (List.mem_of_find?_eq_some found) depth record
        refine agree_bind (agree_zero (agree_within _ (readsField _ _ _)))
          fun read _ => ?_
        exact inductionHypothesis (false, key :: seen, read) _

/-- The fields of a record that is written as an array are read one after the other. The induction
is on the fields that are known; where the array ends before them, the next ones have to have
defaults. -/
theorem local_recordItems {known : List (RecordField σ)} (reads : ReadsFields known)
    (expected : String) (depth index : Nat) (record : σ) :
    Local false 0 (recordItems expected depth index known record) := by
  intro left right next
  induction known generalizing left right next index record with
  | nil => exact agree_pure record
  | cons field known inductionHypothesis =>
    obtain ⟨readsField, readsOthers⟩ := List.forall_mem_cons.mp reads
    refine agree_bind (local_moreElements _ _ _ _ _ _ _ _) fun more _ => ?_
    cases more with
    | true =>
      refine agree_bind (agree_zero (agree_within _ (readsField depth record _ _ _)))
        fun read _ => ?_
      exact inductionHypothesis readsOthers _ _ _ _ _
    | false =>
      split
      · contradiction
      · split
        · exact inductionHypothesis readsOthers _ _ _ _ _
        · exact agree_of_never (failAfter_never _ _) _

/-- A record ends with a bracket, too. -/
theorem local_record {known : List (RecordField σ)} (reads : ReadsFields known) (name : String)
    (initial : σ) (depth : Nat) : Local closed 1 (record name known initial depth) := by
  intro left right next
  refine agree_peekVisibleLast fun visible => ?_
  split
  · refine agree_bindLast (agree_openBracket depth _) fun _ _ => agree_remaining fun _ _ => ?_
    exact agree_bindLast (agree_recordFields reads _ _ _ _ _ _ _) fun result _ =>
      agree_map (local_closeObject _ _ _) fun _ => result
  · refine agree_bindLast (agree_openBracket depth _) fun _ _ => ?_
    exact agree_bindLast (local_recordItems reads _ _ _ _ _ _ _) fun result _ =>
      agree_map (local_closeList _ _ _) fun _ => result
  · exact agree_wrongType _ _

end Records

end Decoder

end Json

namespace Config

open Json Json.Decoder

variable {closed : Bool} {σ α : Type}

/-- Without fields there is nothing to be read. -/
theorem readsFields_nil : ReadsFields ([] : List (RecordField σ)) :=
  fun _ member => absurd member List.not_mem_nil

/-- A field is read without looking further if its value is. -/
theorem readsFields_optionalField {decoder : Nat → Decoder α} {known : List (RecordField σ)}
    {name : String} {assign : Option α → σ → σ} (reads : ∀ depth, Local false 1 (decoder depth))
    (others : ReadsFields known) : ReadsFields (optionalField name decoder assign :: known) :=
  List.forall_mem_cons.mpr
    ⟨fun depth _ _ _ _ => agree_map (local_optional (reads depth) _ _ _) _, others⟩

/-- The same holds of a field that has a default. -/
theorem readsFields_defaultField {decoder : Nat → Decoder α} {known : List (RecordField σ)}
    {name : String} {assign : α → σ → σ} (reads : ∀ depth, Local false 1 (decoder depth))
    (others : ReadsFields known) : ReadsFields (defaultField name decoder assign :: known) :=
  List.forall_mem_cons.mpr ⟨fun depth _ _ _ _ => agree_map (reads depth _ _ _) _, others⟩

/-- A text ends with its quote. -/
theorem local_text (depth : Nat) : Local false 1 (text depth) := local_string _

/-- A path is read as a text is. -/
theorem local_path (depth : Nat) : Local false 1 (path depth) := local_string _

/-- A truth value ends with its last letter. -/
theorem local_truth (depth : Nat) : Local false 1 (truth depth) := local_boolean

/-- A list of texts ends with its bracket. -/
theorem local_texts (depth : Nat) : Local false 1 (texts depth) := local_list local_text depth

/-- A value that is none of an option is refused after it has been read. -/
theorem local_optionValue (depth : Nat) : Local false 1 (optionValue depth) := by
  intro left right next
  refine agree_bindFirst (local_any depth _ _ _) fun value _ => ?_
  split
  · exact agree_pure _
  · exact agree_pure _
  · exact agree_of_never (failAfter_never _ _) _

/-- Options are a table of values that are read without looking further. -/
theorem local_rendererOptions (depth : Nat) : Local false 1 (rendererOptions depth) :=
  local_table local_optionValue depth

/-- Every field of these settings has a default, and each is a text. -/
theorem local_schemaSettings (depth : Nat) : Local false 1 (schemaSettings depth) := by
  refine local_record ?_ _ _ _
  exact readsFields_defaultField local_text <| readsFields_defaultField local_text <|
    readsFields_defaultField local_text <| readsFields_defaultField local_text <|
    readsFields_defaultField local_path readsFields_nil

/-- Both fields of the source may be absent. -/
theorem local_sourceSettings (depth : Nat) : Local false 1 (sourceSettings depth) := by
  refine local_record ?_ _ _ _
  exact readsFields_optionalField local_path <|
    readsFields_optionalField local_texts readsFields_nil

/-- The settings of the generator are a text and a list of texts. -/
theorem local_generatorSettings (depth : Nat) : Local false 1 (generatorSettings depth) := by
  refine local_record ?_ _ _ _
  exact readsFields_defaultField local_text <| readsFields_defaultField local_texts readsFields_nil

/-- A rule is three texts, none of which has to be there. -/
theorem local_ruleSettings (depth : Nat) : Local false 1 (ruleSettings depth) := by
  refine local_record ?_ _ _ _
  exact readsFields_optionalField local_text <| readsFields_optionalField local_text <|
    readsFields_optionalField local_text readsFields_nil

/-- A pattern is two texts, none of which has to be there. -/
theorem local_patternSettings (depth : Nat) : Local false 1 (patternSettings depth) := by
  refine local_record ?_ _ _ _
  exact readsFields_optionalField local_text <| readsFields_optionalField local_text readsFields_nil

/-- A replaced type has a record within the record, which ends with a bracket of its own. -/
theorem local_typeMappingSettings (depth : Nat) : Local false 1 (typeMappingSettings depth) := by
  refine local_record ?_ _ _ _
  exact readsFields_optionalField local_patternSettings <|
    readsFields_optionalField local_text readsFields_nil

/-- Replaced types are a list of records, so brackets of both kinds are nested here. -/
theorem local_customMappingSettings (depth : Nat) :
    Local false 1 (customMappingSettings depth) := by
  refine local_record ?_ _ _ _
  exact readsFields_optionalField local_patternSettings <| readsFields_optionalField local_texts <|
    readsFields_optionalField (local_list local_typeMappingSettings) readsFields_nil

/-- An alias is a truth value and two texts. -/
theorem local_unionSettings (depth : Nat) : Local false 1 (unionSettings depth) := by
  refine local_record ?_ _ _ _
  exact readsFields_optionalField local_truth <| readsFields_optionalField local_text <|
    readsFields_optionalField local_text readsFields_nil

/-- What is done for a language has fields of all the kinds above. -/
theorem local_processingSettings (depth : Nat) : Local false 1 (processingSettings depth) := by
  refine local_record ?_ _ _ _
  exact readsFields_optionalField local_path <| readsFields_optionalField local_text <|
    readsFields_optionalField local_texts <| readsFields_optionalField local_ruleSettings <|
    readsFields_optionalField local_customMappingSettings <|
    readsFields_optionalField local_unionSettings readsFields_nil

/-- The settings of a language are its options and one record, either of which may be absent. -/
theorem local_languageSettings (depth : Nat) : Local false 1 (languageSettings depth) := by
  refine local_record ?_ _ _ _
  exact readsFields_optionalField local_rendererOptions <|
    readsFields_optionalField local_processingSettings readsFields_nil

/-- The settings end with their bracket, whatever follows it. -/
theorem local_settings (depth : Nat) : Local closed 1 (settings depth) := by
  refine local_record ?_ _ _ _
  have source (depth : Nat) (settings : Settings) :
      Local false 1 (sourceField.read depth settings) := fun _ _ _ =>
    agree_map (local_optional (local_sourceSettings depth) _ _ _) _
  refine readsFields_defaultField local_schemaSettings (List.forall_mem_cons.mpr ⟨source, ?_⟩)
  exact readsFields_defaultField local_generatorSettings <|
    readsFields_defaultField (local_table local_languageSettings) readsFields_nil

end Config

namespace Json

open Decoder

section Reading

variable {α : Type} {decoder : (depth : Nat) → Decoder α} {document : String} {value : α}

/-- Read a text that consists of one value of a type, and refuse it if anything but white space
follows the value. -/
def parseEntire (decoder : (depth : Nat) → Decoder α) (text : String) : Except ReadError α :=
  match decoder greatestDepth (.start text) with
  | .error error => .error error
  | .ok (value, source) =>
    let visible := skipSpace source.rest source.position
    if visible.rest.isEmpty then .ok value
    else .error ⟨.trailingCharacters, visible.peeked, []⟩

/-- Values of any type are read like this. -/
theorem parseEntire_any (text : String) : parseEntire any text = parseWhole text := by
  rw [parseEntire, parseWhole]
  cases any greatestDepth (.start text) <;> rfl

/-- A text is a document of a value if the value ends where the text does. -/
def IsDocument (decoder : (depth : Nat) → Decoder α) (document : String) (value : α) : Prop :=
  ∃ reached, decoder greatestDepth (.start document) = .ok (value, ⟨[], reached⟩)

/-- A document is read in front of any text. -/
theorem IsDocument.read_before (settled : Local true 1 (decoder greatestDepth))
    (isDocument : IsDocument decoder document value) (rest : String) :
    ∃ reached, decoder greatestDepth (.start (document ++ rest)) =
      .ok (value, ⟨rest.toList, reached⟩) := by
  obtain ⟨reached, ended⟩ := isDocument
  obtain ⟨read, split, -, same⟩ := settled (document.toList.length + 1)
    ((document ++ rest).toList.length + 1) _ document.toList _ value [] reached
    (Nat.lt_succ_self _) rfl ended
  obtain rfl : document.toList = read := by rw [split, List.append_nil]
  rw [Source.start, String.toList_append]
  exact same rest.toList (fun shut => absurd shut (by decide))
    (by rw [String.toList_append]; exact Nat.lt_succ_self _) _

/-- What has been read from a text is a document. -/
theorem isDocument_of_read (settled : Local true 1 (decoder greatestDepth)) {text : String}
    {rest : List Char} {reached : Position}
    (ended : decoder greatestDepth (.start text) = .ok (value, ⟨rest, reached⟩)) :
    ∃ document, text = document ++ String.ofList rest ∧ IsDocument decoder document value := by
  obtain ⟨read, split, -, same⟩ := settled (text.toList.length + 1) (text.toList.length + 1) _
    text.toList _ value rest reached (Nat.lt_succ_self _) rfl ended
  refine ⟨.ofList read, ?_, ?_⟩
  · rw [← String.ofList_append, ← split, String.ofList_toList]
  · have short : (read ++ []).length < text.toList.length + 1 := by
      rw [split, List.append_nil, List.length_append]
      omega
    obtain ⟨place, alone⟩ := same [] (fun shut => absurd shut (by decide)) short ⟨1, 0⟩
    refine ⟨place, ?_⟩
    rw [Source.start, String.toList_ofList, ← alone, List.append_nil]

/-- No text begins with two documents. -/
theorem IsDocument.unique (settled : Local true 1 (decoder greatestDepth))
    {rest other after : String} {another : α} (isDocument : IsDocument decoder document value)
    (isOther : IsDocument decoder other another) (same : document ++ rest = other ++ after) :
    document = other ∧ value = another := by
  obtain ⟨reached, read⟩ := isDocument.read_before settled rest
  obtain ⟨place, readOther⟩ := isOther.read_before settled after
  rw [same, readOther] at read
  obtain ⟨rfl, sources⟩ := Prod.mk.inj (Except.ok.inj read)
  obtain ⟨rests, -⟩ := Source.mk.inj sources
  rw [String.toList_inj.mp rests] at same
  exact ⟨(String.append_left_inj _).mp same, rfl⟩

/-- A text is accepted by a caller that does not look further if it begins with a document. -/
theorem parseLeading_eq_ok_iff (settled : Local true 1 (decoder greatestDepth)) (text : String) :
    parseLeading decoder text = .ok value ↔
      ∃ document rest, text = document ++ rest ∧ IsDocument decoder document value := by
  constructor
  · intro accepted
    rw [parseLeading] at accepted
    split at accepted
    case h_1 found source read =>
      obtain rfl := Except.ok.inj accepted
      obtain ⟨document, split, isDocument⟩ := isDocument_of_read settled read
      exact ⟨document, _, split, isDocument⟩
    case h_2 => contradiction
  · rintro ⟨document, rest, rfl, isDocument⟩
    obtain ⟨reached, read⟩ := isDocument.read_before settled rest
    rw [parseLeading, read]

/-- A text is nothing but white space if nothing of it can be seen. -/
theorem skipSpace_isEmpty_iff (text : List Char) (position : Position) :
    (skipSpace text position).rest.isEmpty = true ↔ ∀ character ∈ text, isJsonSpace character := by
  rw [skipSpace_rest, List.isEmpty_iff, List.dropWhile_eq_nil_iff]

/-- A text is accepted by a caller that looks further if it is a document with nothing but white
space behind it. -/
theorem parseEntire_eq_ok_iff (settled : Local true 1 (decoder greatestDepth)) (text : String) :
    parseEntire decoder text = .ok value ↔
      ∃ document rest, text = document ++ rest ∧ IsDocument decoder document value ∧
        ∀ character ∈ rest.toList, isJsonSpace character := by
  constructor
  · intro accepted
    rw [parseEntire] at accepted
    split at accepted
    case h_1 => contradiction
    case h_2 found source read =>
      dsimp only at accepted
      split at accepted
      case isTrue blank =>
        obtain rfl := Except.ok.inj accepted
        obtain ⟨document, split, isDocument⟩ := isDocument_of_read settled read
        refine ⟨document, _, split, isDocument, ?_⟩
        rw [String.toList_ofList]
        exact (skipSpace_isEmpty_iff _ _).mp blank
      case isFalse => contradiction
  · rintro ⟨document, rest, rfl, isDocument, blank⟩
    obtain ⟨reached, read⟩ := isDocument.read_before settled rest
    rw [parseEntire, read]
    exact if_pos ((skipSpace_isEmpty_iff _ _).mpr blank)

end Reading

/-- The types of the values inside of a document. -/
inductive ValueType where
  | text
  | truth
  | integer
  | option
  | any
  | list (item : ValueType)
  | table (value : ValueType)

/-- The values of a type. -/
def ValueType.Carrier : ValueType → Type
  | .text => String
  | .truth => Bool
  | .integer => Int
  | .option => OptionValue
  | .any => Json
  | .list item => List item.Carrier
  | .table value => Table value.Carrier

/-- How values of a type are read. -/
def ValueType.decoder : (type : ValueType) → (depth : Nat) → Decoder type.Carrier
  | .text, _ => Decoder.string
  | .truth, _ => Decoder.boolean
  | .integer, _ => Decoder.integer64
  | .option, depth => Config.optionValue depth
  | .any, depth => Decoder.any depth
  | .list item, depth => Decoder.list item.decoder depth
  | .table value, depth => Decoder.table value.decoder depth

/-- The types of documents: the settings, and all lists and tables. -/
inductive DocumentType where
  | settings
  | list (item : ValueType)
  | table (value : ValueType)

/-- The values of a type of documents. -/
def DocumentType.Carrier : DocumentType → Type
  | .settings => Settings
  | .list item => List item.Carrier
  | .table value => Table value.Carrier

/-- How documents of a type are read. -/
def DocumentType.decoder : (type : DocumentType) → (depth : Nat) → Decoder type.Carrier
  | .settings, depth => Config.settings depth
  | .list item, depth => Decoder.list item.decoder depth
  | .table value, depth => Decoder.table value.decoder depth

/-- Values inside of a document are read without looking further than at the next character. The
induction is on the type, and only a number needs this character. -/
theorem ValueType.local_decoder (type : ValueType) (depth : Nat) :
    Local false 1 (type.decoder depth) := by
  induction type generalizing depth with
  | text => exact local_string _
  | truth => exact local_boolean
  | integer => exact local_integer64
  | option => exact Config.local_optionValue depth
  | any => exact local_any depth
  | list item inductionHypothesis => exact local_list inductionHypothesis depth
  | table value inductionHypothesis => exact local_table inductionHypothesis depth

/-- Settings are read like any other value, and only the fault has another form. -/
theorem ofText_eq_ok_iff (file text : String) (settings : Settings) :
    Settings.ofText file text = .ok settings ↔
      parseLeading Config.settings text = .ok settings := by
  rw [Settings.ofText]
  cases parseLeading Config.settings text with
  | ok read => simp only [Except.ok.injEq]
  | error error => simp only [reduceCtorEq]

/-- A document ends with its bracket, whatever follows it. -/
theorem DocumentType.local_decoder (type : DocumentType) (depth : Nat) :
    Local true 1 (type.decoder depth) := by
  cases type with
  | settings => exact Config.local_settings depth
  | list item => exact local_list item.local_decoder depth
  | table value => exact local_table value.local_decoder depth

/-- A text is read, as the settings are, if it begins with a document of the type; and it is read by
a caller that looks further if nothing but white space follows this document. There is only one
document at the beginning of a text, so that both are given the same value. -/
theorem parseLeading_iff_begins (type : DocumentType) (text : String) (value : type.Carrier) :
    (parseLeading type.decoder text = .ok value ↔
      ∃ document rest, text = document ++ rest ∧ IsDocument type.decoder document value) ∧
    (parseEntire type.decoder text = .ok value ↔
      ∃ document rest, text = document ++ rest ∧ IsDocument type.decoder document value ∧
        ∀ character ∈ rest.toList, isJsonSpace character) ∧
    (∀ document rest other after another, text = document ++ rest → text = other ++ after →
      IsDocument type.decoder document value → IsDocument type.decoder other another →
        document = other ∧ value = another) ∧
    ∀ file read, Settings.ofText file text = .ok read ↔
      ∃ document rest, text = document ++ rest ∧ IsDocument Config.settings document read := by
  have settled := type.local_decoder greatestDepth
  refine ⟨parseLeading_eq_ok_iff settled text, parseEntire_eq_ok_iff settled text, ?_, ?_⟩
  · intro document rest other after another split splitOther isDocument isOther
    exact isDocument.unique settled isOther (split.symm.trans splitOther)
  · intro file read
    exact (ofText_eq_ok_iff file text read).trans
      (parseLeading_eq_ok_iff (Config.local_settings greatestDepth) text)

/-- An empty object with something behind it: the object is a document, the text is read, and no
other document stands at its beginning. -/
theorem parseLeading_iff_begins_at_more :
    IsDocument Config.settings "\x7b\x7d" {} ∧
      parseLeading Config.settings "\x7b\x7d x" = .ok {} ∧
      ∀ other after another, "\x7b\x7d x" = other ++ after →
        IsDocument Config.settings other another → "\x7b\x7d" = other ∧ {} = another := by
  have isDocument : IsDocument Config.settings "\x7b\x7d" {} := ⟨⟨1, 2⟩, rfl⟩
  obtain ⟨accepted, -, once, -⟩ :=
    parseLeading_iff_begins .settings "\x7b\x7d x" ({} : Settings)
  refine ⟨isDocument, accepted.mpr ⟨_, " x", rfl, isDocument⟩, ?_⟩
  intro other after another split isOther
  exact once _ " x" other after another rfl split isDocument isOther

/-- An empty document with something behind it is read as settings. A caller that looks further
refuses it. -/
theorem settings_read_before_more :
    Settings.ofText "<inline>" "\x7b\x7d x" = .ok {} ∧
      parseEntire Config.settings "\x7b\x7d x" = .error ⟨.trailingCharacters, ⟨1, 4⟩, []⟩ :=
  ⟨rfl, rfl⟩

end Json

end SchemaBindings
