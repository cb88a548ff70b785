import SchemaBindings.Generation.Run

/-!
# Command lines

A command line names a command, its operand and its options. Options come before or
after the operand, and each of them at most once; the value of a long option is the
next word or follows an equals sign, that of a short option may follow its letter at
once. A word that begins with a hyphen is no operand and no value unless it stands
alone or after two hyphens. Verbosity may be raised anywhere and has no effect on
what is written.
-/
namespace SchemaBindings.CommandLine

/-- What a command line asks for. -/
inductive Command where
  | version
  | help
  | generate (target : Target) (settings : String) (schema : Option String) (jobs : Nat)
  | schema (language settings : String) (schema out : Option String)
  | languages (settings : String)
deriving DecidableEq, Repr

/-- Where the settings are looked for if no option says so. -/
def defaultSettings : String := "config/quicktypeConfig.json"

/-- An option that has a value. -/
inductive OptionName where
  | config
  | schema
  | jobs
  | out
deriving DecidableEq, Repr

/-- The words of an option: its long form, and its letter if it has one. -/
def OptionName.words : OptionName → String × Option Char
  | .config => ("config", none)
  | .schema => ("schema", none)
  | .jobs => ("jobs", some 'j')
  | .out => ("out", some 'o')

/-- A kind of command: its options, and whether it has an operand. -/
structure Form where
  options : List OptionName
  hasOperand : Bool

/-- The commands. -/
def forms : List (String × Form) :=
  [("generate", ⟨[.config, .schema, .jobs], true⟩),
   ("schema", ⟨[.config, .schema, .out], true⟩),
   ("languages", ⟨[.config], false⟩)]

/-- What has been read of a command line. -/
structure Reading where
  operand : Option String := none
  values : List (OptionName × String) := []
deriving DecidableEq, Repr

/-- Why reading ends before the end of the words. -/
inductive Stop where
  | refused
  | version
  | help
deriving DecidableEq, Repr

namespace Reading

/-- The value of an option. -/
def value? (reading : Reading) (option : OptionName) : Option String := reading.values.lookup option

/-- Whether a value can be that of an option: paths are not empty, and a number of jobs fits into a
machine word. -/
def accepts (option : OptionName) (value : String) : Bool :=
  match option with
  | .jobs =>
    let digits := if value.startsWith "+" then (value.drop 1).toString else value
    !digits.isEmpty && digits.toList.all (fun digit => '0' ≤ digit && digit ≤ '9')
      && digits.toNat?.getD 0 < Json.twoTo 64
  | _ => !value.isEmpty

/-- Give an option a value. -/
def assign (reading : Reading) (option : OptionName) (value : String) : Except Stop Reading :=
  if (reading.value? option).isSome || !accepts option value then .error .refused
  else .ok { reading with values := (option, value) :: reading.values }

/-- Take a word as the operand. -/
def takeOperand (form : Form) (reading : Reading) (word : String) : Except Stop Reading :=
  if form.hasOperand && reading.operand.isNone then .ok { reading with operand := some word }
  else .error .refused

/-- Take several words as operands. -/
def takeOperands (form : Form) (reading : Reading) : List String → Except Stop Reading
  | [] => .ok reading
  | word :: words => do takeOperands form (← takeOperand form reading word) words

end Reading

/-- A name and the value after its equals sign, if there is one. -/
def splitEquals (text : List Char) : List Char × Option (List Char) :=
  let name := text.takeWhile (· != '=')
  match text.drop name.length with
  | _ :: value => (name, some value)
  | [] => (name, none)

/-- What a word with a hyphen comes to. -/
inductive Flag where
  | done
  | valued (option : OptionName) (value : String)
  | awaiting (option : OptionName)
deriving DecidableEq, Repr

/-- Read a word of letters after a single hyphen. -/
def readLetters (options : List OptionName) (top : Bool) : List Char → Except Stop Flag
  | [] => .ok .done
  | letter :: rest =>
    if letter == 'v' then readLetters options top rest
    else if letter == 'h' then .error .help
    else if letter == 'V' && top then .error .version
    else
      match options.find? fun option => option.words.2 == some letter with
      | none => .error .refused
      | some option =>
        match rest with
        | [] => .ok (.awaiting option)
        | '=' :: value => .ok (.valued option (.ofList value))
        | value => .ok (.valued option (.ofList value))

/-- Read a word after two hyphens. -/
def readLong (options : List OptionName) (top : Bool) (text : List Char) : Except Stop Flag :=
  let (name, value) := splitEquals text
  let name := String.ofList name
  match options.find? fun option => option.words.1 == name with
  | some option =>
    match value with
    | some value => .ok (.valued option (.ofList value))
    | none => .ok (.awaiting option)
  | none =>
    if value.isSome then .error .refused
    else if name == "verbose" then .ok .done
    else if name == "help" then .error .help
    else if name == "version" && top then .error .version
    else .error .refused

/-- Whether a word may be a value or an operand. -/
def isPlain (word : String) : Bool :=
  match word.toList with
  | ['-'] => true
  | '-' :: _ => false
  | _ => true

/-- Read the words after a command; `awaiting` is an option whose value has to come next. -/
def readWords (form : Form) : (awaiting : Option OptionName) → List String → Reading →
    Except Stop Reading
  | none, [], reading => .ok reading
  | some _, [], _ => .error .refused
  | some option, word :: words, reading =>
    if isPlain word then do readWords form none words (← reading.assign option word)
    else .error .refused
  | none, word :: words, reading =>
    match word.toList with
    | ['-', '-'] => reading.takeOperands form words
    | '-' :: '-' :: text => do
      match ← readLong form.options false text with
      | .done => readWords form none words reading
      | .valued option value => readWords form none words (← reading.assign option value)
      | .awaiting option => readWords form (some option) words reading
    | '-' :: letter :: letters => do
      match ← readLetters form.options false (letter :: letters) with
      | .done => readWords form none words reading
      | .valued option value => readWords form none words (← reading.assign option value)
      | .awaiting option => readWords form (some option) words reading
    | _ => do readWords form none words (← reading.takeOperand form word)

/-- The number of jobs that an option gives. -/
def jobsOf (value : Option String) : Nat :=
  match value with
  | some text => max 1 (((String.ofList (text.toList.filter (· != '+'))).toNat?).getD 1)
  | none => 1

/-- The command that a reading comes to. -/
def commandOf (name : String) (reading : Reading) : Except Stop Command :=
  let settings := (reading.value? .config).getD defaultSettings
  match name, reading.operand with
  | "generate", some target =>
    .ok (.generate (.ofText target) settings (reading.value? .schema)
      (jobsOf (reading.value? .jobs)))
  | "schema", some language =>
    .ok (.schema language settings (reading.value? .schema) (reading.value? .out))
  | "languages", none => .ok (.languages settings)
  | _, _ => .error .refused

/-- Read a command line up to its command and then to its end. -/
def readCommand : List String → Except Stop Command
  | [] => .error .refused
  | word :: words =>
    match word.toList with
    | ['-', '-'] => .error .refused
    | '-' :: '-' :: text => do
      let _ ← readLong [] true text
      readCommand words
    | '-' :: letter :: letters => do
      let _ ← readLetters [] true (letter :: letters)
      readCommand words
    | _ =>
      if word == "help" then .error .help
      else
        match forms.lookup word with
        | none => .error .refused
        | some form => do commandOf word (← readWords form none words {})

/-- The command that the words of a command line ask for, or none if they are refused. -/
def parse (words : List String) : Option Command :=
  match readCommand words with
  | .ok command => some command
  | .error .version => some .version
  | .error .help => some .help
  | .error .refused => none

end SchemaBindings.CommandLine
