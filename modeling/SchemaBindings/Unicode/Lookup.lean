import SchemaBindings.Unicode.Ages
import SchemaBindings.Unicode.Breaks
import SchemaBindings.Unicode.Category
import SchemaBindings.Unicode.Fold
import SchemaBindings.Unicode.Properties
import SchemaBindings.Unicode.PropertyNames
import SchemaBindings.Unicode.ScriptExtensions
import SchemaBindings.Unicode.Scripts

/-!
# Sets of characters by name

A set is named by a binary property, a general category or a script, tried in this
order, or by a property together with a value. Names are compared in normal form:
letter case, blanks, hyphens, low lines and a leading "is" do not count, and
characters outside ASCII are dropped.
-/
namespace SchemaBindings.Unicode

/-- Why a name stands for no set. -/
inductive LookupError where
  | unknownProperty
  | unknownValue
deriving DecidableEq, Repr

/-- A set of characters given by name. -/
inductive NamedSet where
  /-- The members of any of the tables. -/
  | union (tables : List RangeTable)
  /-- The characters outside all of the tables. -/
  | outside (tables : List RangeTable)
  /-- The ASCII characters. -/
  | ascii

namespace NamedSet

/-- Membership of a character. -/
def contains (set : NamedSet) (character : Char) : Bool :=
  match set with
  | .union tables => tables.any (·.contains character)
  | .outside tables => !tables.any (·.contains character)
  | .ascii => character.toNat < 128

end NamedSet

/-- The characters of a name that count, in lower case. -/
def nameLetters : List Char → List Char
  | [] => []
  | character :: rest =>
    if character == ' ' || character == '_' || character == '-' || character.toNat ≥ 128 then
      nameLetters rest
    else character.toLower :: nameLetters rest

/-- The normal form of a name. A leading "is" is dropped, except that "isc" is a name of its
own and no spelling of "c". -/
def normalName (name : List Char) : String :=
  match name with
  | first :: second :: rest =>
    if (first == 'i' || first == 'I') && (second == 's' || second == 'S') then
      let letters := nameLetters rest
      if letters == ['c'] then "isc" else .ofList letters
    else .ofList (nameLetters name)
  | _ => .ofList (nameLetters name)

/-- The general categories and their groupings, with their names in normal form. -/
def categories : List (List String × NamedSet) :=
  let letter := [Category.uppercaseLetter, Category.lowercaseLetter, Category.titlecaseLetter,
    Category.modifierLetter, Category.otherLetter]
  let mark := [Category.nonspacingMark, Category.spacingMark, Category.enclosingMark]
  let number := [Category.decimalNumber, Category.letterNumber, Category.otherNumber]
  let punctuation := [Category.connectorPunctuation, Category.dashPunctuation,
    Category.openPunctuation, Category.closePunctuation, Category.initialPunctuation,
    Category.finalPunctuation, Category.otherPunctuation]
  let symbol := [Category.mathSymbol, Category.currencySymbol, Category.modifierSymbol,
    Category.otherSymbol]
  let separator := [Category.spaceSeparator, Category.lineSeparator, Category.paragraphSeparator]
  let other := [Category.control, Category.format, Category.unassigned, Category.privateUse]
  [(["any"], .outside []), (["assigned"], .outside [Category.unassigned]), (["ascii"], .ascii),
   (["l", "letter"], .union letter),
   (["lc", "casedletter"], .union [Category.uppercaseLetter, Category.lowercaseLetter,
      Category.titlecaseLetter]),
   (["lu", "uppercaseletter"], .union [Category.uppercaseLetter]),
   (["ll", "lowercaseletter"], .union [Category.lowercaseLetter]),
   (["lt", "titlecaseletter"], .union [Category.titlecaseLetter]),
   (["lm", "modifierletter"], .union [Category.modifierLetter]),
   (["lo", "otherletter"], .union [Category.otherLetter]),
   (["m", "mark", "combiningmark"], .union mark),
   (["mn", "nonspacingmark"], .union [Category.nonspacingMark]),
   (["mc", "spacingmark"], .union [Category.spacingMark]),
   (["me", "enclosingmark"], .union [Category.enclosingMark]),
   (["n", "number"], .union number),
   (["nd", "decimalnumber", "digit"], .union [Category.decimalNumber]),
   (["nl", "letternumber"], .union [Category.letterNumber]),
   (["no", "othernumber"], .union [Category.otherNumber]),
   (["p", "punctuation", "punct"], .union punctuation),
   (["pc", "connectorpunctuation"], .union [Category.connectorPunctuation]),
   (["pd", "dashpunctuation"], .union [Category.dashPunctuation]),
   (["ps", "openpunctuation"], .union [Category.openPunctuation]),
   (["pe", "closepunctuation"], .union [Category.closePunctuation]),
   (["pi", "initialpunctuation"], .union [Category.initialPunctuation]),
   (["pf", "finalpunctuation"], .union [Category.finalPunctuation]),
   (["po", "otherpunctuation"], .union [Category.otherPunctuation]),
   (["s", "symbol"], .union symbol),
   (["sm", "mathsymbol"], .union [Category.mathSymbol]),
   (["sc", "currencysymbol"], .union [Category.currencySymbol]),
   (["sk", "modifiersymbol"], .union [Category.modifierSymbol]),
   (["so", "othersymbol"], .union [Category.otherSymbol]),
   (["z", "separator"], .union separator),
   (["zs", "spaceseparator"], .union [Category.spaceSeparator]),
   (["zl", "lineseparator"], .union [Category.lineSeparator]),
   (["zp", "paragraphseparator"], .union [Category.paragraphSeparator]),
   (["c", "other"], .union other),
   (["cc", "control", "cntrl"], .union [Category.control]),
   (["cf", "format"], .union [Category.format]),
   (["cn", "unassigned"], .union [Category.unassigned]),
   (["co", "privateuse"], .union [Category.privateUse])]

/-- Find a table whose list of names contains the given one. -/
def tableNamed (steps : List (String × String)) (name : String) : Option NamedSet :=
  (steps.find? fun entry => (separated entry.1.toList []).contains name.toList).map
    fun entry => .union [.ofSteps entry.2]

/-- Find a general category by its normal name. The category of surrogates is known but has no
characters to list, which is an error of its own. -/
def categoryNamed (name : String) : Option (Except LookupError NamedSet) :=
  if name == "cs" || name == "surrogate" then some (.error .unknownValue)
  else (categories.find? fun entry => entry.1.contains name).map fun entry => .ok entry.2

/-- Find a script by its normal name in one of the two lists of scripts. Two values of the
property are known but list no characters. -/
def scriptNamed (steps : List (String × String)) (name : String) :
    Option (Except LookupError NamedSet) :=
  if scriptsWithoutTable.contains name then some (.error .unknownValue)
  else (tableNamed steps name).map .ok

/-- Whether a normal name is the name of a property. -/
def isPropertyName (name : String) : Bool :=
  propertiesWithoutTable.contains name || (tableNamed propertySteps name).isSome

/-- The set that a name stands for. Three abbreviations that properties share with categories
mean the categories. -/
def setNamed (name : List Char) : Except LookupError NamedSet :=
  let normal := normalName name
  let isShared := normal == "cf" || normal == "sc" || normal == "lc"
  if !isShared && propertiesWithoutTable.contains normal then .error .unknownProperty
  else
    match if isShared then none else tableNamed propertySteps normal with
    | some set => .ok set
    | none =>
      match categoryNamed normal with
      | some found => found
      | none => (scriptNamed scriptSteps normal).getD (.error .unknownProperty)

/-- The tables of a revision of the standard and of all revisions before it, in a list in
ascending order. -/
def agesUpTo (name : String) : List (String × String) → Option (List RangeTable)
  | [] => none
  | (names, steps) :: ages =>
    if (separated names.toList []).contains name.toList then some [.ofSteps steps]
    else (agesUpTo name ages).map (.ofSteps steps :: ·)

/-- The set of the characters for which a property has the given value. Of the properties that
take a value, seven list their characters. -/
def setWithValue (property value : List Char) : Except LookupError NamedSet :=
  let property := normalName property
  let value := normalName value
  let inTable (steps : List (String × String)) : Except LookupError NamedSet :=
    ((tableNamed steps value).map .ok).getD (.error .unknownValue)
  match property with
  | "gc" | "generalcategory" => (categoryNamed value).getD (.error .unknownValue)
  | "sc" | "script" => (scriptNamed scriptSteps value).getD (.error .unknownValue)
  | "scx" | "scriptextensions" =>
    (scriptNamed scriptExtensionSteps value).getD (.error .unknownValue)
  | "age" => ((agesUpTo value ageSteps).map fun tables => .ok (.union tables)).getD
      (.error .unknownValue)
  | "gcb" | "graphemeclusterbreak" => inTable graphemeBreakSteps
  | "wb" | "wordbreak" => inTable wordBreakSteps
  | "sb" | "sentencebreak" => inTable sentenceBreakSteps
  | _ => .error (if isPropertyName property then .unknownValue else .unknownProperty)

end SchemaBindings.Unicode
