import Calculator.Config
import Calculator.FieldError
import Calculator.Text.Integer

/-!
# `Calculator.Config.Validation`: settings from a table

Each setting is read from the field of its name, whatever other fields the
table has, and the settings do not depend on each other. All fields are read,
so all that are refused are reported, in the order of the settings.

The program declares its settings, with their types, their defaults, the least
number and the check of the level, and hands tables to a library for
validation. `ofTableBy` is what this library is documented to do with such a
declaration. What it takes for a setting of a type is a parameter, `Coercions`,
of which no more is known than that a value of the type itself is taken as it
is. `Coercions.lax` are those of the library at hand: a number or a word for a
truth value, a text or a number with a point for an integer.

* `Config.ofTableBy`: the settings of a table, or every field that is
  refused.
* `Config.ofTable`: the same with the coercions at hand.
* `Config.withLogLevel`: settings with another log level.
-/

set_option autoImplicit false

namespace Calculator.Config

open Data

/-- A text as it is. Nothing else stands for a text. -/
def readText : Value → Except FieldError.Cause String
  | .text words => .ok words
  | _ => .error .notAText

/-- The words for the truth values, in lower case. Texts are put in lower case before they are
looked up. -/
def truthWords : List (String × Bool) :=
  [("true", true), ("t", true), ("yes", true), ("y", true), ("on", true), ("1", true),
   ("false", false), ("f", false), ("no", false), ("n", false), ("off", false),
   ("0", false)]

/-- Whether an integer fits a machine word of 64 bits with a sign. -/
def isWord (number : Int) : Bool :=
  -(wordBound : Int) ≤ number && number < wordBound

/-- The truth value of a whole number, which must be zero or one. -/
def truthOfInteger (number : Int) : Except FieldError.Cause Bool :=
  if number = 0 then .ok false
  else if number = 1 then .ok true
  else .error .unknownTruthValue

/-- A truth value, or what stands for one. No number beyond a machine word
does. -/
def readTruth : Value → Except FieldError.Cause Bool
  | .truth holds => .ok holds
  | .integer number =>
    if isWord number then truthOfInteger number else .error .notATruthValue
  | .binary64 number =>
    match number.word? with
    | some whole => truthOfInteger whole
    | none => .error .notATruthValue
  | .text words =>
    match truthWords.lookup words.toLower with
    | some holds => .ok holds
    | none => .error .unknownTruthValue
  | _ => .error .notATruthValue

/-- Why a number with a point or an exponent stands for no integer. A whole
number has too many digits for that if it does not fit a machine word. -/
def causeOfNumber (number : Binary64) : FieldError.Cause :=
  if !number.isFinite then .notFinite
  else if number.whole?.isSome then .tooManyDigits
  else .fractional

/-- An integer, or what stands for one: a truth value, a whole number within a machine word, or a
text with the digits of an integer. -/
def readInteger : Value → Except FieldError.Cause Int
  | .truth holds => .ok (if holds then 1 else 0)
  | .integer number => .ok number
  | .binary64 number =>
    match number.word? with
    | some whole => .ok whole
    | none => .error (causeOfNumber number)
  | .text words =>
    match Text.integerOfText words with
    | .ok number => .ok number
    | .error .unreadable => .error .unreadableInteger
    | .error .tooManyDigits => .error .tooManyDigits
  | _ => .error .notAnInteger

/-- What is taken for a text, a truth value and an integer. A value of the type itself
is taken as it is. -/
structure Coercions where
  /-- The text that a value stands for. -/
  text : Value → Except FieldError.Cause String
  /-- The truth value that a value stands for. -/
  truth : Value → Except FieldError.Cause Bool
  /-- The integer that a value stands for. -/
  integer : Value → Except FieldError.Cause Int
  /-- A text is taken as it is. -/
  text_text : ∀ words, text (.text words) = .ok words
  /-- A truth value is taken as it is. -/
  truth_truth : ∀ holds, truth (.truth holds) = .ok holds
  /-- An integer is taken as it is. -/
  integer_integer : ∀ number, integer (.integer number) = .ok number

/-- The coercions at hand, which also take many values of other types. -/
def Coercions.lax : Coercions where
  text := readText
  truth := readTruth
  integer := readInteger
  text_text _ := rfl
  truth_truth _ := rfl
  integer_integer _ := rfl

section Reading

variable (coercions : Coercions)

/-- An integer that is not below `least`. The bound is checked once the integer is read. -/
def readAtLeast (least : Int) (value : Value) : Except FieldError.Cause Int :=
  match coercions.integer value with
  | .ok number => if number < least then .error (.tooSmall least) else .ok number
  | .error cause => .error cause

/-- The level that a text names. What is reported of an unknown one is the text as it was
given. -/
def readLogLevel (value : Value) : Except FieldError.Cause LogLevel :=
  match coercions.text value with
  | .ok words =>
    match LogLevel.ofText? words with
    | some level => .ok level
    | none => .error (.unknownLogLevel words)
  | .error cause => .error cause

end Reading

/-- The setting in a field of a table, or `absent` where there is no such
field. -/
def readField {α : Type} (field : String) (read : Value → Except FieldError.Cause α)
    (absent : α) (table : List (String × Value)) : Except FieldError α :=
  match table.lookup field with
  | none => .ok absent
  | some value => (read value).mapError fun cause => ⟨field, cause⟩

/-- The error of a setting, if there is one, as a list of at most one error. -/
def refusal {α : Type} : Except FieldError α → List FieldError
  | .ok _ => []
  | .error error => [error]

/-- The settings of a table, or every field that is refused, in the order
of the settings. -/
def ofTableBy (coercions : Coercions) (table : List (String × Value)) :
    Except (List FieldError) Config :=
  let prompt := readField "prompt" coercions.text default.prompt table
  let showTree := readField "show_tree" coercions.truth default.showTree table
  let largest := readField "max_int" (readAtLeast coercions 1) default.largest table
  let logLevel := readField "log_level" (readLogLevel coercions) default.logLevel table
  match prompt, showTree, largest, logLevel with
  | .ok prompt, .ok showTree, .ok largest, .ok logLevel =>
    .ok ⟨prompt, showTree, largest, logLevel⟩
  | _, _, _, _ =>
    .error (refusal prompt ++ refusal showTree ++ refusal largest ++ refusal logLevel)

/-- The settings of a table by the coercions at hand. Fields of other names do not matter. -/
def ofTable : (table : List (String × Value)) → Except (List FieldError) Config :=
  ofTableBy .lax

/-- The settings with the log level that a text names. The whole of them is
checked again. -/
def withLogLevel (coercions : Coercions) (config : Config) (level : String) :
    Except (List FieldError) Config :=
  ofTableBy coercions (config.toTable.map fun field =>
    if field.1 == "log_level" then ("log_level", .text level) else field)

end Calculator.Config
