import Calculator.Calculate
import Calculator.Data.Value

/-!
# `Calculator.Config`: the settings of the calculator

* `LogLevel`: the known levels of log records, with their names.
* `Config`: the settings, with `Config.default` where nothing is set.
* `Config.toTable`: settings as a table, from which they can be read back.
-/

set_option autoImplicit false

namespace Calculator

/-- How severe a log record must be to be written. Some levels have two names, which are kept
apart. -/
inductive LogLevel where
  | critical
  | fatal
  | error
  | warn
  | warning
  | info
  | debug
  | notset
  deriving Repr, DecidableEq

namespace LogLevel

/-- The name of a level. -/
def name : LogLevel → String
  | critical => "CRITICAL"
  | fatal => "FATAL"
  | error => "ERROR"
  | warn => "WARN"
  | warning => "WARNING"
  | info => "INFO"
  | debug => "DEBUG"
  | notset => "NOTSET"

/-- Every level, once. -/
def all : List LogLevel :=
  [critical, fatal, error, warn, warning, info, debug, notset]

/-- The upper-case letter of a character, as far as the names of levels
can tell. Besides the letters of ASCII, the dotless `ı` and the long `ſ`
have an upper-case letter of ASCII. No other character has one, and the
ligatures whose upper-case form is two such letters fit no name. -/
def upper (c : Char) : Char :=
  if c == 'ı' then 'I' else if c == 'ſ' then 'S' else c.toUpper

/-- The level that a text names, in upper-case or lower-case letters or a mixture of both. -/
def ofText? (text : String) : Option LogLevel :=
  all.find? fun level => level.name.toList == text.toList.map upper

/-- Whether the records of evaluations are written at a level. They are records of the
level `debug`, and `notset` lets every record through. -/
def recordsEvaluations : LogLevel → Bool
  | debug | notset => true
  | _ => false

end LogLevel

/-- The settings of the calculator, as they are in force for a command. -/
structure Config where
  /-- What stands in front of each line that is asked for. -/
  prompt : String
  /-- Whether results come with the drawing of their tree. -/
  showTree : Bool
  /-- The largest number accepted. -/
  largest : Int
  /-- The level of the log records that are written. -/
  logLevel : LogLevel
  deriving Repr, DecidableEq

/-- The settings where nothing is set. They are not checked, but they would pass. -/
def Config.default : Config :=
  ⟨">", true, defaultLargest, .warning⟩

/-- The settings as a table, with all four fields in the order in which they are checked. -/
def Config.toTable (config : Config) : List (String × Data.Value) :=
  [("prompt", .text config.prompt), ("show_tree", .truth config.showTree),
   ("max_int", .integer config.largest), ("log_level", .text config.logLevel.name)]

end Calculator
