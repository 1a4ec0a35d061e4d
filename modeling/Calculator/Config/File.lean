import Calculator.Config.Validation
import Calculator.Toml.Document

/-!
# `Calculator.Config.File`: settings from a file

The settings stand in one section of a file. Nothing is set if the file
cannot be read, breaks the rules of its format, or has no such section, or
one that is void. A section that is there must be a table, and its fields
must be in order.

* `ConfigFile`: what is found at the place of the file.
* `Config.loadBy`: the settings of a file, by the coercions that are used.
* `Config.load`: the settings of a file by the coercions at hand.
-/

set_option autoImplicit false

namespace Calculator

/-- What is found at the place of a configuration file. How the bytes were read is left open. -/
inductive ConfigFile where
  /-- Nothing. -/
  | missing
  /-- Something that cannot be read as a file. -/
  | unreadable
  /-- A file with its bytes. -/
  | contents (bytes : ByteArray)

/-- Why settings cannot be loaded. A file that breaks the rules of its format is none of these
reasons. -/
inductive LoadError where
  /-- Some fields are refused. -/
  | invalid (errors : List FieldError)
  /-- The file is no text. -/
  | notAText
  /-- The file holds a decimal integer of too many digits. -/
  | integerTooLong (digits : Nat)
  deriving Repr, DecidableEq

namespace Config

/-- The name of the section that holds the settings. All other sections are left alone. -/
def sectionName : String := "minicalc"

section Loading

variable (coercions : Coercions)

/-- The settings in the top-level table of a file. A section that is void counts as none, also if
it is no table. -/
def ofDocument (document : List (String × Data.Value)) : Except (List FieldError) Config :=
  match document.lookup sectionName with
  | none => .ok default
  | some value =>
    if value.isVoid then
      .ok default
    else
      match value with
      | .table fields => ofTableBy coercions fields
      | _ => .error [⟨"", .notATable⟩]

/-- The settings in the text of a file. A text that is no document gives the default settings,
without an error. -/
def ofText (text : String) : Except LoadError Config :=
  match Toml.read text with
  | .ok document => (ofDocument coercions document).mapError .invalid
  | .error .malformed => .ok default
  | .error (.integerTooLong digits) => .error (.integerTooLong digits)

/-- The settings of a file, whose bytes must be a text if there are any. -/
def loadBy : ConfigFile → Except LoadError Config
  | .missing | .unreadable => .ok default
  | .contents bytes =>
    match String.fromUTF8? bytes with
    | some text => ofText coercions text
    | none => .error .notAText

end Loading

/-- The settings of a file by the coercions at hand. This is what the program does. -/
def load : ConfigFile → Except LoadError Config :=
  loadBy .lax

end Config

end Calculator
