import Calculator.Config.Validation

/-!
# `Calculator.Host`: what the program runs on

Some of what is seen of the program is not its own work. The console decides how
the texts look that it is given, a library checks settings and words the report on
those that are refused, and the interpreter gives up where its stack is used up.
All of this is a parameter, the `Host`, and of a host only that is known which its
laws say.

A console prints most lines as they are. `IsPlain` says of which lines this can be
expected: they have no control characters, and no name of a picture between
colons, since the console prints the picture for it.

* `Console`: the console, with the law that plain lines are shown as they are.
* `Host`: the console and everything else.
* `Host.plain`: a host that shows everything as it is and has no bounds.
-/

set_option autoImplicit false

namespace Calculator

open Data

/-- Whether a line has nothing that is changed when it is shown: it has no control
characters, and no name of a picture between two colons. -/
structure IsPlain (isPicture : List Char → Prop) (line : List Char) : Prop where
  /-- No character is a control character. -/
  noControl : ∀ c ∈ line, Text.isControl c = false
  /-- What stands between two colons is not the name of a picture. -/
  noPicture : ∀ before name behind,
    line = before ++ ':' :: (name ++ ':' :: behind) → ¬isPicture name

/-- A console on which texts are shown. What it makes of texts that are not plain is left open. -/
structure Console where
  /-- The names for which pictures are shown if they stand between colons. -/
  isPicture : List Char → Prop
  /-- What is shown for a text. -/
  shown : String → String
  /-- What is shown for a prompt. A prompt may have marks for colours and styles, which
  are not shown, and nothing is shown for a prompt whose marks are not in order. -/
  asked : String → Option String
  /-- No name of a picture has a blank in it. -/
  noBlank : ∀ name, isPicture name → ∀ c ∈ name, Text.isBlank c = false
  /-- A text of plain lines, none of which ends in a blank, is shown as it is. -/
  shown_lines : ∀ lines : List String,
    (∀ line ∈ lines, IsPlain isPicture line.toList ∧
      ∀ c ∈ line.toList.getLast?, Text.isBlank c = false) →
    shown ("\n".intercalate lines) = "\n".intercalate lines
  /-- A plain prompt without a bracket, with which a mark would start, is shown as it is if
  it does not end in a blank. -/
  asked_plain : ∀ prompt : String, IsPlain isPicture prompt.toList → '[' ∉ prompt.toList →
    (∀ c ∈ prompt.toList.getLast?, Text.isBlank c = false) → asked prompt = some prompt

/-- What the program runs on. -/
structure Host where
  /-- The console. -/
  console : Console
  /-- What the library that checks settings takes for a setting of a type. -/
  coercions : Config.Coercions
  /-- The report of that library on the fields that it refuses. -/
  report : List FieldError → String
  /-- Whether the stack is large enough to write an expression with all its fields and
  those of its parts. This is done by recursion, so a deep expression needs a large
  stack. -/
  spellsOut : Expr → Bool
  /-- The version of the program that is installed. -/
  version : String

/-- A console that shows everything as it is and refuses no prompt. -/
def Console.plain : Console where
  isPicture _ := False
  shown := id
  asked := some
  noBlank _ h := h.elim
  shown_lines _ _ := rfl
  asked_plain _ _ _ _ := rfl

/-- How many fields are refused. This is the first line of the report at hand, which goes
on with the details of each of them. -/
def Host.refusedFields (errors : List FieldError) : String :=
  toString errors.length ++ " validation error" ++ (if errors.length = 1 then "" else "s") ++
    " for CalcConfig"

/-- A host that shows everything as it is, has the coercions at hand, leaves the details
out of reports, and has no bound on its stack. -/
def Host.plain : Host where
  console := .plain
  coercions := .lax
  report := refusedFields
  spellsOut _ := true
  version := "0.1.0"

end Calculator
