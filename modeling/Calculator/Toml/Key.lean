import Calculator.Toml.Text

/-!
# `Calculator.Toml.Key`: the names of values

A key is a sequence of parts with dots between them, each a bare word or a
text of one line. All parts but the last name the tables that lead to the
value.

* `key`: reads a key and the spaces behind it.
-/

set_option autoImplicit false

namespace Calculator.Toml

/-- The name of a value, with the names of the tables that lead to it. -/
structure Key where
  /-- The tables, from the outermost on. -/
  parents : List String
  /-- The name in the last of them. -/
  name : String
  deriving Repr, DecidableEq

/-- All parts of a key. -/
def Key.path (key : Key) : List String :=
  key.parents ++ [key.name]

/-- Whether a character may stand in a bare word. -/
def isBare (c : Char) : Bool :=
  c.isAlphanum || c == '-' || c == '_'

/-- Whether a key may start with a character. -/
def startsKey (c : Char) : Bool :=
  isBare c || c == '"' || c == '\''

/-- Reads one part of a key. -/
def keyPart (input : List Char) : Result String :=
  match input with
  | '"' :: rest => (basicLine rest).map fun read => (String.ofList read.1, read.2)
  | '\'' :: rest => (literalLine rest).map fun read => (String.ofList read.1, read.2)
  | c :: rest =>
    if isBare c then
      .ok (String.ofList (c :: rest.takeWhile isBare), rest.dropWhile isBare)
    else
      .error .malformed
  | [] => .error .malformed

/-- Reads a key and the spaces behind it. -/
def key (input : List Char) : Result Key :=
  match advancing input (keyPart input) with
  | .error error => .error error
  | .ok part =>
    match _h : dropSpaces part.rest with
    | '.' :: rest =>
      match key (dropSpaces rest) with
      | .error error => .error error
      | .ok (more, rest) => .ok (⟨part.value :: more.parents, more.name⟩, rest)
    | rest => .ok (⟨[], part.value⟩, rest)
termination_by input.length
decreasing_by
  have taken := part.shorter
  have outer := length_dropSpaces_le part.rest
  have inner := length_dropSpaces_le rest
  rw [_h, List.length_cons] at outer
  omega

end Calculator.Toml
