/-!
# `Calculator.Toml.Basic`: what all readers of a document share

A document is read as a list of characters. A reader takes a value off the
front and returns it with the characters behind it.

* `Error`: why a document cannot be read.
* `Taken`: a value with a rest that is shorter than the input, which is
  what recursion on the rest stands on. `advancing` turns the result of any
  reader into one.
* `dropSpaces`, `dropComment`, `dropTrivia`: what separates values.
-/

set_option autoImplicit false

namespace Calculator.Toml

/-- Why a document cannot be read. -/
inductive Error where
  /-- The document breaks the rules of the format. -/
  | malformed
  /-- A decimal integer has too many digits. -/
  | integerTooLong (digits : Nat)
  deriving Repr, DecidableEq

/-- What a reader returns: a value and the characters behind it. -/
abbrev Result (α : Type) : Type :=
  Except Error (α × List Char)

/-- A value taken off the front of `input`, with what is left. -/
structure Taken (α : Type) (input : List Char) where
  /-- The value. -/
  value : α
  /-- The characters behind it. -/
  rest : List Char
  /-- Something was taken. -/
  shorter : rest.length < input.length

/-- Accepts the result of a reader that took something. All readers of
values, keys and statements do, so nothing is refused here that they
accept. -/
def advancing {α : Type} (input : List Char) (result : Result α) :
    Except Error (Taken α input) :=
  match result with
  | .ok (value, rest) =>
    if h : rest.length < input.length then .ok ⟨value, rest, h⟩ else .error .malformed
  | .error error => .error error

/-! ### Characters -/

/-- Whether a character is a space or a tab. -/
def isSpace (c : Char) : Bool :=
  c == ' ' || c == '\t'

/-- Whether a character may stand neither in a comment nor in a text of one
line: all control characters but the tab. -/
def isControl (c : Char) : Bool :=
  c.toNat < 0x20 && c != '\t' || c.toNat == 0x7F

/-- Whether a character may not stand in a text of several lines. -/
def isBlockControl (c : Char) : Bool :=
  isControl c && c != '\n'

/-- Whether a character is a decimal digit. Only the digits of ASCII are
digits here. -/
def isDecimal (c : Char) : Bool :=
  '0' ≤ c && c ≤ '9'

/-- The value of a hexadecimal digit. -/
def hexValue? (c : Char) : Option Nat :=
  if '0' ≤ c && c ≤ '9' then some (c.toNat - '0'.toNat)
  else if 'a' ≤ c && c ≤ 'f' then some (c.toNat - 'a'.toNat + 10)
  else if 'A' ≤ c && c ≤ 'F' then some (c.toNat - 'A'.toNat + 10)
  else none

/-- The number that a run of digits writes in a base. A character that is
no digit counts as zero. -/
def natOfDigits (base : Nat) (run : List Char) : Nat :=
  run.foldl (fun n c => base * n + (hexValue? c).getD 0) 0

/-! ### Separators -/

/-- Drops spaces and tabs. -/
def dropSpaces (input : List Char) : List Char :=
  input.dropWhile isSpace

/-- Dropping spaces never lengthens what is left. -/
theorem length_dropSpaces_le (input : List Char) :
    (dropSpaces input).length ≤ input.length :=
  (List.dropWhile_suffix isSpace).length_le

/-- Drops a comment, if one starts here, up to the end of its line. -/
def dropComment (input : List Char) : Except Error (List Char) :=
  match input with
  | '#' :: comment =>
    if (comment.takeWhile (· != '\n')).any isControl then
      .error .malformed
    else
      .ok (comment.dropWhile (· != '\n'))
  | _ => .ok input

/-- What is left after dropping blanks, newlines and comments. -/
abbrev Remainder (input : List Char) : Type :=
  { rest : List Char // rest.length ≤ input.length }

/-- A remainder of the characters behind the first is one of all of
them. -/
def Remainder.behind {c : Char} {input : List Char} (rest : Remainder input) :
    Remainder (c :: input) :=
  ⟨rest.val, Nat.le_succ_of_le rest.property⟩

/-- Drops blanks, newlines and comments, in a comment or outside of one. -/
def dropTriviaWithin (comment : Bool) : (input : List Char) →
    Except Error (Remainder input)
  | [] => .ok ⟨[], Nat.le_refl _⟩
  | c :: rest =>
    if c == '\n' then
      (dropTriviaWithin false rest).map Remainder.behind
    else if comment then
      if isControl c then .error .malformed
      else (dropTriviaWithin true rest).map Remainder.behind
    else if isSpace c then
      (dropTriviaWithin false rest).map Remainder.behind
    else if c == '#' then
      (dropTriviaWithin true rest).map Remainder.behind
    else
      .ok ⟨c :: rest, Nat.le_refl _⟩

/-- Drops blanks, newlines and comments, which may stand anywhere between
the items of an array. -/
def dropTrivia (input : List Char) : Except Error (Remainder input) :=
  dropTriviaWithin false input

end Calculator.Toml
