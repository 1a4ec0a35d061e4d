import Calculator.Toml.Value

/-!
# `Calculator.Toml.Document`: whole documents

A document is a sequence of statements, each on lines of its own: a key
with a value, or a header that starts a section. The values of a section go
into the table that its header names.

* `read`: the top-level table of a document.
-/

set_option autoImplicit false

namespace Calculator.Toml

open Data

/-- A document up to some statement. -/
structure Document where
  /-- The number of headers so far. -/
  sections : Nat
  /-- The path to the table of the current section. -/
  header : List String
  /-- The top-level table. -/
  entries : Entries

/-- Writes every line end that consists of two characters as one. -/
def unifyLineEnds : (text : List Char) → List Char
  | '\r' :: '\n' :: rest => '\n' :: unifyLineEnds rest
  | c :: rest => c :: unifyLineEnds rest
  | [] => []

/-- Drops the end of a statement's line: spaces, a comment and the
newline. -/
def dropLineEnd (input : List Char) : Except Error (List Char) :=
  match dropComment (dropSpaces input) with
  | .ok [] => .ok []
  | .ok ('\n' :: rest) => .ok rest
  | .ok _ => .error .malformed
  | .error error => .error error

/-- Drops the mark that closes a header. -/
def dropMark (mark : List Char) (input : List Char) : Except Error (List Char) :=
  if mark.isPrefixOf input then .ok (input.drop mark.length) else .error .malformed

/-- Starts a section whose header names a table. -/
def tableSection (document : Document) (input : List Char) :
    Except Error (Document × List Char) := do
  let (header, rest) ← key (dropSpaces input)
  let opener := document.sections + 1
  let entries ← descend (declareTable opener header.name) header.parents document.entries
  let rest ← dropMark [']'] rest
  return (⟨opener, header.path, entries⟩, rest)

/-- Starts a section whose header names an array of tables. -/
def itemSection (document : Document) (input : List Char) :
    Except Error (Document × List Char) := do
  let (header, rest) ← key (dropSpaces input)
  let opener := document.sections + 1
  let entries ← descend (appendTable header.name) header.parents document.entries
  let rest ← dropMark [']', ']'] rest
  return (⟨opener, header.path, entries⟩, rest)

/-- Puts a value into the table of the current section. -/
def assignment (document : Document) (input : List Char) :
    Except Error (Document × List Char) := do
  let (target, rest) ← keyAndSign input
  let taken ← value rest
  let change := assign document.sections target.name taken.value target.parents
  let entries ← descend change document.header document.entries
  return ({ document with entries := entries }, taken.rest)

/-- Reads a statement with its line end. The input starts with no space. -/
def statement (document : Document) (input : List Char) :
    Except Error (Document × List Char) :=
  match input with
  | [] => .error .malformed
  | '\n' :: rest => .ok (document, rest)
  | c :: rest => do
    let (document, rest) ←
      if c == '#' then
        .ok (document, input)
      else if c == '[' then
        match rest with
        | '[' :: rest => itemSection document rest
        | rest => tableSection document rest
      else if startsKey c then
        assignment document input
      else
        .error .malformed
    return (document, ← dropLineEnd rest)

/-- Reads all statements. -/
def statements (document : Document) (input : List Char) : Except Error Document :=
  match _h : dropSpaces input with
  | [] => .ok document
  | c :: rest =>
    match advancing (c :: rest) (statement document (c :: rest)) with
    | .ok taken => statements taken.value taken.rest
    | .error error => .error error
termination_by input.length
decreasing_by
  have := taken.shorter
  have := length_dropSpaces_le input
  rw [_h] at this
  omega

/-- The top-level table of a document. -/
def read (text : String) : Except Error (List (String × Value)) :=
  (statements ⟨0, [], []⟩ (unifyLineEnds text.toList)).map fun document =>
    finishAll document.entries

end Calculator.Toml
