import Calculator.Data.Value
import Calculator.Toml.Key

/-!
# `Calculator.Toml.Table`: tables while a document is read

Tables grow in three ways: by a header, by the dotted key of a value, and
as the next item of an array of tables. Which of these may open a table
again depends on how it was opened before, so a table remembers the section
that opened it.

* `declareTable`: opens a table by a header. A table that is there because
  another header or dotted key needed it may be opened, once.
* `appendTable`: adds an item to an array of tables.
* `assign`: puts a value under a key. The tables on the way must be new, or
  opened by dotted keys of the same section, or not opened yet.
* `descend`: goes down to the table in which one of these happens. It goes
  through tables, and into the last item of an array of tables.
-/

set_option autoImplicit false

namespace Calculator.Toml

open Data

/-- What a key of an unfinished table leads to. -/
inductive Entry where
  /-- A finished value. -/
  | value (finished : Value)
  /-- A table, with the number of the section that opened it, if one
  did. -/
  | table (openedBy : Option Nat) (entries : List (String × Entry))
  /-- An array of tables, of which only the last can still grow. -/
  | tables (earlier : List Value) (entries : List (String × Entry))
  deriving Repr

/-- The content of an unfinished table, in the order of its keys. -/
abbrev Entries : Type :=
  List (String × Entry)

mutual

/-- The value that an entry has become. -/
def Entry.finish : Entry → Value
  | .value finished => finished
  | .table _ entries => .table (finishAll entries)
  | .tables earlier entries => .array (earlier ++ [.table (finishAll entries)])

/-- The fields that the content of a table has become. -/
def finishAll : List (String × Entry) → List (String × Value)
  | [] => []
  | (key, entry) :: entries => (key, entry.finish) :: finishAll entries

end

/-- Puts an entry under a key, in the place of an earlier one. -/
def put (key : String) (entry : Entry) : Entries → Entries
  | [] => [(key, entry)]
  | (name, earlier) :: entries =>
    if name == key then (key, entry) :: entries
    else (name, earlier) :: put key entry entries

/-- Changes the content of a table or of the last of an array of tables. -/
def Entry.within (change : Entries → Except Error Entries) :
    Entry → Except Error Entry
  | value _ => .error .malformed
  | table openedBy entries => (change entries).map (table openedBy)
  | tables earlier entries => (change entries).map (tables earlier)

/-- Changes the table at the end of a path. Tables that are not there are
added, and no section has opened them. -/
def descend (change : Entries → Except Error Entries) :
    (path : List String) → Entries → Except Error Entries
  | [], entries => change entries
  | key :: path, entries =>
    match entries.lookup key with
    | none => (descend change path []).map fun inner => put key (.table none inner) entries
    | some entry => (entry.within (descend change path)).map fun entry => put key entry entries

/-- Opens a table by the header of a section. -/
def declareTable (opener : Nat) (key : String) (entries : Entries) :
    Except Error Entries :=
  match entries.lookup key with
  | none => .ok (put key (.table (some opener) []) entries)
  | some (.table none inner) => .ok (put key (.table (some opener) inner) entries)
  | some _ => .error .malformed

/-- Adds an empty table to an array of tables. -/
def appendTable (key : String) (entries : Entries) : Except Error Entries :=
  match entries.lookup key with
  | none => .ok (put key (.tables [] []) entries)
  | some (.tables earlier last) =>
    .ok (put key (.tables (earlier ++ [.table (finishAll last)]) []) entries)
  | some _ => .error .malformed

/-- Puts a value under a dotted key, in a section. -/
def assign (opener : Nat) (name : String) (value : Value) :
    (parents : List String) → Entries → Except Error Entries
  | [], entries =>
    match entries.lookup name with
    | none => .ok (put name (.value value) entries)
    | some _ => .error .malformed
  | key :: parents, entries =>
    match entries.lookup key with
    | none =>
      (assign opener name value parents []).map fun inner =>
        put key (.table (some opener) inner) entries
    | some (.table openedBy inner) =>
      if openedBy = none ∨ openedBy = some opener then
        (assign opener name value parents inner).map fun inner =>
          put key (.table (some opener) inner) entries
      else
        .error .malformed
    | some _ => .error .malformed

end Calculator.Toml
