import Calculator.Toml.Moment
import Calculator.Toml.Number
import Calculator.Toml.Table
import Calculator.Toml.Text

/-!
# `Calculator.Toml.Value`: the values of a document

A value is a text, a truth value, a moment, a number, an array or an inline
table. Arrays may run over several lines and end with a comma. Inline
tables stand on one line, do not end with a comma, and cannot grow once
they are closed.

* `scalar`: reads a value that holds no others.
* `value`: reads any value.
-/

set_option autoImplicit false

namespace Calculator.Toml

open Data

/-- The values that are written as words. -/
def words : List (List Char × Value) :=
  [("true".toList, .truth true), ("false".toList, .truth false),
   ("inf".toList, .binary64 (.infinite false)),
   ("+inf".toList, .binary64 (.infinite false)),
   ("-inf".toList, .binary64 (.infinite true)),
   ("nan".toList, .binary64 .notANumber),
   ("+nan".toList, .binary64 .notANumber),
   ("-nan".toList, .binary64 .notANumber)]

/-- Reads a value that is written as a word, if one stands here. -/
def word? (input : List Char) : Option (Value × List Char) :=
  (words.find? fun word => word.1.isPrefixOf input).map fun word =>
    (word.2, input.drop word.1.length)

/-- The text value of some characters. -/
def textValue (read : List Char × List Char) : Value × List Char :=
  (.text (String.ofList read.1), read.2)

/-- Reads a value that holds no others. -/
def scalar (input : List Char) : Result Value :=
  match input with
  | '"' :: '"' :: '"' :: rest => (basicBlock (dropFirstNewline rest)).map textValue
  | '"' :: rest => (basicLine rest).map textValue
  | '\'' :: '\'' :: '\'' :: rest => (literalBlock (dropFirstNewline rest)).map textValue
  | '\'' :: rest => (literalLine rest).map textValue
  | _ =>
    match word? input with
    | some read => .ok read
    | none =>
      match moment? input with
      | some read => read.map fun rest => (.moment, rest)
      | none => number input

/-- Reads a key, the equals sign and the spaces behind it. -/
def keyAndSign (input : List Char) : Result Key :=
  match key input with
  | .ok (key, '=' :: rest) => .ok (key, dropSpaces rest)
  | .ok _ => .error .malformed
  | .error error => .error error

/-- What stands behind the first character of a remainder is shorter than
the input. -/
theorem length_lt_of_remainder {input : List Char} (remainder : Remainder input)
    {c : Char} {after : List Char} (h : remainder.val = c :: after) :
    after.length < input.length := by
  have := remainder.property
  rw [h] at this
  exact this

mutual

/-- Reads a value. -/
def value (input : List Char) : Except Error (Taken Value input) :=
  match input with
  | '[' :: rest =>
    match items rest with
    | .ok taken => .ok ⟨.array taken.value, taken.rest, Nat.lt_succ_of_lt taken.shorter⟩
    | .error error => .error error
  | '\x7b' :: rest =>
    match _h : dropSpaces rest with
    | '\x7d' :: after =>
      .ok ⟨.table [], after, by
        have := length_dropSpaces_le rest
        rw [_h, List.length_cons] at this
        simp only [List.length_cons]
        omega⟩
    | start =>
      match fields [] start with
      | .ok taken =>
        .ok ⟨.table (finishAll taken.value), taken.rest, by
          have shorter := taken.shorter
          have := length_dropSpaces_le rest
          rw [_h] at this
          simp only [List.length_cons]
          omega⟩
      | .error error => .error error
  | input => advancing input (scalar input)
termination_by 2 * input.length
decreasing_by
  · simp only [List.length_cons]
    omega
  · have := length_dropSpaces_le rest
    rw [_h] at this
    simp only [List.length_cons]
    omega

/-- Reads the items of an array and its closing bracket. -/
def items (input : List Char) : Except Error (Taken (List Value) input) :=
  match dropTrivia input with
  | .error error => .error error
  | .ok start =>
    match _h : start.val with
    | ']' :: after => .ok ⟨[], after, length_lt_of_remainder start _h⟩
    | _ =>
      match value start.val with
      | .error error => .error error
      | .ok first =>
        match dropTrivia first.rest with
        | .error error => .error error
        | .ok next =>
          match _h : next.val with
          | ']' :: after =>
            .ok ⟨[first.value], after, by
              have := length_lt_of_remainder next _h
              have := first.shorter
              have := start.property
              omega⟩
          | ',' :: after =>
            match items after with
            | .error error => .error error
            | .ok others =>
              .ok ⟨first.value :: others.value, others.rest, by
                have := length_lt_of_remainder next _h
                have := first.shorter
                have := others.shorter
                have := start.property
                omega⟩
          | _ => .error .malformed
termination_by 2 * input.length + 1
decreasing_by
  · have := start.property
    omega
  · have := length_lt_of_remainder next _h
    have := first.shorter
    have := start.property
    omega

/-- Reads the fields of an inline table and its closing brace. -/
def fields (entries : Entries) (input : List Char) :
    Except Error (Taken Entries input) :=
  match advancing input (keyAndSign input) with
  | .error error => .error error
  | .ok key =>
    match value key.rest with
    | .error error => .error error
    | .ok field =>
      match assign 0 key.value.name field.value key.value.parents entries with
      | .error error => .error error
      | .ok entries =>
        match _h : dropSpaces field.rest with
        | '\x7d' :: after =>
          .ok ⟨entries, after, by
            have := key.shorter
            have := field.shorter
            have := length_dropSpaces_le field.rest
            rw [_h, List.length_cons] at this
            omega⟩
        | ',' :: after =>
          match fields entries (dropSpaces after) with
          | .error error => .error error
          | .ok others =>
            .ok ⟨others.value, others.rest, by
              have := key.shorter
              have := field.shorter
              have := others.shorter
              have := length_dropSpaces_le after
              have := length_dropSpaces_le field.rest
              rw [_h, List.length_cons] at this
              omega⟩
        | _ => .error .malformed
termination_by 2 * input.length + 1
decreasing_by
  · have := key.shorter
    omega
  · have := key.shorter
    have := field.shorter
    have := length_dropSpaces_le after
    have := length_dropSpaces_le field.rest
    rw [_h, List.length_cons] at this
    omega

end

end Calculator.Toml
