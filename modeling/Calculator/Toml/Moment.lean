import Calculator.Toml.Basic

/-!
# `Calculator.Toml.Moment`: dates and times

A moment is a date, a time of day, or a date with a time, which may have an
offset from universal time. Only their form and the calendar are checked.

* `moment?`: reads a moment, if one stands here.
-/

set_option autoImplicit false

namespace Calculator.Toml

/-- Reads two digits that write a number within bounds. -/
def twoDigits? (least greatest : Nat) : (input : List Char) → Option (Nat × List Char)
  | tens :: ones :: rest =>
    let number := natOfDigits 10 [tens, ones]
    if isDecimal tens && isDecimal ones && least ≤ number && number ≤ greatest then
      some (number, rest)
    else
      none
  | _ => none

/-- Reads one given character. -/
def exactly? (expected : Char) : (input : List Char) → Option (List Char)
  | c :: rest => if c == expected then some rest else none
  | [] => none

/-- Drops the fraction of a second, if one stands here. -/
def dropFraction : (input : List Char) → List Char
  | '.' :: c :: rest =>
    if isDecimal c then rest.dropWhile isDecimal else '.' :: c :: rest
  | input => input

/-- Reads hours and minutes. -/
def clock? (input : List Char) : Option (List Char) := do
  let (_, rest) ← twoDigits? 0 23 input
  let rest ← exactly? ':' rest
  let (_, rest) ← twoDigits? 0 59 rest
  return rest

/-- Reads a time of day. -/
def time? (input : List Char) : Option (List Char) := do
  let rest ← clock? input
  let rest ← exactly? ':' rest
  let (_, rest) ← twoDigits? 0 59 rest
  return dropFraction rest

/-- Drops an offset from universal time, if one stands here. -/
def dropOffset (input : List Char) : List Char :=
  match input with
  | c :: rest =>
    if c == 'Z' || c == 'z' then rest
    else if c == '+' || c == '-' then (clock? rest).getD input
    else input
  | [] => []

/-- Drops a time that follows a date, if one stands here. -/
def dropTime (input : List Char) : List Char :=
  match input with
  | c :: rest =>
    if c == 'T' || c == 't' || c == ' ' then
      match time? rest with
      | some after => dropOffset after
      | none => input
    else
      input
  | [] => []

/-- A date, which may lie outside of the calendar. -/
structure Date where
  /-- The year, from 0 on. -/
  year : Nat
  /-- The month, from 1 to 12. -/
  month : Nat
  /-- The day, from 1 to 31. -/
  day : Nat
  deriving Repr, DecidableEq

/-- The number of days in a month. -/
def Date.daysInMonth (date : Date) : Nat :=
  if date.month = 2 then
    if date.year % 4 = 0 ∧ (date.year % 100 ≠ 0 ∨ date.year % 400 = 0) then 29 else 28
  else if date.month = 4 ∨ date.month = 6 ∨ date.month = 9 ∨ date.month = 11 then
    30
  else
    31

/-- Whether a date lies in the calendar, which starts with the year 1. -/
def Date.isValid (date : Date) : Bool :=
  1 ≤ date.year && date.day ≤ date.daysInMonth

/-- Reads a date. -/
def date? (input : List Char) : Option (Date × List Char) := do
  let (century, rest) ← twoDigits? 0 99 input
  let (year, rest) ← twoDigits? 0 99 rest
  let rest ← exactly? '-' rest
  let (month, rest) ← twoDigits? 1 12 rest
  let rest ← exactly? '-' rest
  let (day, rest) ← twoDigits? 1 31 rest
  return (⟨100 * century + year, month, day⟩, rest)

/-- Reads a moment, if one stands here. A date outside of the calendar
stands here but cannot be read. -/
def moment? (input : List Char) : Option (Except Error (List Char)) :=
  match date? input with
  | some (date, rest) =>
    some (if date.isValid then .ok (dropTime rest) else .error .malformed)
  | none => (time? input).map .ok

end Calculator.Toml
