import Calculator.Data.Value
import Calculator.Text.Basic
import Calculator.Toml.Basic

/-!
# `Calculator.Toml.Number`: integers and numbers with a point

An integer is written in base ten with an optional sign, or in base
sixteen, eight or two behind a mark. A number with a point or an exponent
stands for the nearest number of the binary64 format. Single underscores
may stand between digits.

* `number`: reads a number.
-/

set_option autoImplicit false

namespace Calculator.Toml

open Data

/-- Goes on behind a digit: takes the digits that follow, leaving out
single underscores between them. -/
def moreDigits (isDigit : Char → Bool) : (input : List Char) → List Char × List Char
  | '_' :: c :: rest =>
    if isDigit c then
      let more := moreDigits isDigit rest
      (c :: more.1, more.2)
    else
      ([], '_' :: c :: rest)
  | c :: rest =>
    if isDigit c then
      let more := moreDigits isDigit rest
      (c :: more.1, more.2)
    else
      ([], c :: rest)
  | [] => ([], [])

/-- Takes a run of digits, of which there must be at least one. -/
def digits? (isDigit : Char → Bool) : (input : List Char) →
    Option (List Char × List Char)
  | c :: rest =>
    if isDigit c then
      let more := moreDigits isDigit rest
      some (c :: more.1, more.2)
    else
      none
  | [] => none

/-- Whether a character is a digit of a base of at most sixteen. -/
def isDigitOf (base : Nat) (c : Char) : Bool :=
  match hexValue? c with
  | some value => value < base
  | none => false

/-- Reads the digits of an integer in a base that is no ten. -/
def basedInteger? (base : Nat) (input : List Char) : Option (Value × List Char) :=
  (digits? (isDigitOf base) input).map fun run =>
    (.integer (natOfDigits base run.1), run.2)

/-- Reads an integer in base sixteen, eight or two, if one stands here. -/
def markedInteger? : (input : List Char) → Option (Value × List Char)
  | '0' :: 'x' :: rest => basedInteger? 16 rest
  | '0' :: 'o' :: rest => basedInteger? 8 rest
  | '0' :: 'b' :: rest => basedInteger? 2 rest
  | _ => none

/-- Takes a sign, if one stands here, and tells whether it is a minus. -/
def sign : (input : List Char) → Bool × List Char
  | '-' :: rest => (true, rest)
  | '+' :: rest => (false, rest)
  | input => (false, input)

/-- Takes the digits in front of the point. A leading zero stands alone. -/
def wholePart? : (input : List Char) → Option (List Char × List Char)
  | '0' :: rest => some (['0'], rest)
  | input => digits? isDecimal input

/-- Takes the point and the digits behind it, if they stand here. -/
def fraction? : (input : List Char) → Option (List Char × List Char)
  | '.' :: rest => digits? isDecimal rest
  | _ => none

/-- Takes an exponent, if one stands here. -/
def exponent? : (input : List Char) → Option (Int × List Char)
  | c :: rest =>
    if c == 'e' || c == 'E' then
      let (negative, unsigned) := sign rest
      (digits? isDecimal unsigned).map fun run =>
        let magnitude : Int := natOfDigits 10 run.1
        (if negative then -magnitude else magnitude, run.2)
    else
      none
  | [] => none

/-- The integer of some decimal digits, unless there are too many. -/
def decimalInteger (negative : Bool) (digits : List Char) : Except Error Int :=
  if Text.longestNumeral < digits.length then
    .error (.integerTooLong digits.length)
  else
    let magnitude : Int := natOfDigits 10 digits
    .ok (if negative then -magnitude else magnitude)

/-- Reads a number in base ten. It is an integer unless a fraction or an
exponent follows. -/
def decimal (input : List Char) : Result Value :=
  let (negative, unsigned) := sign input
  match wholePart? unsigned with
  | none => .error .malformed
  | some (whole, rest) =>
    let fraction := fraction? rest
    let digits := (fraction.map Prod.fst).getD []
    let rest := (fraction.map Prod.snd).getD rest
    let exponent := exponent? rest
    let power := (exponent.map Prod.fst).getD 0
    let rest := (exponent.map Prod.snd).getD rest
    if fraction.isSome || exponent.isSome then
      .ok (.binary64 (.ofDecimal negative (natOfDigits 10 (whole ++ digits))
        (power - digits.length)), rest)
    else
      (decimalInteger negative whole).map fun integer => (.integer integer, rest)

/-- Reads a number. -/
def number (input : List Char) : Result Value :=
  match markedInteger? input with
  | some read => .ok read
  | none => decimal input

end Calculator.Toml
