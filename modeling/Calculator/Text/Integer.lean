import Calculator.Text.Basic

/-!
# `Calculator.Text.Integer`: integers written as text

A text is a plain numeral if it holds an optional minus sign and digits of
ASCII without leading zeros, and nothing else. Other texts stand for an
integer if they can be brought to that form: blanks around the integer, a
plus sign, a fraction of zeros and single underscores between digits fall
away, and so does padding, which is a zero with zeros and underscores
behind it. A minus sign may also stand behind the padding.

* `plainForm`: a text without all that falls away.
* `plainInteger?`: the integer of a plain numeral.
* `integerOfText`: the integer of a text, or why there is none.
-/

set_option autoImplicit false

namespace Calculator.Text

/-- Why a text stands for no integer. That it is too long is only said if it starts with the
digits of an integer. -/
inductive IntegerError where
  /-- The text has another form. -/
  | unreadable
  /-- The integer has too many digits. -/
  | tooManyDigits
  deriving Repr, DecidableEq

/-! ### Plain form -/

/-- Whether a blank may surround an integer. The four information
separators may not. -/
def isMargin (c : Char) : Bool :=
  isBlank c && !(0x1C ≤ c.toNat && c.toNat ≤ 0x1F)

/-- Drops the margins on both sides. What stands between the first and the last other character
stays. -/
def trim (text : List Char) : List Char :=
  ((text.dropWhile isMargin).reverse.dropWhile isMargin).reverse

/-- Drops the padding behind `last`, its last character so far. That
character stays if nothing or a fraction follows, because an integer needs
a digit. -/
def dropPaddingFrom (last : Char) : (text : List Char) → List Char
  | [] => [last]
  | c :: rest =>
    if c == '0' || c == '_' then dropPaddingFrom c rest
    else if c == '.' then last :: c :: rest
    else c :: rest

/-- Drops the padding at the start, if there is any. -/
def dropPadding : (text : List Char) → List Char
  | '0' :: rest => dropPaddingFrom '0' rest
  | text => text

/-- Drops a point with nothing but zeros behind it. A point needs at least
one zero. -/
def dropZeroFraction (text : List Char) : List Char :=
  match text.dropWhile (· != '.') with
  | _ :: '0' :: zeros => if zeros.all (· == '0') then text.takeWhile (· != '.') else text
  | _ => text

/-- Whether no underscore stands next to another one or at the end. -/
def hasSingleUnderscores : (text : List Char) → Bool
  | ['_'] => false
  | '_' :: '_' :: _ => false
  | _ :: rest => hasSingleUnderscores rest
  | [] => true

/-- Drops all underscores if each stands between two other characters. -/
def dropUnderscores (text : List Char) : List Char :=
  if text.head? != some '_' && hasSingleUnderscores text then text.filter (· != '_')
  else text

/-- What is left of an integer behind its sign when everything that may fall
away does. -/
def plainDigits (text : List Char) : List Char :=
  dropUnderscores (dropZeroFraction (dropPadding text))

/-- A text without all that may fall away from an integer. A plus sign stays
before a minus sign, as an integer has only one sign. -/
def plainForm (text : List Char) : List Char :=
  match trim text with
  | '-' :: digits => '-' :: plainDigits digits
  | '+' :: '-' :: rest => '+' :: '-' :: rest
  | '+' :: digits => plainDigits digits
  | digits => plainDigits digits

/-! ### Reading -/

/-- The number of a plain numeral without a sign, unless it has too many
digits. -/
def plainNatural? (digits : List Char) : Option Nat :=
  if digits.isEmpty || !digits.all Char.isDigit then none
  else if digits.head? == some '0' && digits != ['0'] then none
  else if longestNumeral < digits.length then none
  else some (natOfDigits digits)

/-- The integer of a plain numeral, unless it has too many digits. -/
def plainInteger? : (text : List Char) → Option Int
  | '-' :: digits => (plainNatural? digits).map fun n => -(n : Int)
  | digits => (plainNatural? digits).map fun n => (n : Int)

/-- Whether a text starts with too many digits, of which the first is not
zero. -/
def startsBeyond (text : List Char) : Bool :=
  text.head? != some '0' && longestNumeral < (text.takeWhile Char.isDigit).length

/-- Whether a text starts with a plain numeral of too many digits, whatever
follows it. -/
def startsTooLong : (text : List Char) → Bool
  | '-' :: text => startsBeyond text
  | text => startsBeyond text

/-- The integer of a text. Too many digits are told apart from other faults
only in a plain numeral at the very start of the text. -/
def integerOfText (text : String) : Except IntegerError Int :=
  if startsTooLong text.toList then .error .tooManyDigits
  else
    match plainInteger? (plainForm text.toList) with
    | some number => .ok number
    | none => .error .unreadable

end Calculator.Text
