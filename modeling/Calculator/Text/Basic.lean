/-!
# `Calculator.Text.Basic`: characters and lines

Decimal digits are taken from every script. A decimal digit is a character of the
general category `Nd`, and every script keeps its ten digits in one block of
consecutive code points, so the table holds the first code point of each block, and
the value of a digit is its distance from there.

A blank is a character whose bidirectional type is a separator or whose general
category is `Zs`. That is more than the blanks of ASCII: it takes in the four
information separators, the next-line control and the spaces of the typographic
blocks.

* `digitValue?`: the value of a digit, from 0 to 9.
* `natOfDigits`: the number a run of digits writes in base ten, whatever
  mix of scripts it uses.
* `longestNumeral`: how many digits a number may be written with.
* `isBlank`, `isControl`: the blank characters and the control characters.
* `lines`: the lines of a text.
-/

set_option autoImplicit false

namespace Calculator.Text

/-! ### Statements about the characters of a text

Such a statement is decided by going through the text. Where there is also a way to go
through all characters there are, that one must not come first. -/

instance (priority := high) decidableForallMem (p : Char → Prop) [DecidablePred p]
    (text : List Char) : Decidable (∀ c ∈ text, p c) :=
  List.decidableBAll p text

instance (priority := high) decidableForallMemOption (p : Char → Prop) [DecidablePred p]
    (c? : Option Char) : Decidable (∀ c ∈ c?, p c) :=
  Option.decidableForallMem c?

/-! ### Digits -/

/-- The code points of the zeros, in ascending order. Each opens a block
of ten digits, and no two blocks overlap. -/
def digitZeros : List Nat :=
  [0x30, 0x660, 0x6F0, 0x7C0, 0x966, 0x9E6, 0xA66, 0xAE6, 0xB66, 0xBE6,
   0xC66, 0xCE6, 0xD66, 0xDE6, 0xE50, 0xED0, 0xF20, 0x1040, 0x1090, 0x17E0,
   0x1810, 0x1946, 0x19D0, 0x1A80, 0x1A90, 0x1B50, 0x1BB0, 0x1C40, 0x1C50,
   0xA620, 0xA8D0, 0xA900, 0xA9D0, 0xA9F0, 0xAA50, 0xABF0, 0xFF10, 0x104A0,
   0x10D30, 0x11066, 0x110F0, 0x11136, 0x111D0, 0x112F0, 0x11450, 0x114D0,
   0x11650, 0x116C0, 0x11730, 0x118E0, 0x11950, 0x11C50, 0x11D50, 0x11DA0,
   0x16A60, 0x16AC0, 0x16B50, 0x1D7CE, 0x1D7D8, 0x1D7E2, 0x1D7EC, 0x1D7F6,
   0x1E140, 0x1E2F0, 0x1E950, 0x1FBF0]

/-- The value of a decimal digit: its distance from the zero of its
block. -/
def digitValue? (c : Char) : Option Nat :=
  (digitZeros.find? fun start => start ≤ c.toNat && c.toNat < start + 10).map
    fun start => c.toNat - start

/-- Whether a character is a decimal digit of some script. The digits of a number may be of
different scripts. -/
def isDigit (c : Char) : Bool :=
  (digitValue? c).isSome

/-- The number that a run of digits writes in base ten. A character that
is no digit counts as zero. -/
def natOfDigits (run : List Char) : Nat :=
  run.foldl (fun n c => 10 * n + (digitValue? c).getD 0) 0

/-- The most digits of a number that is read or printed in base ten. -/
def longestNumeral : Nat := 4300

/-! ### Blanks and control characters -/

/-- The blank characters as closed ranges of code points, in ascending
order. -/
def blankRanges : List (Nat × Nat) :=
  [(0x9, 0xD), (0x1C, 0x20), (0x85, 0x85), (0xA0, 0xA0), (0x1680, 0x1680),
   (0x2000, 0x200A), (0x2028, 0x2029), (0x202F, 0x202F), (0x205F, 0x205F),
   (0x3000, 0x3000)]

/-- Whether a character is blank. -/
def isBlank (c : Char) : Bool :=
  blankRanges.any fun range => range.1 ≤ c.toNat && c.toNat ≤ range.2

/-- Whether a character is a control character, which is one of the general category
`Cc`. Some of them are blank. -/
def isControl (c : Char) : Bool :=
  c.toNat < 0x20 || 0x7F ≤ c.toNat && c.toNat < 0xA0

/-! ### Lines

A line ends with a line feed, a carriage return, or a carriage return and a
line feed. The last line need not end. -/

/-- Puts a character in front of the first of some lines. -/
def pushFront (c : Char) : (lines : List (List Char)) → List (List Char)
  | [] => [[c]]
  | line :: lines => (c :: line) :: lines

/-- The lines of some characters, without their ends. -/
def splitLines : (text : List Char) → List (List Char)
  | [] => []
  | '\r' :: '\n' :: rest => [] :: splitLines rest
  | c :: rest =>
    if c == '\n' || c == '\r' then [] :: splitLines rest
    else pushFront c (splitLines rest)

/-- The lines of a text, without their ends. -/
def lines (text : String) : List String :=
  (splitLines text.toList).map String.ofList

end Calculator.Text
