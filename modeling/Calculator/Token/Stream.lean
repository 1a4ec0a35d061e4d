import Calculator.Token
import Calculator.Text.Basic

/-!
# `Calculator.Token.Stream`: the tokens of a line, one at a time

A token is cut off the front of the remaining text: a longest run of
digits, a longest run of blanks, or a single character. A run of digits is
a number even if it has no value, and a character of no class is a bad
token. In both cases the diagnostic is recorded at the moment the token is
cut off.

* `Lexeme.read` cuts off one token, and `Lexeme.readAll` all of them.
* `Token.Stream` is the place in a line up to which tokens were taken, with
  the diagnostics found so far. `next` takes one token and `drain` all that
  are left.
* `lex` lists the tokens of a line.
-/

set_option autoImplicit false

namespace Calculator

open Text

/-- The value of a run of digits, if the run is neither too long nor above
the largest accepted number. Leading zeros count towards its length. -/
def numberValue? (largest : Int) (run : List Char) : Option Int :=
  if run.length ≤ longestNumeral ∧ (natOfDigits run : Int) ≤ largest then
    some (natOfDigits run)
  else
    none

/-- One token cut off the front of a text, together with what is left and what was found wrong
with it. -/
structure Lexeme where
  /-- The token. -/
  token : Token
  /-- The number of characters it takes up. -/
  width : Nat
  /-- What was found wrong with it. -/
  diagnostics : List Diagnostic
  /-- The text behind it. -/
  rest : List Char
  deriving Repr

namespace Lexeme

/-- A run of digits, which is a number with or without a value. The diagnostic quotes the whole
line. -/
def number (line : String) (largest : Int) (position : Nat)
    (run rest : List Char) : Lexeme :=
  let value := numberValue? largest run
  { token := ⟨.number, position, some (String.ofList run), value⟩
    width := run.length
    diagnostics := if value.isSome then [] else [.invalidNumber line]
    rest := rest }

/-- A run of blanks, which is kept as a token so that the tokens make up the line. -/
def whitespace (position : Nat) (run rest : List Char) : Lexeme :=
  { token := ⟨.whitespace, position, some (String.ofList run), none⟩
    width := run.length
    diagnostics := []
    rest := rest }

/-- A character that stands for itself, or a bad one. Bad characters are not put together to
runs. -/
def symbol (position : Nat) (c : Char) (rest : List Char) : Lexeme :=
  let kind := Kind.ofSymbol? c
  { token := ⟨kind.getD .bad, position, some (String.singleton c), none⟩
    width := 1
    diagnostics := if kind.isSome then [] else [.badCharacter c]
    rest := rest }

/-- Nothing, at the end of a text. -/
def endOfFile (position : Nat) : Lexeme :=
  { token := Token.endOfFile position
    width := 0
    diagnostics := []
    rest := [] }

/-- Cuts one token off `text`, which is the part of `line` that starts at
`position`. -/
def read (line : String) (largest : Int) (position : Nat) :
    (text : List Char) → Lexeme
  | [] => endOfFile position
  | c :: cs =>
    if isDigit c then
      number line largest position (c :: cs.takeWhile isDigit) (cs.dropWhile isDigit)
    else if isBlank c then
      whitespace position (c :: cs.takeWhile isBlank) (cs.dropWhile isBlank)
    else
      symbol position c cs

/-- A token takes up at least one character, except at the end. -/
theorem length_rest_read_lt (line : String) (largest : Int) (position : Nat)
    (c : Char) (cs : List Char) :
    (read line largest position (c :: cs)).rest.length < (c :: cs).length := by
  have digits : (cs.dropWhile isDigit).length ≤ cs.length :=
    (List.dropWhile_suffix isDigit).length_le
  have blanks : (cs.dropWhile isBlank).length ≤ cs.length :=
    (List.dropWhile_suffix isBlank).length_le
  simp only [read, List.length_cons]
  split
  · simp only [number]; omega
  · split
    · simp only [whitespace]; omega
    · simp only [symbol]; omega

/-- Cuts a text into tokens up to and including the one at its end. -/
def readAll (line : String) (largest : Int) (position : Nat) :
    (text : List Char) → List Lexeme
  | [] => [endOfFile position]
  | c :: cs =>
    let lexeme := read line largest position (c :: cs)
    lexeme :: readAll line largest (position + lexeme.width) lexeme.rest
termination_by text => text.length
decreasing_by exact length_rest_read_lt line largest position c cs

end Lexeme

/-- A place in a line, up to which the tokens were taken, with what was found wrong on the way. -/
structure Token.Stream where
  /-- The whole line, which diagnostics quote. -/
  line : String
  /-- The largest number that has a value. -/
  largest : Int
  /-- The offset of the next token. -/
  position : Nat
  /-- The text that is left. -/
  rest : List Char
  /-- What was found wrong so far, in order. -/
  diagnostics : List Diagnostic
  deriving Repr

namespace Token.Stream

/-- The start of a line, where nothing was taken and nothing was found wrong. -/
def ofLine (line : String) (largest : Int) : Token.Stream :=
  ⟨line, largest, 0, line.toList, []⟩

/-- Takes the next token. At the end of the line this is the end-of-file
token, again and again. -/
def next (stream : Token.Stream) : Token × Token.Stream :=
  let lexeme := Lexeme.read stream.line stream.largest stream.position stream.rest
  (lexeme.token,
    { stream with
      position := stream.position + lexeme.width
      rest := lexeme.rest
      diagnostics := stream.diagnostics ++ lexeme.diagnostics })

/-- Takes all tokens that are left, up to and including the end-of-file
token. -/
def drain (stream : Token.Stream) : List Token × Token.Stream :=
  let lexemes :=
    Lexeme.readAll stream.line stream.largest stream.position stream.rest
  (lexemes.map Lexeme.token,
    { stream with
      position := stream.position + stream.rest.length
      rest := []
      diagnostics := stream.diagnostics ++ lexemes.flatMap Lexeme.diagnostics })

end Token.Stream

/-- The tokens of a line, blank and bad ones included, ending with the
end-of-file token. -/
def lex (line : String) (largest : Int) : List Token :=
  (Token.Stream.ofLine line largest).drain.1

end Calculator
