import Calculator.Kind

/-!
# `Calculator.Token`: what is read from a line

A token holds its kind, the offset in characters at which it starts, its
text and, for a number that could be read, its value. A token without text
was made up where the grammar needed one and the line had none.

Reading never stops at an error. It records a diagnostic and goes on, so
a line has a list of diagnostics, in the order in which they were found.

* `Token`: a classified slice of a line.
* `Diagnostic`, `Diagnostic.message`: what can be wrong with a line, and the
  text of it.
-/

set_option autoImplicit false

namespace Calculator

/-! ### Tokens -/

/-- A classified slice of a line, or a token that stands in for one the line does not have. -/
structure Token where
  /-- What the slice is. -/
  kind : Kind
  /-- The offset of the slice, counted in characters. -/
  position : Nat
  /-- The slice itself, or nothing for a made-up token. -/
  text : Option String
  /-- The value of a number that could be read. -/
  value : Option Int
  deriving Repr, DecidableEq

namespace Token

/-- A token that stands in for one the line does not have, at the place of the one that was found
there. -/
def missing (kind : Kind) (position : Nat) : Token :=
  ⟨kind, position, none, none⟩

/-- The token behind the last character of a line. Its text is empty, so it was not made up. -/
def endOfFile (position : Nat) : Token :=
  ⟨.endOfFile, position, some "", none⟩

/-- Whether a token was made up. Such a token has no text, not even an empty one. -/
def isMissing (token : Token) : Bool :=
  token.text.isNone

/-- The text of a token as it is printed: made-up tokens print as
nothing. -/
def shown (token : Token) : String :=
  token.text.getD ""

end Token

/-! ### Diagnostics -/

/-- One thing wrong with a line. The first two are found while the line is cut, the others while
it is read. -/
inductive Diagnostic where
  /-- A character of no class. -/
  | badCharacter (c : Char)
  /-- A number that is too long or too large. The whole line is quoted,
  not the number alone. -/
  | invalidNumber (line : String)
  /-- A token of one kind where the grammar needs another. -/
  | unexpectedToken (found expected : Kind)
  /-- A group that lies inside too many others. -/
  | tooDeep (limit : Int)
  deriving Repr, DecidableEq

/-- The text of a diagnostic. The limit on groups is taken to be a number that can be
printed, that is, one of at most 4300 digits: the program has no text for a limit with
more digits, as it fails when it writes that. -/
def Diagnostic.message : Diagnostic → String
  | badCharacter c => "Error: Bad character input->  `" ++ String.singleton c ++ "`"
  | invalidNumber line => "The number " ++ line ++ " is not a valid Int"
  | unexpectedToken found expected =>
    "Error: Unexpected token <" ++ found.name ++ ">, expected <" ++ expected.name ++ ">"
  | tooDeep limit =>
    "Error: Parentheses nested deeper than " ++ toString limit ++ " levels"

end Calculator
