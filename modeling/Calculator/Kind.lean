/-!
# `Calculator.Kind`: what tokens and expressions are called

One closed list of kinds serves tokens and expressions alike, because a
drawing of a tree names both. `Kind.name` is the spelling that diagnostics
and drawings show.
-/

set_option autoImplicit false

namespace Calculator

/-- The kind of a token or of an expression. -/
inductive Kind where
  | number
  | whitespace
  | plus
  | minus
  | star
  | slash
  | openParenthesis
  | closeParenthesis
  | bad
  | endOfFile
  | numberExpression
  | binaryExpression
  | parenthesizedExpression
  deriving Repr, DecidableEq

namespace Kind

/-- The shown name of a kind. The spelling of the two parentheses is part
of the language's diagnostics. -/
def name : Kind → String
  | number => "NumberToken"
  | whitespace => "WhitespaceToken"
  | plus => "PlusToken"
  | minus => "MinusToken"
  | star => "StarToken"
  | slash => "SlashToken"
  | openParenthesis => "OpenParanthesisToken"
  | closeParenthesis => "CloseParanthesisToken"
  | bad => "BadToken"
  | endOfFile => "EndOfFileToken"
  | numberExpression => "NumberExpression"
  | binaryExpression => "BinaryExpression"
  | parenthesizedExpression => "ParenthesizedExpression"

/-- Every kind, once. -/
def all : List Kind :=
  [number, whitespace, plus, minus, star, slash, openParenthesis,
   closeParenthesis, bad, endOfFile, numberExpression, binaryExpression,
   parenthesizedExpression]

/-- The kind of a given name, if there is one. Names are compared as they are spelled. -/
def ofName? (name : String) : Option Kind :=
  all.find? fun kind => kind.name == name

/-- The kind of the token that a single character makes up by itself. -/
def ofSymbol? : Char → Option Kind
  | '+' => some plus
  | '-' => some minus
  | '*' => some star
  | '/' => some slash
  | '(' => some openParenthesis
  | ')' => some closeParenthesis
  | _ => none

/-- Whether a kind is one of the four binary operators, which are the kinds that a binary
operation accepts. -/
def isOperator : Kind → Bool
  | plus | minus | star | slash => true
  | _ => false

/-- Whether tokens of a kind carry meaning. Blanks and characters of no
class are passed over when expressions are read. -/
def isSignificant : Kind → Bool
  | whitespace | bad => false
  | _ => true

end Kind

end Calculator
