import Calculator.Expr

/-!
# `Calculator.Expr.Format`: expressions as one line of text

The text groups every binary operation in parentheses, so that it shows
how a line was read: `1+2*3` becomes `(1 + (2 * 3))`. A chain of operators
nests as deep as the line is long. The text is therefore put together from
a list of pieces that are still to be written, and not by descending into
the expression.
-/

set_option autoImplicit false

namespace Calculator.Expr

/-- Something that is still to be written. -/
inductive Piece where
  /-- Text as it stands. -/
  | text (words : String)
  /-- An expression. -/
  | expr (inner : Expr)
  deriving Repr

/-- A bound on the number of steps that writing a piece takes. -/
def Piece.weight : Piece → Nat
  | text _ => 1
  | expr inner => 2 * inner.size

/-- The weight of all pieces together. -/
def Piece.totalWeight : List Piece → Nat
  | [] => 0
  | piece :: pending => piece.weight + totalWeight pending

/-- Writes the pending pieces, in order, behind what is written. -/
def write (written : String) : (pending : List Piece) → String
  | [] => written
  | .text words :: pending => write (written ++ words) pending
  | .expr (.number literal) :: pending => write (written ++ literal.shown) pending
  | .expr (.binary left operator right) :: pending =>
    write written
      (.text "(" :: .expr left :: .text (" " ++ operator.shown ++ " ") ::
        .expr right :: .text ")" :: pending)
  | .expr (.parenthesized _ inner _) :: pending =>
    write written (.text "(" :: .expr inner :: .text ")" :: pending)
termination_by pending => Piece.totalWeight pending
decreasing_by all_goals simp only [Piece.totalWeight, Piece.weight, size]; omega

/-- The text of an expression, with every binary operation grouped. -/
def format (expr : Expr) : String :=
  write "" [.expr expr]

end Calculator.Expr

namespace Calculator.Node

/-- The text of a node. -/
def format : Node → String
  | token leaf => leaf.shown
  | expr inner => inner.format

end Calculator.Node
