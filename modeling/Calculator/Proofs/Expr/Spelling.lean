import Calculator.Expr.Format

/-!
# `Calculator.Proofs.Expr.Spelling`: the text of an expression by recursion

`Expr.format` puts the text of an expression together from a list of
pieces. The text itself is simpler to say by recursion on the expression,
which is `Expr.spelled`. The theorem is

* `format_eq_spelled`: the two are the same text, for every expression.

It follows from `write_expr`, which says what writing one expression does
whatever is written already and whatever is pending behind it.
-/

set_option autoImplicit false

namespace Calculator.Expr

/-- The text of an expression, by recursion. Every operation and every group
is put in parentheses, and tokens that were made up have no text. -/
def spelled : Expr → String
  | number literal => literal.shown
  | binary left operator right =>
    "(" ++ left.spelled ++ (" " ++ operator.shown ++ " ") ++ right.spelled ++ ")"
  | parenthesized _ inner _ => "(" ++ inner.spelled ++ ")"

/-- An expression is written as its text, behind what is written and before
what is pending. -/
theorem write_expr (expr : Expr) (written : String) (pending : List Piece) :
    write written (.expr expr :: pending) = write (written ++ expr.spelled) pending := by
  induction expr generalizing written pending with
  | number literal => rw [write, spelled]
  | binary left operator right ihLeft ihRight =>
    rw [write, write, ihLeft, write, ihRight, write]
    simp only [spelled, String.append_assoc]
  | parenthesized opening inner closing ih =>
    rw [write, write, ih, write]
    simp only [spelled, String.append_assoc]

/-- The text put together from pieces is the text of the expression, so from here on the pieces
can be forgotten. -/
theorem format_eq_spelled (expr : Expr) : expr.format = expr.spelled := by
  rw [format, write_expr, write, String.empty_append]

end Calculator.Expr
