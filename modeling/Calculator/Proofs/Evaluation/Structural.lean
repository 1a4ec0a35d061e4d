import Calculator.Evaluation

/-!
# `Calculator.Proofs.Evaluation.Structural`: the value of an expression by recursion

The machine of `Calculator.Evaluation` keeps its own list of tasks. What
it computes is simpler to say by recursion on the expression, which is
`Expr.value`. The theorem is

* `evaluate_eq_value`: the machine has the same outcome as the recursion,
  for every expression, faults included.

It follows from `Machine.run_visit`, which says what one visit does on any
stack and whatever is pending behind it.
-/

set_option autoImplicit false

namespace Calculator

/-- The value of an expression, by recursion. Operands come before their
operator, the left one first, and the first fault is the outcome. -/
def Expr.value : Expr → Except Fault Int
  | number literal =>
    match literal.value with
    | some value => .ok value
    | none => .error (.missingValue literal.position)
  | binary left operator right => do
    let leftValue ← left.value
    let rightValue ← right.value
    Operator.apply operator leftValue rightValue
  | parenthesized _ inner _ => inner.value

namespace Machine

/-- A visit puts the value of the expression on the stack, whatever the
stack holds and whatever is pending. A fault of the expression ends the
run. -/
theorem run_visit (expr : Expr) (stack : List Int) (pending : List Task) :
    run stack (.visit expr :: pending) =
      expr.value.bind fun value => run (value :: stack) pending := by
  induction expr generalizing stack pending with
  | number literal =>
    rw [run, Expr.value]
    cases literal.value <;> rfl
  | parenthesized opening inner closing ih =>
    rw [run, ih, Expr.value]
  | binary left operator right ihLeft ihRight =>
    rw [run, ihLeft, Expr.value]
    -- The operator waits while both operands are visited.
    cases left.value with
    | error fault => rfl
    | ok leftValue =>
      show run (leftValue :: stack) (.visit right :: .combine operator :: pending) = _
      rw [ihRight]
      cases right.value with
      | error fault => rfl
      | ok rightValue =>
        show run (rightValue :: leftValue :: stack) (.combine operator :: pending) =
          (Operator.apply operator leftValue rightValue).bind _
        rw [run]
        cases Operator.apply operator leftValue rightValue <;> rfl

end Machine

/-- The machine computes the value of an expression, fault or not. From here on, evaluation can be
taken as the recursion on the tree. -/
theorem Expr.evaluate_eq_value (expr : Expr) : expr.evaluate = expr.value := by
  rw [evaluate, Machine.run_visit]
  cases expr.value with
  | error fault => rfl
  | ok value =>
    show Machine.run [value] [] = .ok value
    rw [Machine.run]

end Calculator
