import Calculator.Expr

/-!
# `Calculator.Evaluation`: the value of an expression

Values are integers of any size, and division rounds toward zero. An
expression is evaluated from left to right, operands before their operator,
and the first fault met is the outcome.

The work is done by a machine with a list of tasks and a stack of values,
because a chain of operators nests as deep as the line is long.

The program also writes a log record of the value of an expression, once it has
the value. That is no part of evaluation here. The record changes nothing where
the log level leaves it out, and a value of at most 4300 digits can always be
written. What else it can lead to is said by `Command.logCrash`.

* `Operator.quotient`: the quotient of two values, which is that of `Int.tdiv`
  (`Operator.quotient_eq_tdiv`).
* `Operator.apply`: what an operator token does to two values.
* `Machine.run`: the machine.
* `Expr.evaluate`, `Node.evaluate`: the value of an expression or a node.
-/

set_option autoImplicit false

namespace Calculator

/-- Why an expression has no value. All but a division by zero come only from trees that no
accepted line has. -/
inductive Fault where
  /-- A number that has no value. -/
  | missingValue (position : Nat)
  /-- A token where an expression is needed. -/
  | notAnExpression
  /-- A token between two operands that is no operator. -/
  | unexpectedOperator (kind : Kind) (position : Nat)
  /-- A division whose right operand is zero. -/
  | divisionByZero (position : Nat)
  /-- A value stack that does not fit the tasks. The tasks of an expression
  never lead here. -/
  | unbalanced
  deriving Repr, DecidableEq

/-- The quotient of two integers, rounded toward zero. The magnitudes are
divided, and the sign is put on the result. -/
def Operator.quotient (left right : Int) : Int :=
  let magnitude := left.natAbs / right.natAbs
  if left < 0 ↔ right < 0 then magnitude else -magnitude

/-- The quotient of two integers is that of `Int.tdiv`, for each of the four
combinations of signs. -/
theorem Operator.quotient_eq_tdiv (left right : Int) :
    quotient left right = left.tdiv right := by
  have natural (n : Nat) : ¬ Int.ofNat n < 0 := Int.not_lt.mpr (Int.natCast_nonneg n)
  have negative (n : Nat) : Int.negSucc n < 0 := Int.negSucc_lt_zero n
  show (if left < 0 ↔ right < 0 then ((left.natAbs / right.natAbs : Nat) : Int) else _) = _
  cases left with
  | ofNat m =>
    cases right with
    | ofNat n =>
      rw [if_pos (iff_of_false (natural m) (natural n))]
      rfl
    | negSucc n =>
      rw [if_neg fun same => natural m (same.mpr (negative n))]
      rfl
  | negSucc m =>
    cases right with
    | ofNat n =>
      rw [if_neg fun same => natural n (same.mp (negative m))]
      rfl
    | negSucc n =>
      rw [if_pos (iff_of_true (negative m) (negative n))]
      rfl

/-- What an operator token does to two values. Only a slash can fail on values, and only a token
that is no operator fails on all of them. -/
def Operator.apply (operator : Token) (left right : Int) : Except Fault Int :=
  match operator.kind with
  | .plus => .ok (left + right)
  | .minus => .ok (left - right)
  | .star => .ok (left * right)
  | .slash =>
    if right = 0 then
      .error (.divisionByZero operator.position)
    else
      .ok (quotient left right)
  | kind => .error (.unexpectedOperator kind operator.position)

namespace Machine

/-- Something the machine still has to do. -/
inductive Task where
  /-- Put the value of an expression on the stack. -/
  | visit (expr : Expr)
  /-- Replace the two topmost values by what an operator makes of them. -/
  | combine (operator : Token)
  deriving Repr

/-- A bound on the number of steps that a task takes, which is what the recursion of the machine
decreases. -/
def Task.weight : Task → Nat
  | visit expr => expr.size
  | combine _ => 1

/-- The weight of all tasks together. -/
def Task.totalWeight : List Task → Nat
  | [] => 0
  | task :: pending => task.weight + totalWeight pending

/-- Does the pending tasks in order. At the end exactly one value must be
left on the stack. -/
def run (stack : List Int) : (pending : List Task) → Except Fault Int
  | [] =>
    match stack with
    | [value] => .ok value
    | _ => .error .unbalanced
  | .visit (.number literal) :: pending =>
    match literal.value with
    | some value => run (value :: stack) pending
    | none => .error (.missingValue literal.position)
  | .visit (.parenthesized _ inner _) :: pending => run stack (.visit inner :: pending)
  | .visit (.binary left operator right) :: pending =>
    run stack (.visit left :: .visit right :: .combine operator :: pending)
  | .combine operator :: pending =>
    match stack with
    | right :: left :: stack =>
      match Operator.apply operator left right with
      | .ok value => run (value :: stack) pending
      | .error fault => .error fault
    | _ => .error .unbalanced
termination_by pending => Task.totalWeight pending
decreasing_by
  all_goals simp only [Task.totalWeight, Task.weight, Expr.size]; omega

end Machine

/-- The value of an expression, or the first fault that the machine meets on its way from left to
right. -/
def Expr.evaluate (expr : Expr) : Except Fault Int :=
  Machine.run [] [.visit expr]

/-- The value of a node. A token by itself has none. -/
def Node.evaluate : Node → Except Fault Int
  | token _ => .error .notAnExpression
  | expr inner => inner.evaluate

end Calculator
