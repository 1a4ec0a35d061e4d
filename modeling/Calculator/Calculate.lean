import Calculator.Cursor
import Calculator.Evaluation

/-!
# `Calculator.Calculate`: from a line to its value

`calculate` reads a line and evaluates it in one step. It refuses a line
that has any diagnostic, so a result is always the value of the whole
line.

A failure has a class, a detail and, where one is known, the position in
the line at which it arose. Its message is the detail, followed by the
position.

* `Failure`, `Failure.message`: failures, and the text that is reported.
* `Fault.failure`: how a fault of evaluation is reported.
* `calculate`: the value of a line, or why it has none.

Log records are no part of this. `Command.logCrash` says what the record of a
value can lead to, and it can only do so where the records of evaluations are
written and the value has more than 4300 digits.
-/

set_option autoImplicit false

namespace Calculator

/-! ### Failures -/

/-- The classes of failures, which decide how a failure is reported: a failure of evaluation is
told to the user, and any other one stops the command. -/
inductive FailureClass where
  /-- No class in particular. -/
  | general
  /-- An expression that is in order and has no value. -/
  | evaluation
  /-- A division by zero, which is a failure of evaluation too. -/
  | divisionByZero
  /-- A tree that no line reads as without a diagnostic. -/
  | invalidTree
  deriving Repr, DecidableEq

/-- A failure of a line or of an expression. A line is either not evaluated at all, or its
evaluation ends in a single failure. -/
inductive Failure where
  /-- A failure of a class, at a position if one is known. -/
  | located (failureClass : FailureClass) (detail : String) (position : Option Int)
  /-- A line that has diagnostics where it must have none. -/
  | diagnosed (diagnostics : List String)
  deriving Repr, DecidableEq

namespace Failure

/-- What went wrong, without the position. Several diagnostics are put on one line. -/
def detail : Failure → String
  | located _ what _ => what
  | diagnosed diagnostics => "; ".intercalate diagnostics

/-- Where it went wrong, if that is known. -/
def position : Failure → Option Int
  | located _ _ place => place
  | diagnosed _ => none

/-- The text of a failure. Its position is taken to be a number that can be printed,
that is, one of at most 4300 digits, as all positions in a line are. -/
def message (failure : Failure) : String :=
  match failure.position with
  | some position => failure.detail ++ " (at position " ++ toString position ++ ")"
  | none => failure.detail

/-- Whether the expression was in order and only its value is missing. -/
def isEvaluation : Failure → Bool
  | located .evaluation _ _ | located .divisionByZero _ _ => true
  | _ => false

end Failure

/-- How a fault of evaluation is reported. The faults that only a tree put together by hand can
have are failures of the tree, and a division by zero is one of the values. -/
def Fault.failure : Fault → Failure
  | missingValue position =>
    .located .invalidTree "Number expression has no integer value" (some position)
  | notAnExpression => .located .invalidTree "Unexpected node SyntaxToken" none
  | unexpectedOperator kind position =>
    .located .invalidTree ("Unexpected binary operator " ++ kind.name) (some position)
  | divisionByZero position =>
    .located .divisionByZero "Division by zero" (some position)
  | unbalanced => .located .general "Unbalanced value stack" none

/-! ### The value of a line -/

/-- The largest number accepted unless another is configured, which is that of a signed integer of
32 bits. -/
def defaultLargest : Int := 2147483647

/-- The number of groups that may lie inside each other unless another is
given. -/
def defaultMaxDepth : Int := 100

/-- The value of a line that has no diagnostics. A line with diagnostics is not evaluated,
whatever its tree is. -/
def calculate (line : String) (largest : Int) : Except Failure Int :=
  let tree := parse line largest defaultMaxDepth
  if tree.hasErrors then
    .error (.diagnosed (tree.diagnostics.map Diagnostic.message))
  else
    tree.root.evaluate.mapError Fault.failure

end Calculator
