import Calculator.Kind

/-!
# `Calculator.FieldError`: why the fields of a value are refused

Tokens, expressions and configurations that come from outside are checked
field by field, and every field that fails is reported with its cause.
-/

set_option autoImplicit false

namespace Calculator

/-- Why a field is refused. The causes of tokens and those of settings are kept in one list. -/
inductive FieldError.Cause where
  /-- A name that is no kind. -/
  | unknownKind
  /-- A number below the least one allowed. -/
  | tooSmall (least : Int)
  /-- An operator token of another kind. -/
  | notAnOperator (kind : Kind)
  /-- A value other than a text. -/
  | notAText
  /-- A value that cannot stand for a truth value. -/
  | notATruthValue
  /-- A text or number that names no truth value. -/
  | unknownTruthValue
  /-- A value that cannot stand for an integer. -/
  | notAnInteger
  /-- A text that is no integer. -/
  | unreadableInteger
  /-- A text or number that has too many digits for an integer. -/
  | tooManyDigits
  /-- A number with a fraction where an integer is needed. -/
  | fractional
  /-- An infinity, or no number at all, where an integer is needed. -/
  | notFinite
  /-- A text that names no log level. -/
  | unknownLogLevel (given : String)
  /-- A value other than a table. -/
  | notATable
  deriving Repr, DecidableEq

/-- A field that is refused, with the cause. -/
structure FieldError where
  /-- The name of the field, or nothing if the value as a whole is
  refused. -/
  field : String
  /-- Why it is refused. -/
  cause : FieldError.Cause
  deriving Repr, DecidableEq

/-- The text of a cause, for those whose text is the program's own or names a bound. -/
def FieldError.Cause.message? : FieldError.Cause → Option String
  | tooSmall least =>
    some ("Input should be greater than or equal to " ++ toString least)
  | notAnOperator kind =>
    some ("Value error, " ++ kind.name ++ " is not a binary operator")
  | unknownLogLevel given => some ("Value error, Unknown log level: " ++ given)
  | _ => none

end Calculator
