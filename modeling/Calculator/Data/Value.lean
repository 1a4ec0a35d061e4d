import Calculator.Data.Binary64

/-!
# `Calculator.Data.Value`: values of structured data

The values that a data file or a request may hold. Tables keep the order
of their fields, and no field name occurs twice.
-/

set_option autoImplicit false

namespace Calculator.Data

/-- A value of structured data. -/
inductive Value where
  /-- The absence of a value. -/
  | null
  /-- A truth value. -/
  | truth (holds : Bool)
  /-- An integer of any size. -/
  | integer (number : Int)
  /-- A number with a point or an exponent. -/
  | binary64 (number : Binary64)
  /-- A text. -/
  | text (words : String)
  /-- A date, a time, or both. Nothing looks at its parts. -/
  | moment
  /-- A list of values. -/
  | array (items : List Value)
  /-- Named values. -/
  | table (fields : List (String × Value))
  deriving Repr

/-- Whether a value is absent, zero, false or empty. -/
def Value.isVoid : Value → Bool
  | null => true
  | truth holds => !holds
  | integer number => number == 0
  | binary64 number => number.whole? == some 0
  | text words => words.isEmpty
  | moment => false
  | array items => items.isEmpty
  | table fields => fields.isEmpty

end Calculator.Data
