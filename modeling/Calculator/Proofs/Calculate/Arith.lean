import Calculator.Text.Basic
import Calculator.Kind

/-!
# `Calculator.Proofs.Calculate.Arith`: arithmetic and how it is written

An `Arith` is what is meant by a line: an expression without tokens,
blanks or parentheses. Its value is an integer of any size
(`Arith.value`). It has none if it divides by zero anywhere, and
`Arith.zeroDivisions` lists where it does.

There are many ways to write the same expression. A `Rendering` is one of
them, with every digit, blank and parenthesis, and `Rendering.text` is the
text. `Rendering.Writes` says which expression a rendering is one of. It
asks for parentheses where precedence or left associativity need them, and
it allows them around any part.
-/

set_option autoImplicit false

namespace Calculator

open Text

/-! ### Expressions -/

/-- The four operations, as they are meant. The tokens that stand for them are another type. -/
inductive Arith.Operation where
  | add
  | subtract
  | multiply
  | divide
  deriving Repr, DecidableEq

/-- The two operands of an operation, by which a part of an expression is found. -/
inductive Arith.Side where
  | left
  | right
  deriving Repr, DecidableEq

/-- An arithmetic expression, as it is meant: numbers and operations, and no parentheses, blanks
or tokens. -/
inductive Arith where
  -- A natural number.
  | literal (n : Nat)
  -- An operation on the values of two expressions.
  | operation (kind : Arith.Operation) (left right : Arith)
  deriving Repr, DecidableEq

namespace Arith

/-- The way from an expression down to a part of it, operand by operand. -/
abbrev Path := List Side

/-- What an operation makes of two integers. Quotients are rounded toward
zero, and there is none by zero. -/
def Operation.apply : Operation → Int → Int → Option Int
  | add, left, right => some (left + right)
  | subtract, left, right => some (left - right)
  | multiply, left, right => some (left * right)
  | divide, left, right => if right = 0 then none else some (left.tdiv right)

/-- The value of an expression, if it divides by zero nowhere. This is ordinary arithmetic on
integers, with quotients that are rounded toward zero. -/
def value : Arith → Option Int
  | literal n => some n
  | operation kind left right => do
    let leftValue ← left.value
    let rightValue ← right.value
    kind.apply leftValue rightValue

/-- The divisions whose divisor is zero, in the order in which operations
are carried out: operands before their operation, the left one first. -/
def zeroDivisions : Arith → List Path
  | literal _ => []
  | operation kind left right =>
    left.zeroDivisions.map (.left :: ·) ++ right.zeroDivisions.map (.right :: ·) ++
      if kind = .divide ∧ right.value = some 0 then [[]] else []

/-- Only a division by zero keeps an operation from having a value, so faults and divisions by
zero are the same here. -/
theorem Operation.apply_eq_none_iff (kind : Operation) (left right : Int) :
    kind.apply left right = none ↔ kind = .divide ∧ right = 0 := by
  cases kind <;> simp [apply]

/-- The value of an expression, or the first division by zero, the left operand before the right
one and both before the operation. -/
def outcome : Arith → Except Path Int
  | literal n => .ok n
  | operation kind left right => do
    let leftValue ← left.outcome.mapError (.left :: ·)
    let rightValue ← right.outcome.mapError (.right :: ·)
    match kind.apply leftValue rightValue with
    | some value => .ok value
    | none => .error []

/-- The outcome is the value if no division is by zero, and else it is the
first that is. -/
theorem outcome_spec (arith : Arith) :
    match arith.zeroDivisions with
    | [] => ∃ value, arith.value = some value ∧ arith.outcome = .ok value
    | path :: _ => arith.outcome = .error path := by
  induction arith with
  | literal n => exact ⟨n, rfl, rfl⟩
  | operation kind left right ihLeft ihRight =>
    rw [zeroDivisions, value, outcome]
    -- The first division by zero of an operand is also the first of the whole.
    cases hleft : left.zeroDivisions with
    | cons path later =>
      rw [hleft] at ihLeft
      rw [ihLeft]
      rfl
    | nil =>
      rw [hleft] at ihLeft
      obtain ⟨leftValue, hleftValue, hleftOutcome⟩ := ihLeft
      rw [hleftValue, hleftOutcome]
      cases hright : right.zeroDivisions with
      | cons path later =>
        rw [hright] at ihRight
        rw [ihRight]
        rfl
      | nil =>
        rw [hright] at ihRight
        obtain ⟨rightValue, hrightValue, hrightOutcome⟩ := ihRight
        rw [hrightValue, hrightOutcome]
        -- The operands have values, so only the operation itself may divide by zero.
        cases happly : kind.apply leftValue rightValue with
        | none =>
          obtain ⟨rfl, rfl⟩ := (kind.apply_eq_none_iff leftValue rightValue).mp happly
          rfl
        | some value =>
          have noZero : ¬ (kind = .divide ∧ some rightValue = some 0) := fun ⟨hkind, hzero⟩ =>
            absurd ((kind.apply_eq_none_iff leftValue rightValue).mpr
              ⟨hkind, Option.some.inj hzero⟩) (by simp [happly])
          rw [if_neg noZero]
          refine ⟨value, happly, ?_⟩
          show (match kind.apply leftValue rightValue with
            | some value => Except.ok value
            | none => .error []) = _
          rw [happly]

/-- The symbol of an operation, which is the character that a rendering has for it. -/
def Operation.symbol : Operation → Char
  | add => '+'
  | subtract => '-'
  | multiply => '*'
  | divide => '/'

/-- The kind of the token of an operation, which is that of its symbol. -/
def Operation.kind : Operation → Kind
  | add => .plus
  | subtract => .minus
  | multiply => .star
  | divide => .slash

/-- Whether an operation is one of those that bind loosely, so that it needs parentheses as an
operand of the others. -/
def Operation.isSum : Operation → Bool
  | add | subtract => true
  | multiply | divide => false

end Arith

/-! ### Renderings -/

/-- One way to write an expression: the digits of each number, the blanks around each symbol, and
as many parentheses as one likes. -/
inductive Rendering where
  -- Digits.
  | digits (run : List Char)
  -- Two operands with a symbol between them, and blanks around the
  -- symbol.
  | operation (kind : Arith.Operation) (left : Rendering) (before behind : List Char)
    (right : Rendering)
  -- Parentheses around a rendering, with blanks inside of them.
  | group (before : List Char) (inner : Rendering) (behind : List Char)
  deriving Repr

namespace Rendering

/-- The text of a rendering, character by character, as it is typed. -/
def text : Rendering → List Char
  | digits run => run
  | operation kind left before behind right =>
    left.text ++ (before ++ (kind.symbol :: (behind ++ right.text)))
  | group before inner behind => '(' :: (before ++ (inner.text ++ (behind ++ [')'])))

/-- The number of parentheses that lie inside each other at the deepest place of a rendering. -/
def nesting : Rendering → Nat
  | digits _ => 0
  | operation _ left _ _ right => max left.nesting right.nesting
  | group _ inner _ => inner.nesting + 1

/-- The offset in the text of the symbol of an operation, which is where a fault of the operation
is reported. -/
def offset : Rendering → Arith.Path → Nat
  | digits _, _ => 0
  | operation _ left before _ _, [] => left.text.length + before.length
  | operation _ left _ _ _, .left :: path => left.offset path
  | operation _ left before behind right, .right :: path =>
    left.text.length + before.length + 1 + behind.length + right.offset path
  | group before inner _, path => 1 + before.length + inner.offset path

/-- Whether a rendering is an operation that no parentheses enclose, so that a symbol beside it
may tear it apart. -/
def isBareOperation : Rendering → Bool
  | operation _ _ _ _ _ => true
  | digits _ | group _ _ _ => false

/-- Whether a rendering is a sum or a difference that no parentheses enclose, which is torn apart
by a symbol that binds tighter. -/
def isBareSum : Rendering → Bool
  | operation kind _ _ _ _ => kind.isSum
  | digits _ | group _ _ _ => false

/-- Whether two renderings may stand on both sides of a symbol. A sum or
difference needs parentheses as an operand of a product or quotient and as
the right operand of a sum or difference. Any operation needs them as the
right operand of a product or quotient. -/
def OperandsFit (left : Rendering) (kind : Arith.Operation) (right : Rendering) : Prop :=
  if kind.isSum then right.isBareSum = false
  else left.isBareSum = false ∧ right.isBareOperation = false

instance (left : Rendering) (kind : Arith.Operation) (right : Rendering) :
    Decidable (OperandsFit left kind right) :=
  inferInstanceAs (Decidable (if kind.isSum then _ else _))

/-- A rendering writes an expression, in which no number is above `largest`. Numbers are in digits
of any script, and operands have the parentheses that they need. -/
inductive Writes (largest : Int) : Rendering → Arith → Prop where
  -- A literal is written with digits of any scripts, and it may have
  -- leading zeros.
  | digits {run : List Char} (hne : run ≠ []) (digits : ∀ c ∈ run, isDigit c = true)
    (short : run.length ≤ 4300) (small : (natOfDigits run : Int) ≤ largest) :
    Writes largest (.digits run) (.literal (natOfDigits run))
  -- An operation is written with its symbol between its operands.
  | operation {kind : Arith.Operation} {left right : Rendering} {before behind : List Char}
    {leftArith rightArith : Arith}
    (leftWrites : Writes largest left leftArith)
    (blanksBefore : ∀ c ∈ before, isBlank c = true)
    (blanksBehind : ∀ c ∈ behind, isBlank c = true)
    (rightWrites : Writes largest right rightArith)
    (operandsFit : OperandsFit left kind right) :
    Writes largest (.operation kind left before behind right)
      (.operation kind leftArith rightArith)
  -- Parentheses may stand around any part.
  | group {before behind : List Char} {inner : Rendering} {arith : Arith}
    (blanksBefore : ∀ c ∈ before, isBlank c = true)
    (innerWrites : Writes largest inner arith)
    (blanksBehind : ∀ c ∈ behind, isBlank c = true) :
    Writes largest (.group before inner behind) arith

/-- A rendering says by itself what it writes, so it can be decided whether it writes a given
expression. -/
instance decidableWrites (largest : Int) :
    (rendering : Rendering) → (arith : Arith) → Decidable (Writes largest rendering arith)
  | digits run, .literal n =>
    decidable_of_iff
      (natOfDigits run = n ∧ run ≠ [] ∧ run.all isDigit = true ∧ run.length ≤ 4300 ∧
        (natOfDigits run : Int) ≤ largest)
      ⟨fun ⟨hn, hne, hdigits, short, small⟩ =>
          hn ▸ .digits hne (List.all_eq_true.mp hdigits) short small,
        fun
          | .digits hne hdigits short small =>
            ⟨rfl, hne, List.all_eq_true.mpr hdigits, short, small⟩⟩
  | operation kind left before behind right, .operation kindArith leftArith rightArith =>
    let _ := decidableWrites largest left leftArith
    let _ := decidableWrites largest right rightArith
    decidable_of_iff
      (kind = kindArith ∧ Writes largest left leftArith ∧ before.all isBlank = true ∧
        behind.all isBlank = true ∧ Writes largest right rightArith ∧
        OperandsFit left kind right)
      ⟨fun ⟨hkind, left, before, behind, right, fit⟩ =>
          hkind ▸ .operation left (List.all_eq_true.mp before) (List.all_eq_true.mp behind)
            right fit,
        fun
          | .operation left before behind right fit =>
            ⟨rfl, left, List.all_eq_true.mpr before, List.all_eq_true.mpr behind, right, fit⟩⟩
  | group before inner behind, arith =>
    let _ := decidableWrites largest inner arith
    decidable_of_iff
      (before.all isBlank = true ∧ Writes largest inner arith ∧ behind.all isBlank = true)
      ⟨fun ⟨before, inner, behind⟩ =>
          .group (List.all_eq_true.mp before) inner (List.all_eq_true.mp behind),
        fun
          | .group before inner behind =>
            ⟨List.all_eq_true.mpr before, inner, List.all_eq_true.mpr behind⟩⟩
  | digits _, .operation _ _ _ => isFalse nofun
  | operation _ _ _ _ _, .literal _ => isFalse nofun

end Rendering

end Calculator
