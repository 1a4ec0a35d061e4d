import Calculator.Proofs.Evaluation.Refinement

/-!
# `Calculator.Proofs.Evaluation.FirstFault`: which fault is the outcome

An expression is evaluated in post-order: operands before their operation, the left one
first (`Expr.postorder`). `Expr.fault?` is the fault that one of these expressions has
of itself, which is a number without a value, or a division of two values by zero.

If every operator is one of the four (`Expr.HasOperators`), no other fault is possible,
and evaluation has the first of them as its outcome (`evaluate_eq_error_iff`). It has a
value if there is none, which `exists_evaluate_eq_ok_iff` spells out.
-/

set_option autoImplicit false

namespace Calculator.Expr

/-- The expressions that an expression is made of, in the order in which they are
evaluated. -/
def postorder : Expr → List Expr
  | number literal => [number literal]
  | binary left operator right =>
    left.postorder ++ right.postorder ++ [binary left operator right]
  | parenthesized opening inner closing =>
    inner.postorder ++ [parenthesized opening inner closing]

/-- The fault that an expression has of itself, if its operands have none: a number without a
value, or a division by zero. -/
def fault? : Expr → Option Fault
  | number literal =>
    if literal.value.isNone then some (.missingValue literal.position) else none
  | binary left operator right =>
    match left.evaluate, right.evaluate with
    | .ok _, .ok divisor =>
      if operator.kind = .slash ∧ divisor = 0 then some (.divisionByZero operator.position)
      else none
    | _, _ => none
  | parenthesized _ _ _ => none

/-- Whether every operator of an expression is one of the four. Trees that were checked when they
were built have no others. -/
def HasOperators : Expr → Prop
  | number _ => True
  | binary left operator right =>
    left.HasOperators ∧ operator.kind.isOperator = true ∧ right.HasOperators
  | parenthesized _ inner _ => inner.HasOperators

/-- An operator has a value for any two values, unless it divides by zero. No other operation can
fail. -/
theorem apply_of_isOperator {operator : Token} (h : operator.kind.isOperator = true)
    (left right : Int) :
    if operator.kind = .slash ∧ right = 0 then
      Operator.apply operator left right = .error (.divisionByZero operator.position)
    else ∃ value, Operator.apply operator left right = .ok value := by
  cases hkind : operator.kind with
  | slash =>
    by_cases zero : right = 0
    · rw [if_pos ⟨rfl, zero⟩]
      simp [Operator.apply, hkind, zero]
    · rw [if_neg fun both => zero both.2]
      simp [Operator.apply, hkind, zero]
  | plus | minus | star => simp [Operator.apply, hkind]
  | _ =>
    rw [hkind] at h
    cases h

/-- The first fault of a part is the fault that evaluation has as its outcome, if it has
one. -/
theorem findSome?_postorder {expr : Expr} (h : expr.HasOperators) :
    expr.postorder.findSome? fault? =
      match expr.value with
      | .ok _ => none
      | .error fault => some fault := by
  induction expr with
  | number literal =>
    cases hvalue : literal.value <;> simp [postorder, fault?, value, hvalue]
  | parenthesized opening inner closing ih =>
    simp [postorder, List.findSome?_append, fault?, value, ih h]
  | binary left operator right ihLeft ihRight =>
    rw [postorder, List.findSome?_append, List.findSome?_append, ihLeft h.1, ihRight h.2.2,
      List.findSome?_singleton, fault?, evaluate_eq_value, evaluate_eq_value]
    cases hleft : left.value with
    | error fault =>
      rw [value, hleft]
      rfl
    | ok leftValue =>
      cases hright : right.value with
      | error fault =>
        rw [value, hleft, hright]
        rfl
      | ok rightValue =>
        -- Only the operation itself is left, and its operator is one of the four.
        rw [value_binary operator hleft hright]
        have outcome := apply_of_isOperator h.2.1 leftValue rightValue
        by_cases zero : operator.kind = .slash ∧ rightValue = 0
        · rw [if_pos zero] at outcome
          rw [outcome]
          simp [zero]
        · rw [if_neg zero] at outcome
          obtain ⟨result, hresult⟩ := outcome
          rw [hresult]
          simp [zero]

/-- Evaluation has a fault as its outcome exactly if it is the first one of a part, in the order
in which parts are left behind. -/
theorem evaluate_eq_error_iff {expr : Expr} (h : expr.HasOperators) (fault : Fault) :
    expr.evaluate = .error fault ↔ expr.postorder.findSome? fault? = some fault := by
  rw [findSome?_postorder h, evaluate_eq_value]
  cases expr.value <;> simp

/-- The fault that an expression has of itself is that of a number without a value, or a
division by zero behind operands that have values. -/
theorem fault?_cases {expr : Expr} {fault : Fault} (h : expr.fault? = some fault) :
    (∃ literal, expr = .number literal ∧ literal.value = none ∧
      fault = .missingValue literal.position) ∨
    ∃ left operator right leftValue, expr = .binary left operator right ∧
      operator.kind = .slash ∧ left.evaluate = .ok leftValue ∧ right.evaluate = .ok 0 ∧
      fault = .divisionByZero operator.position := by
  cases expr with
  | number literal =>
    cases hvalue : literal.value with
    | none =>
      simp only [fault?, hvalue, Option.isNone_none, if_true, Option.some.injEq] at h
      exact Or.inl ⟨literal, rfl, hvalue, h.symm⟩
    | some value => simp [fault?, hvalue] at h
  | parenthesized opening inner closing => cases h
  | binary left operator right =>
    rw [fault?] at h
    split at h
    · next dividend divisor hleft hright =>
      split at h
      · next zero =>
        -- Only a slash with a second value of zero has a fault of its own here.
        obtain ⟨kind, rfl⟩ := zero
        exact Or.inr ⟨left, operator, right, dividend, rfl, kind, hleft, hright,
          (Option.some.inj h).symm⟩
      · cases h
    · cases h

/-- Evaluation has a value if every number has one and no two values are divided of
which the second is zero. -/
theorem exists_evaluate_eq_ok_iff {expr : Expr} (h : expr.HasOperators) :
    (∃ value, expr.evaluate = .ok value) ↔
      (∀ literal, number literal ∈ expr.postorder → ∃ value, literal.value = some value) ∧
      ∀ left operator right dividend divisor, binary left operator right ∈ expr.postorder →
        operator.kind = .slash → left.evaluate = .ok dividend → right.evaluate = .ok divisor →
        divisor ≠ 0 := by
  -- Evaluation has a value if no part has a fault of its own, so it is enough to look at each part.
  have noFault : (∃ value, expr.evaluate = .ok value) ↔
      ∀ part ∈ expr.postorder, part.fault? = none := by
    rw [← List.findSome?_eq_none_iff, findSome?_postorder h, evaluate_eq_value]
    cases expr.value <;> simp
  rw [noFault]
  constructor
  · intro none
    refine ⟨fun literal part => ?_, fun left operator right dividend divisor part kind hleft
      hright zero => ?_⟩
    · have here := none _ part
      cases hvalue : literal.value with
      | none => simp [fault?, hvalue] at here
      | some value => exact ⟨value, rfl⟩
    · have here := none _ part
      simp [fault?, hleft, hright, kind, zero] at here
  · rintro ⟨numbers, divisions⟩ part hpart
    cases hfault : part.fault? with
    | none => rfl
    | some fault =>
      rcases fault?_cases hfault with
        ⟨literal, rfl, none, -⟩ | ⟨left, operator, right, dividend, rfl, kind, hleft, hright, -⟩
      · obtain ⟨value, hvalue⟩ := numbers literal hpart
        rw [none] at hvalue
        cases hvalue
      · exact absurd rfl (divisions left operator right dividend 0 hpart kind hleft hright)

end Calculator.Expr
