import Calculator.Proofs.Evaluation.Structural
import Mathlib.Logic.Relation

/-!
# `Calculator.Proofs.Evaluation.Refinement`: the machine, the rules and the stack

`Expr.Evaluates` lays down the outcome of an expression as rules, one for
each way in which evaluation can come out. The rules name the four
operations and the faults themselves. They do not go through
`Operator.apply`, and they know neither tasks nor a stack.

`Machine.step` is one turn of the machine, and `run_eq_step` says that
`Machine.run` is the loop of it. By induction on an expression that has a
value, some turns put that value on the stack and leave everything else as
it was (`steps_visit`). What every turn keeps is `Suffices`: the values on
the stack are as many as the pending tasks take off it, with one left over.
It holds of a single visit on an empty stack, so it holds of every state
that evaluation passes through (`suffices_of_steps`).

The main theorem, `evaluate_iff_evaluates`, puts the two together: the
machine has the outcome of the rules, it takes two values off the stack
only where two are there, and it ends with one.
-/

set_option autoImplicit false

namespace Calculator

/-! ### The rules of evaluation -/

/-- The outcome of an expression, rule by rule. Operands come before their
operator, the left one first, and the first fault is the outcome. -/
inductive Expr.Evaluates : Expr → Except Fault Int → Prop where
  -- A number has the value of its token, whatever the kind of the token.
  | literal {token : Token} {value : Int} (hvalue : token.value = some value) :
    Evaluates (.number token) (.ok value)
  | noValue {token : Token} (hvalue : token.value = none) :
    Evaluates (.number token) (.error (.missingValue token.position))
  -- A group has the outcome of what is inside.
  | parenthesized {opening closing : Token} {inner : Expr} {outcome : Except Fault Int}
    (evaluatesInner : Evaluates inner outcome) :
    Evaluates (.parenthesized opening inner closing) outcome
  -- A fault of the left operand comes first, whatever the right one does.
  | leftFault {left right : Expr} {operator : Token} {fault : Fault}
    (evaluatesLeft : Evaluates left (.error fault)) :
    Evaluates (.binary left operator right) (.error fault)
  | rightFault {left right : Expr} {operator : Token} {leftValue : Int} {fault : Fault}
    (evaluatesLeft : Evaluates left (.ok leftValue))
    (evaluatesRight : Evaluates right (.error fault)) :
    Evaluates (.binary left operator right) (.error fault)
  -- Two values are combined by the kind of the operator.
  | sum {left right : Expr} {operator : Token} {leftValue rightValue : Int}
    (kind : operator.kind = .plus) (evaluatesLeft : Evaluates left (.ok leftValue))
    (evaluatesRight : Evaluates right (.ok rightValue)) :
    Evaluates (.binary left operator right) (.ok (leftValue + rightValue))
  | difference {left right : Expr} {operator : Token} {leftValue rightValue : Int}
    (kind : operator.kind = .minus) (evaluatesLeft : Evaluates left (.ok leftValue))
    (evaluatesRight : Evaluates right (.ok rightValue)) :
    Evaluates (.binary left operator right) (.ok (leftValue - rightValue))
  | product {left right : Expr} {operator : Token} {leftValue rightValue : Int}
    (kind : operator.kind = .star) (evaluatesLeft : Evaluates left (.ok leftValue))
    (evaluatesRight : Evaluates right (.ok rightValue)) :
    Evaluates (.binary left operator right) (.ok (leftValue * rightValue))
  | quotient {left right : Expr} {operator : Token} {leftValue rightValue : Int}
    (kind : operator.kind = .slash) (evaluatesLeft : Evaluates left (.ok leftValue))
    (evaluatesRight : Evaluates right (.ok rightValue)) (nonzero : rightValue ≠ 0) :
    Evaluates (.binary left operator right) (.ok (leftValue.tdiv rightValue))
  | zeroDivisor {left right : Expr} {operator : Token} {leftValue : Int}
    (kind : operator.kind = .slash) (evaluatesLeft : Evaluates left (.ok leftValue))
    (evaluatesRight : Evaluates right (.ok 0)) :
    Evaluates (.binary left operator right) (.error (.divisionByZero operator.position))
  -- A token of any other kind combines nothing.
  | noOperator {left right : Expr} {operator : Token} {leftValue rightValue : Int}
    (kind : operator.kind.isOperator = false)
    (evaluatesLeft : Evaluates left (.ok leftValue))
    (evaluatesRight : Evaluates right (.ok rightValue)) :
    Evaluates (.binary left operator right)
      (.error (.unexpectedOperator operator.kind operator.position))

namespace Expr

/-- The rules for two values are what `Operator.apply` does, kind by kind, a token that is no
operator among them. -/
theorem evaluates_apply {left right : Expr} {leftValue rightValue : Int} (operator : Token)
    (evaluatesLeft : left.Evaluates (.ok leftValue))
    (evaluatesRight : right.Evaluates (.ok rightValue)) :
    (binary left operator right).Evaluates
      (Operator.apply operator leftValue rightValue) := by
  unfold Operator.apply
  split
  · next kind => exact .sum kind evaluatesLeft evaluatesRight
  · next kind => exact .difference kind evaluatesLeft evaluatesRight
  · next kind => exact .product kind evaluatesLeft evaluatesRight
  · next kind =>
    split
    · next zero =>
      subst zero
      exact .zeroDivisor kind evaluatesLeft evaluatesRight
    · next nonzero =>
      rw [Operator.quotient_eq_tdiv]
      exact .quotient kind evaluatesLeft evaluatesRight nonzero
  · next noPlus noMinus noStar noSlash =>
    -- The kinds of the four operators are excluded, and no other kind is one of an operator.
    refine .noOperator ?_ evaluatesLeft evaluatesRight
    cases kind : operator.kind <;> simp_all [Kind.isOperator]

/-- Two operands with values are combined by the operator, and its outcome is that of the
whole. -/
theorem value_binary {left right : Expr} {leftValue rightValue : Int} (operator : Token)
    (hleft : left.value = .ok leftValue) (hright : right.value = .ok rightValue) :
    (binary left operator right).value = Operator.apply operator leftValue rightValue := by
  rw [value, hleft, hright]
  rfl

/-- Only operands with values are combined to a value, so a fault of either one is a fault of the
whole. -/
theorem exists_of_value_binary {left right : Expr} {operator : Token} {value : Int}
    (h : (binary left operator right).value = .ok value) :
    ∃ leftValue rightValue, left.value = .ok leftValue ∧ right.value = .ok rightValue ∧
      Operator.apply operator leftValue rightValue = .ok value := by
  rw [Expr.value] at h
  cases hleft : left.value with
  | error fault =>
    rw [hleft] at h
    cases h
  | ok leftValue =>
    cases hright : right.value with
    | error fault =>
      rw [hleft, hright] at h
      cases h
    | ok rightValue =>
      rw [hleft, hright] at h
      exact ⟨leftValue, rightValue, rfl, rfl, h⟩

/-- Some rule gives the outcome of the recursion, by induction on the expression. -/
theorem evaluates_value (expr : Expr) : expr.Evaluates expr.value := by
  induction expr with
  | number literal =>
    rw [value]
    split
    · next hvalue => exact .literal hvalue
    · next hvalue => exact .noValue hvalue
  | parenthesized opening inner closing ih => exact .parenthesized ih
  | binary left operator right ihLeft ihRight =>
    rw [value]
    -- The right operand is only looked at if the left one has a value, as the rules for faults say.
    cases hleft : left.value with
    | error fault =>
      rw [hleft] at ihLeft
      exact .leftFault ihLeft
    | ok leftValue =>
      rw [hleft] at ihLeft
      cases hright : right.value with
      | error fault =>
        rw [hright] at ihRight
        exact .rightFault ihLeft ihRight
      | ok rightValue =>
        rw [hright] at ihRight
        exact evaluates_apply operator ihLeft ihRight

/-- No rule gives another outcome than the recursion, so the rules are deterministic. -/
theorem Evaluates.value_eq {expr : Expr} {outcome : Except Fault Int}
    (h : expr.Evaluates outcome) : expr.value = outcome := by
  -- By induction on the derivation, with one case for each rule.
  induction h with
  | literal hvalue => simp [value, hvalue]
  | noValue hvalue => simp [value, hvalue]
  | parenthesized _ ih => exact ih
  | leftFault _ ih => rw [value, ih]; rfl
  | rightFault _ _ ihLeft ihRight => rw [value, ihLeft, ihRight]; rfl
  | sum kind _ _ ihLeft ihRight =>
    rw [value_binary _ ihLeft ihRight]
    simp [Operator.apply, kind]
  | difference kind _ _ ihLeft ihRight =>
    rw [value_binary _ ihLeft ihRight]
    simp [Operator.apply, kind]
  | product kind _ _ ihLeft ihRight =>
    rw [value_binary _ ihLeft ihRight]
    simp [Operator.apply, kind]
  | quotient kind _ _ nonzero ihLeft ihRight =>
    rw [value_binary _ ihLeft ihRight]
    simp [Operator.apply, kind, nonzero, Operator.quotient_eq_tdiv]
  | zeroDivisor kind _ _ ihLeft ihRight =>
    rw [value_binary _ ihLeft ihRight]
    simp [Operator.apply, kind]
  | noOperator kind _ _ ihLeft ihRight =>
    rw [value_binary _ ihLeft ihRight]
    unfold Operator.apply
    split <;> simp_all [Kind.isOperator]

end Expr

/-! ### The turns of the machine -/

namespace Machine

/-- What the machine holds between two turns: the values that are computed, and what is still to
be done. -/
structure State where
  /-- The values, the topmost first. -/
  stack : List Int
  /-- What is still to be done, in order. -/
  pending : List Task

/-- One turn of the machine. It goes on with another state, or it stops
with an outcome. -/
def step : State → Except Fault Int ⊕ State
  | ⟨[value], []⟩ => .inl (.ok value)
  | ⟨_, []⟩ => .inl (.error .unbalanced)
  | ⟨stack, .visit (.number literal) :: pending⟩ =>
    match literal.value with
    | some value => .inr ⟨value :: stack, pending⟩
    | none => .inl (.error (.missingValue literal.position))
  | ⟨stack, .visit (.parenthesized _ inner _) :: pending⟩ =>
    .inr ⟨stack, .visit inner :: pending⟩
  | ⟨stack, .visit (.binary left operator right) :: pending⟩ =>
    .inr ⟨stack, .visit left :: .visit right :: .combine operator :: pending⟩
  | ⟨right :: left :: stack, .combine operator :: pending⟩ =>
    match Operator.apply operator left right with
    | .ok value => .inr ⟨value :: stack, pending⟩
    | .error fault => .inl (.error fault)
  | ⟨_, .combine _ :: _⟩ => .inl (.error .unbalanced)

/-- A run is the loop of the turns: it goes on from the next state, or it ends with an outcome. -/
theorem run_eq_step (state : State) :
    run state.stack state.pending =
      (step state).elim id fun next => run next.stack next.pending := by
  -- The cases of a turn are those of a run, so each is one of its equations.
  fun_cases step state <;> rw [run.eq_def] <;> simp_all

/-- One state leads to the other in some turns, none of them or many. -/
abbrev Steps : State → State → Prop :=
  Relation.ReflTransGen fun state next => step state = .inr next

/-- The outcome of a run stays the same from turn to turn, so it can be read off any later
state. -/
theorem run_eq_of_steps {start state : State} (h : Steps start state) :
    run start.stack start.pending = run state.stack state.pending := by
  induction h with
  | refl => rfl
  | tail _ hstep ih =>
    rw [ih, run_eq_step, hstep]
    rfl

/-- If an expression has a value, the machine puts it on the stack, whatever
the stack holds and whatever is pending, and turns to what is pending. -/
theorem steps_visit {expr : Expr} {value : Int} (h : expr.value = .ok value)
    (stack : List Int) (pending : List Task) :
    Steps ⟨stack, .visit expr :: pending⟩ ⟨value :: stack, pending⟩ := by
  induction expr generalizing value stack pending with
  | number literal =>
    cases hvalue : literal.value with
    | none => simp [Expr.value, hvalue] at h
    | some number =>
      obtain rfl : number = value := by simpa [Expr.value, hvalue] using h
      exact .single (by simp [step, hvalue])
  | parenthesized opening inner closing ih =>
    have enter : step ⟨stack, .visit (.parenthesized opening inner closing) :: pending⟩ =
        .inr ⟨stack, .visit inner :: pending⟩ := by simp only [step]
    exact .head enter (ih h stack pending)
  | binary left operator right ihLeft ihRight =>
    obtain ⟨leftValue, rightValue, hleft, hright, happly⟩ := Expr.exists_of_value_binary h
    have enter : step ⟨stack, .visit (.binary left operator right) :: pending⟩ =
        .inr ⟨stack, .visit left :: .visit right :: .combine operator :: pending⟩ := by
      simp only [step]
    -- Both operands are visited before the operator takes their values.
    have visitLeft := ihLeft hleft stack (.visit right :: .combine operator :: pending)
    have visitRight := ihRight hright (leftValue :: stack) (.combine operator :: pending)
    have combine : Steps ⟨rightValue :: leftValue :: stack, .combine operator :: pending⟩
        ⟨value :: stack, pending⟩ := .single (by simp [step, happly])
    exact .head enter (visitLeft.trans (visitRight.trans combine))

/-- A stack of `height` values is just high enough for the pending tasks.
Every visit adds a value, every operator replaces two by one, and one is
left at the end. -/
def Suffices : Nat → List Task → Prop
  | height, [] => height = 1
  | height, .visit _ :: pending => Suffices (height + 1) pending
  | height, .combine _ :: pending => 2 ≤ height ∧ Suffices (height - 1) pending

/-- A stack that is high enough for what is pending stays so in every turn, so no turn lacks an
operand. -/
theorem suffices_of_step {state next : State}
    (h : Suffices state.stack.length state.pending) (hstep : step state = .inr next) :
    Suffices next.stack.length next.pending := by
  obtain ⟨stack, pending⟩ := state
  match pending, stack with
  | [], [] | [], [_] | [], _ :: _ :: _ => simp [step] at hstep
  | .visit (.number literal) :: pending, stack =>
    -- The visit adds the value of the number.
    cases hvalue : literal.value with
    | none => simp [step, hvalue] at hstep
    | some value =>
      simp only [step, hvalue, Sum.inr.injEq] at hstep
      subst hstep
      exact h
  | .visit (.parenthesized opening inner closing) :: pending, stack =>
    simp only [step, Sum.inr.injEq] at hstep
    subst hstep
    exact h
  | .visit (.binary left operator right) :: pending, stack =>
    -- The operands will add two values, which the operator replaces by the one due.
    simp only [step, Sum.inr.injEq] at hstep
    subst hstep
    exact ⟨Nat.le_add_left 2 stack.length, h⟩
  | .combine operator :: pending, right :: left :: stack =>
    cases happly : Operator.apply operator left right with
    | error fault => simp [step, happly] at hstep
    | ok value =>
      simp only [step, happly, Sum.inr.injEq] at hstep
      subst hstep
      exact h.2
  | .combine operator :: pending, [] | .combine operator :: pending, [_] =>
    simp [step] at hstep

/-- A value stack that is high enough for the pending tasks stays high enough in every
state of a run that starts with it. -/
theorem suffices_of_steps {start state : State}
    (h : Suffices start.stack.length start.pending) (hsteps : Steps start state) :
    Suffices state.stack.length state.pending := by
  induction hsteps with
  | refl => exact h
  | tail _ hstep ih => exact suffices_of_step ih hstep

end Machine

/-! ### Both together -/

/-- Evaluation has the outcome of the rules, for every expression. A value
is reached by the machine as the only one on its stack. In every state
that the machine passes through, an operator finds two values, and where
nothing is pending the outcome is the only value left. -/
theorem evaluate_iff_evaluates (expr : Expr) :
    (∀ outcome, expr.evaluate = outcome ↔ expr.Evaluates outcome) ∧
    (∀ value, expr.evaluate = .ok value →
      Machine.Steps ⟨[], [.visit expr]⟩ ⟨[value], []⟩) ∧
    ∀ state, Machine.Steps ⟨[], [.visit expr]⟩ state →
      Machine.run state.stack state.pending = expr.evaluate ∧
      (∀ operator later, state.pending = .combine operator :: later →
        ∃ right left below, state.stack = right :: left :: below) ∧
      (state.pending = [] →
        ∃ value, state.stack = [value] ∧ expr.evaluate = .ok value) := by
  refine ⟨?_, ?_, ?_⟩
  · intro outcome
    rw [Expr.evaluate_eq_value]
    constructor
    · rintro rfl
      exact expr.evaluates_value
    · intro h
      exact h.value_eq
  · intro value hvalue
    rw [Expr.evaluate_eq_value] at hvalue
    exact Machine.steps_visit hvalue [] []
  · intro state hsteps
    have hrun : Machine.run state.stack state.pending = expr.evaluate :=
      (Machine.run_eq_of_steps hsteps).symm
    have sufficient : Machine.Suffices state.stack.length state.pending := by
      refine Machine.suffices_of_steps ?_ hsteps
      -- A single visit on an empty stack leaves one value.
      rfl
    refine ⟨hrun, ?_, ?_⟩
    · intro operator later hpending
      rw [hpending] at sufficient
      match hstack : state.stack, sufficient with
      | right :: left :: below, _ => exact ⟨right, left, below, rfl⟩
      | [_], ⟨two, _⟩ => exact absurd two (by simp)
      | [], ⟨two, _⟩ => exact absurd two (by simp)
    · intro hpending
      rw [hpending] at sufficient hrun
      obtain ⟨value, hstack⟩ := List.length_eq_one_iff.mp sufficient
      refine ⟨value, hstack, ?_⟩
      rw [← hrun, hstack, Machine.run]

end Calculator
