import Calculator.Grammar

/-!
# `Calculator.Proofs.Expr.Stratified`: trees that show precedence

The leaves of an expression are its tokens from left to right, and many
trees can have the same leaves. Two conditions single out the tree that
the grammar means. `Placed` asks that every token stands where tokens of
its kind belong. `Stratified` asks that operands are grouped as precedence
and left associativity demand: an operand that no parentheses enclose is
never looser than the operation around it.

`Fits` says the same in terms of the levels of the grammar, one rule per
way in which an expression is made up. The theorem is

* `fits_term_iff`: an expression fits the loosest level exactly if it is
  placed and stratified.

`Fits` is what readings are proved to give and what they are proved to
accept, because its rules follow the levels.
-/

set_option autoImplicit false

namespace Calculator

/-! ### Levels and operators -/

namespace Level

/-- No token joins operands of the tightest level, which has no operators. -/
@[simp] theorem joins_primary (kind : Kind) : primary.joins kind = false := by
  cases kind <;> rfl

/-- The end of a line joins no operands, whatever their level is, so every chain ends there. -/
@[simp] theorem joins_endOfFile (level : Level) : level.joins .endOfFile = false := by
  cases level <;> rfl

/-- Sums and differences are chains of the loosest level, and no other operators are. -/
theorem joins_term_iff (kind : Kind) :
    term.joins kind = true ↔ kind = .plus ∨ kind = .minus := by
  cases kind <;> decide

/-- Products and quotients are chains of the next level, and no other operators are. -/
theorem joins_factor_iff (kind : Kind) :
    factor.joins kind = true ↔ kind = .star ∨ kind = .slash := by
  cases kind <;> decide

/-- The operators are the tokens that join operands of some level, which are the two levels of
chains. -/
theorem isOperator_iff (kind : Kind) :
    kind.isOperator = true ↔ term.joins kind = true ∨ factor.joins kind = true := by
  cases kind <;> decide

/-- A token joins operands of one level only, so the level of a chain can be seen from its
operators. -/
theorem not_joins_of_joins {level other : Level} {kind : Kind}
    (h : level.joins kind = true) (hne : other ≠ level) : other.joins kind = false := by
  cases level <;> cases other <;> cases kind <;> first | rfl | contradiction

/-- The operands of a level lie at another level, if the level has any operators, so the grammar
gets to the bottom. -/
theorem operand_ne {level : Level} {kind : Kind} (h : level.joins kind = true) :
    level.operand ≠ level := by
  cases level with
  | term => decide
  | factor => decide
  | primary => simp at h

end Level

namespace Expr

/-! ### What is seen of a tree -/

/-- The tokens of an expression, from left to right, as they stand in the line. -/
def leaves : Expr → List Token
  | number literal => [literal]
  | binary left operator right => left.leaves ++ operator :: right.leaves
  | parenthesized opening inner closing => opening :: (inner.leaves ++ [closing])

/-- The number of groups that lie inside each other at the deepest place of an expression. -/
def nesting : Expr → Nat
  | number _ => 0
  | binary left _ right => max left.nesting right.nesting
  | parenthesized _ inner _ => inner.nesting + 1

/-- Whether an expression is a binary operation that no parentheses enclose, so that it cannot be
an operand of every operator. -/
def isBareOperation : Expr → Bool
  | binary _ _ _ => true
  | number _ | parenthesized _ _ _ => false

/-- Whether an expression is a sum or a difference that no parentheses enclose, so that it cannot
be a factor. -/
def isBareSum : Expr → Bool
  | binary _ operator _ => operator.kind = .plus || operator.kind = .minus
  | number _ | parenthesized _ _ _ => false

/-! ### The two conditions -/

/-- Every token stands where tokens of its kind belong: numbers in literals, operators between
operands, and parentheses around groups. -/
def Placed : Expr → Prop
  | number literal => literal.kind = .number
  | binary left operator right =>
    left.Placed ∧ operator.kind.isOperator = true ∧ right.Placed
  | parenthesized opening inner closing =>
    opening.kind = .openParenthesis ∧ inner.Placed ∧ closing.kind = .closeParenthesis

/-- How operands may be grouped around an operator. A product or quotient
takes no bare sum as either operand and no bare operation at all as its
right one. A sum or difference takes no bare sum as its right operand. -/
def OperandsFit (left : Expr) (operator : Kind) (right : Expr) : Prop :=
  (operator = .star ∨ operator = .slash →
    left.isBareSum = false ∧ right.isBareOperation = false) ∧
  (operator = .plus ∨ operator = .minus → right.isBareSum = false)

/-- Operands are grouped by precedence and to the left, in the whole tree and inside of its
groups. -/
def Stratified : Expr → Prop
  | number _ => True
  | binary left operator right =>
    left.Stratified ∧ right.Stratified ∧ OperandsFit left operator.kind right
  | parenthesized _ inner _ => inner.Stratified

/-! ### The conditions by levels -/

/-- An expression fits a level of the grammar. There is one rule for each way to make up an
expression, and one to use a tighter level. -/
inductive Fits : Level → Expr → Prop where
  -- A number is as tight as can be.
  | number {literal : Token} (kind : literal.kind = .number) :
    Fits .primary (.number literal)
  -- So is a group, whatever is inside.
  | group {opening closing : Token} {inner : Expr}
    (openingKind : opening.kind = .openParenthesis) (innerFits : Fits .term inner)
    (closingKind : closing.kind = .closeParenthesis) :
    Fits .primary (.parenthesized opening inner closing)
  -- An operand of a level is an expression of the level.
  | operand {level : Level} {expr : Expr} (hne : level ≠ .primary)
    (fits : Fits level.operand expr) : Fits level expr
  -- A chain of operators of a level goes on to the left.
  | chain {level : Level} {left right : Expr} {operator : Token}
    (joins : level.joins operator.kind = true) (leftFits : Fits level left)
    (rightFits : Fits level.operand right) :
    Fits level (.binary left operator right)

/-- What fits a level is placed and stratified, and it is no looser than the level: it is no bare
sum below the loosest level, and no bare operation at the tightest one. -/
theorem Fits.placed_stratified {level : Level} {expr : Expr} (h : Fits level expr) :
    expr.Placed ∧ expr.Stratified ∧ (level ≠ .term → expr.isBareSum = false) ∧
      (level = .primary → expr.isBareOperation = false) := by
  induction h with
  | number kind => exact ⟨kind, trivial, fun _ => rfl, fun _ => rfl⟩
  | group openingKind _ closingKind ih =>
    exact ⟨⟨openingKind, ih.1, closingKind⟩, ih.2.1, fun _ => rfl, fun _ => rfl⟩
  | @operand level expr hne _ ih =>
    obtain ⟨placed, stratified, noSum, _⟩ := ih
    refine ⟨placed, stratified, fun hterm => noSum ?_, fun h => absurd h hne⟩
    cases level with
    | term => exact absurd rfl hterm
    | factor => decide
    | primary => decide
  | @chain level left right operator joins _ _ ihLeft ihRight =>
    obtain ⟨placedLeft, stratifiedLeft, noSumLeft, _⟩ := ihLeft
    obtain ⟨placedRight, stratifiedRight, noSumRight, noOperationRight⟩ := ihRight
    -- Only the right operand of a sum is restricted, and both operands of a product are.
    cases level with
    | term =>
      have kinds := (Level.joins_term_iff _).mp joins
      have operation : operator.kind.isOperator = true :=
        (Level.isOperator_iff _).mpr (Or.inl joins)
      refine ⟨⟨placedLeft, operation, placedRight⟩,
        ⟨stratifiedLeft, stratifiedRight, fun h => ?_, fun _ => noSumRight (by decide)⟩,
        fun h => absurd rfl h, fun h => absurd h (by decide)⟩
      rcases kinds with hkind | hkind <;> simp [hkind] at h
    | factor =>
      have kinds := (Level.joins_factor_iff _).mp joins
      have operation : operator.kind.isOperator = true :=
        (Level.isOperator_iff _).mpr (Or.inr joins)
      refine ⟨⟨placedLeft, operation, placedRight⟩,
        ⟨stratifiedLeft, stratifiedRight,
          fun _ => ⟨noSumLeft (by decide), noOperationRight rfl⟩, fun h => ?_⟩,
        fun _ => ?_, fun h => absurd h (by decide)⟩
      · rcases kinds with hkind | hkind <;> simp [hkind] at h
      · rcases kinds with hkind | hkind <;> simp [isBareSum, hkind]
    | primary => simp at joins

/-- A placed and stratified expression fits the loosest level, and tighter
ones too if its root is no looser than they are. -/
theorem fits_of_placed_stratified (expr : Expr) (placed : expr.Placed)
    (stratified : expr.Stratified) :
    Fits .term expr ∧ (expr.isBareSum = false → Fits .factor expr) ∧
      (expr.isBareOperation = false → Fits .primary expr) := by
  -- A primary expression fits every level.
  have ofPrimary : ∀ {e : Expr}, Fits .primary e →
      Fits .term e ∧ (e.isBareSum = false → Fits .factor e) ∧
        (e.isBareOperation = false → Fits .primary e) := fun {e} h =>
    have factor : Fits .factor e := .operand (by decide) h
    ⟨.operand (by decide) factor, fun _ => factor, fun _ => h⟩
  induction expr with
  | number literal => exact ofPrimary (.number placed)
  | parenthesized opening inner closing ih =>
    obtain ⟨openingKind, placedInner, closingKind⟩ := placed
    exact ofPrimary (.group openingKind (ih placedInner stratified).1 closingKind)
  | binary left operator right ihLeft ihRight =>
    obtain ⟨placedLeft, operation, placedRight⟩ := placed
    obtain ⟨stratifiedLeft, stratifiedRight, tight, loose⟩ := stratified
    obtain ⟨termLeft, factorLeft, _⟩ := ihLeft placedLeft stratifiedLeft
    obtain ⟨_, factorRight, primaryRight⟩ := ihRight placedRight stratifiedRight
    -- The operator decides to which level the operation belongs.
    rcases (Level.isOperator_iff _).mp operation with joins | joins
    · have kinds := (Level.joins_term_iff _).mp joins
      refine ⟨.chain joins termLeft (factorRight (loose kinds)), fun h => ?_,
        fun h => absurd h (by simp [isBareOperation])⟩
      rcases kinds with hkind | hkind <;> simp [isBareSum, hkind] at h
    · have kinds := (Level.joins_factor_iff _).mp joins
      obtain ⟨noSum, noOperation⟩ := tight kinds
      have factor : Fits .factor (.binary left operator right) :=
        .chain joins (factorLeft noSum) (primaryRight noOperation)
      exact ⟨.operand (by decide) factor, fun _ => factor,
        fun h => absurd h (by simp [isBareOperation])⟩

/-- To fit the loosest level is to be placed and stratified, so the rules of the grammar and the
two conditions say the same. -/
theorem fits_term_iff (expr : Expr) :
    Fits .term expr ↔ expr.Placed ∧ expr.Stratified :=
  ⟨fun h => ⟨h.placed_stratified.1, h.placed_stratified.2.1⟩,
    fun h => (fits_of_placed_stratified expr h.1 h.2).1⟩

end Expr

end Calculator
