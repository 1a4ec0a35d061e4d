import Calculator.Proofs.Expr.Alike

/-!
# `Calculator.Proofs.Expr.Sum`: a sum of two chains

The grammar reads sums to the left. If the text of one expression stands
before a plus sign and that of another behind it, the whole is no sum of the
two trees, because the chain of the second goes on from the first:
`1 + (2 - 3)` without its parentheses is `(1 + 2) - 3`. `Expr.sum` is
the tree that is read.

* `leaves_sum`: its leaves are those of both trees and the plus sign.
* `placed_sum`, `stratified_sum`: it is grouped as the grammar
  groups.
* `value_sum`: it has the value of the sum, and a fault of the first
  tree comes before one of the second. Both rest on sums being associative.

`mapTokens` keeps the conditions on trees as well, if it keeps kinds.
-/

set_option autoImplicit false

namespace Calculator.Expr

/-! ### Conditions on trees with their tokens replaced -/

/-- As many groups lie inside each other after tokens were replaced as before, as the shape of the
tree is kept. -/
theorem nesting_mapTokens (f : Token → Token) (expr : Expr) :
    (expr.mapTokens f).nesting = expr.nesting := by
  induction expr with
  | number literal => rfl
  | binary left operator right ihLeft ihRight =>
    rw [mapTokens, nesting, ihLeft, ihRight, nesting]
  | parenthesized opening inner closing ih => rw [mapTokens, nesting, ih, nesting]

/-- An expression fits the same levels with tokens of the same kinds, as fitting looks at kinds
only. -/
theorem Fits.mapTokens {f : Token → Token} (kind : ∀ token, (f token).kind = token.kind)
    {level : Level} {expr : Expr} (h : Fits level expr) : Fits level (expr.mapTokens f) := by
  induction h with
  | @number literal isNumber => exact .number ((kind literal).trans isNumber)
  | @group opening closing inner openingKind _ closingKind ih =>
    exact .group ((kind opening).trans openingKind) ih ((kind closing).trans closingKind)
  | operand hne _ ih => exact .operand hne ih
  | @chain level left right operator joins _ _ ihLeft ihRight =>
    exact .chain (by rwa [kind operator]) ihLeft ihRight

/-! ### Sums of chains -/

/-- The tree of a first expression, a plus sign and a second expression. If the
second is a chain of sums and differences, its first operand is added to the
first expression, and the chain goes on from there. -/
def sum (first : Expr) (plus : Token) : Expr → Expr
  | binary left operator right =>
    if operator.kind = .plus ∨ operator.kind = .minus then
      binary (first.sum plus left) operator right
    else
      binary first plus (binary left operator right)
  | number literal => binary first plus (number literal)
  | parenthesized opening inner closing =>
    binary first plus (parenthesized opening inner closing)

variable {first expr : Expr} {plus : Token}

/-- The leaves are those of the first expression, the plus sign and those of
the second. -/
theorem leaves_sum (first : Expr) (plus : Token) (expr : Expr) :
    (first.sum plus expr).leaves = first.leaves ++ plus :: expr.leaves := by
  induction expr with
  | number | parenthesized => rfl
  | binary left operator right ihLeft _ =>
    rw [sum]
    split
    · rw [leaves, ihLeft, leaves, List.append_assoc, List.cons_append]
    · rfl

/-- No more groups lie inside each other in the sum than in one of the two, and as many as in the
deeper one. -/
theorem nesting_sum (first : Expr) (plus : Token) (expr : Expr) :
    (first.sum plus expr).nesting = max first.nesting expr.nesting := by
  induction expr with
  | number | parenthesized => rfl
  | binary left operator right ihLeft _ =>
    rw [sum]
    split
    · rw [nesting, ihLeft, nesting, Nat.max_assoc]
    · rfl

/-- The tokens of the sum stand where they belong, if those of both expressions do and an addition
is put between them. -/
theorem placed_sum (isPlus : plus.kind = .plus) (hfirst : first.Placed)
    (h : expr.Placed) : (first.sum plus expr).Placed := by
  have operation : plus.kind.isOperator = true := by rw [isPlus]; rfl
  induction expr with
  | number | parenthesized => exact ⟨hfirst, operation, h⟩
  | binary left operator right ihLeft _ =>
    rw [sum]
    split
    · exact ⟨ihLeft h.1, h.2⟩
    · exact ⟨hfirst, operation, h⟩

/-- The operands of a sum are grouped by precedence and to the left if those of both
expressions are. -/
theorem stratified_sum (isPlus : plus.kind = .plus) (hfirst : first.Stratified)
    (h : expr.Stratified) : (first.sum plus expr).Stratified := by
  -- As an operand of the plus sign, an expression must not be a bare sum.
  have whole : ∀ {other : Expr}, other.Stratified → other.isBareSum = false →
      (binary first plus other).Stratified := fun hother noSum =>
    ⟨hfirst, hother, by simp [isPlus], fun _ => noSum⟩
  induction expr with
  | number | parenthesized => exact whole h rfl
  | binary left operator right ihLeft _ =>
    rw [sum]
    split
    · next isSum =>
      obtain ⟨stratifiedLeft, stratifiedRight, -, loose⟩ := h
      refine ⟨ihLeft stratifiedLeft, stratifiedRight, fun product => ?_, loose⟩
      rcases isSum with hkind | hkind <;> simp [hkind] at product
    · next noSum => exact whole h (by simpa [isBareSum] using noSum)

/-- The sum of two expressions fits the loosest level if both of them do, although the second is
taken apart to the left. -/
theorem Fits.sum (isPlus : plus.kind = .plus) (hfirst : Fits .term first)
    (h : Fits .term expr) : Fits .term (first.sum plus expr) := by
  obtain ⟨placedFirst, stratifiedFirst⟩ := (fits_term_iff first).mp hfirst
  obtain ⟨placed, stratified⟩ := (fits_term_iff expr).mp h
  exact (fits_term_iff _).mpr
    ⟨placed_sum isPlus placedFirst placed,
      stratified_sum isPlus stratifiedFirst stratified⟩

/-- To add something to the left operand of a sum or difference is to add it
to the result. -/
theorem apply_add {operator : Token} (isSum : operator.kind = .plus ∨ operator.kind = .minus)
    (added left right : Int) :
    Operator.apply operator (added + left) right =
      (Operator.apply operator left right).map (added + ·) := by
  rcases isSum with hkind | hkind
  · simp only [Operator.apply, hkind, Except.map, Int.add_assoc]
  · simp only [Operator.apply, hkind, Except.map, Int.add_sub_assoc]

/-- The sum has the sum of the two values, or the first fault, that of the first expression before
that of the second. -/
theorem value_sum (isPlus : plus.kind = .plus) (first expr : Expr) :
    (first.sum plus expr).value = do
      let firstValue ← first.value
      let value ← expr.value
      return firstValue + value := by
  -- Where the first expression is added to the second as a whole, the sum is an operation by
  -- itself.
  have whole : ∀ other : Expr, (binary first plus other).value = do
      let firstValue ← first.value
      let value ← other.value
      return firstValue + value := fun other => by
    have apply_plus : Operator.apply plus = fun left right => .ok (left + right) := by
      funext left right
      simp only [Operator.apply, isPlus]
    rw [value, apply_plus]
    rfl
  induction expr with
  | number | parenthesized => exact whole _
  | binary left operator right ihLeft _ =>
    rw [sum]
    split
    · next isSum =>
      rw [value, ihLeft, value]
      -- The first fault decides on both sides, and without a fault the sums are associative.
      cases first.value with
      | error fault => rfl
      | ok firstValue =>
        cases left.value with
        | error fault => rfl
        | ok leftValue =>
          cases right.value with
          | error fault => rfl
          | ok rightValue =>
            show Operator.apply operator (firstValue + leftValue) rightValue = _
            rw [apply_add isSum]
            show _ = (Operator.apply operator leftValue rightValue).bind _
            cases Operator.apply operator leftValue rightValue <;> rfl
    · exact whole _

end Calculator.Expr
