import Calculator.Proofs.Calculate.Rendering
import Calculator.Proofs.Cursor.Assembly

/-!
# `Calculator.Proofs.Calculate.Composition`: the value of a line from its parts

If two lines are accepted, then so are the lines that are put together from
them, and what these lines evaluate to depends only on what their parts
evaluate to. Two ways to put lines together are treated:

* `parse_grouped`: both lines in parentheses, with any of the four operators
  between them. The tree is the operation on the two groups.
* `parse_summed`: both lines as they are, with a plus sign between them. The
  tree is not the sum of the two trees (`Expr.sum`), but it has the same
  outcome.

`evaluate_composed` says both in terms of outcomes. A fault keeps its place in
the part that it comes from.
-/

set_option autoImplicit false

namespace Calculator

open Text

/-! ### Trees of lines put together -/

/-- What starts with a symbol stands apart from everything before it, so a parenthesis or an
operator may follow any text. -/
theorem apart_cons (front : List Char) {c : Char} (noDigit : isDigit c = false)
    (behind : List Char) : Apart front (c :: behind) := by
  rintro _ _ _ ⟨⟩ ⟨_, digit⟩
  simp [noDigit] at digit

/-- Any text is apart from the empty one behind it, as no characters meet where there are none. -/
theorem apart_nil (front : List Char) : Apart front [] := by
  rintro _ _ _ ⟨⟩

variable {front behind : String} {largest maxDepth : Int}

/-- Two accepted lines in parentheses, with an operator between them, are
accepted under a limit that is larger by one. The tree is the operation on the
groups of the two trees, each moved to its place. -/
theorem parse_grouped (hfront : (parse front largest maxDepth).diagnostics = [])
    (hbehind : (parse behind largest maxDepth).diagnostics = []) (nonneg : 0 ≤ maxDepth)
    (operation : Arith.Operation) :
    let line := "(" ++ front ++ ")" ++ String.singleton operation.symbol ++ "(" ++ behind ++ ")"
    let left := (parse front largest maxDepth).root.mapTokens (Token.relocate (· + 1))
    let right := (parse behind largest maxDepth).root.mapTokens
      (Token.relocate (· + (front.length + 4)))
    parse line largest (maxDepth + 1) =
      ⟨[], .binary (left.inParentheses 0 front.length)
        ⟨operation.kind, front.length + 2, some (String.singleton operation.symbol), none⟩
        (right.inParentheses (front.length + 3) behind.length), Token.endOfFile line.length⟩ := by
  intro line left right
  obtain ⟨noDigit, noBlank, hkind, significant, isOperator⟩ := operation.symbol_spec
  obtain ⟨fitsLeft, shallowLeft⟩ := fits_of_accepted hfront 1
  obtain ⟨fitsRight, shallowRight⟩ := fits_of_accepted hbehind (front.length + 4)
  have chars : line.toList = ('(' :: (front.toList ++ [')'])) ++
      ([operation.symbol] ++ ('(' :: (behind.toList ++ [')']))) := by
    simp [line]
  refine parse_of_adds ?_ ?_ ?_
  · -- Part by part from the right: a part must know what stands behind it.
    have hright : Lexeme.Adds line largest (front.length + 3)
        ('(' :: (behind.toList ++ [')'])) []
        (right.inParentheses (front.length + 3) behind.toList.length).leaves :=
      (adds_of_accepted hbehind line _ (apart_cons _ (by decide) _)).inParentheses
    have hsymbol : Lexeme.Adds line largest (front.length + 2)
        ([operation.symbol] ++ ('(' :: (behind.toList ++ [')']))) []
        (⟨operation.kind, front.length + 2, some (String.singleton operation.symbol), none⟩ ::
          (right.inParentheses (front.length + 3) behind.toList.length).leaves) :=
      (Lexeme.adds_symbol _ noDigit noBlank hkind significant).append hright
    have hleft : Lexeme.Adds line largest 0 ('(' :: (front.toList ++ [')']))
        (([operation.symbol] ++ ('(' :: (behind.toList ++ [')']))) ++ [])
        (left.inParentheses 0 front.toList.length).leaves :=
      (adds_of_accepted hfront line _ (apart_cons _ (by decide) _)).inParentheses
    have whole := hleft.append_at hsymbol (by simp [String.length_toList])
    rwa [← chars, String.length_toList, String.length_toList] at whole
  · -- Groups are operands of any operator.
    have fitsGroup : ∀ {inner : Expr} (position width : Nat), Expr.Fits .term inner →
        Expr.Fits .primary (inner.inParentheses position width) := fun _ _ fits =>
      .group rfl fits rfl
    have placedLeft := (fitsGroup 0 front.length fitsLeft).placed_stratified
    have placedRight := (fitsGroup (front.length + 3) behind.length fitsRight).placed_stratified
    exact (Expr.fits_term_iff _).mpr
      ⟨⟨placedLeft.1, isOperator, placedRight.1⟩, placedLeft.2.1, placedRight.2.1,
        fun _ => ⟨rfl, rfl⟩, fun _ => rfl⟩
  · show max (left.nesting + 1) (right.nesting + 1) ≤ (maxDepth + 1).toNat
    have room : (maxDepth + 1).toNat = maxDepth.toNat + 1 := by omega
    rw [room]
    exact Nat.max_le.mpr ⟨Nat.succ_le_succ shallowLeft, Nat.succ_le_succ shallowRight⟩

/-- Two accepted lines with a plus sign between them are accepted. The tree is
that of the second line, moved behind the plus sign, with the first tree added
to its first operand. -/
theorem parse_summed (hfront : (parse front largest maxDepth).diagnostics = [])
    (hbehind : (parse behind largest maxDepth).diagnostics = []) :
    let line := front ++ "+" ++ behind
    let left := (parse front largest maxDepth).root.mapTokens (Token.relocate (· + 0))
    let right := (parse behind largest maxDepth).root.mapTokens
      (Token.relocate (· + (front.length + 1)))
    parse line largest maxDepth =
      ⟨[], left.sum ⟨.plus, front.length, some (String.singleton '+'), none⟩ right,
        Token.endOfFile line.length⟩ := by
  intro line left right
  obtain ⟨fitsLeft, shallowLeft⟩ := fits_of_accepted hfront 0
  obtain ⟨fitsRight, shallowRight⟩ := fits_of_accepted hbehind (front.length + 1)
  have chars : line.toList = front.toList ++ (['+'] ++ behind.toList) := by simp [line]
  refine parse_of_adds ?_ (fitsLeft.sum rfl fitsRight) ?_
  · have hright : Lexeme.Adds line largest (front.length + 1) behind.toList [] right.leaves :=
      adds_of_accepted hbehind line _ (apart_nil _)
    have hsymbol : Lexeme.Adds line largest front.length (['+'] ++ behind.toList) []
        (⟨.plus, front.length, some (String.singleton '+'), none⟩ :: right.leaves) :=
      (Lexeme.adds_symbol _ (by decide) (by decide) rfl rfl).append hright
    have hleft : Lexeme.Adds line largest 0 front.toList ((['+'] ++ behind.toList) ++ [])
        left.leaves :=
      adds_of_accepted hfront line _ (apart_cons _ (by decide) _)
    have whole := hleft.append_at hsymbol (by simp [String.length_toList])
    rwa [← chars, ← Expr.leaves_sum] at whole
  · rw [Expr.nesting_sum]
    exact Nat.max_le.mpr ⟨shallowLeft, shallowRight⟩

/-! ### Outcomes of lines put together -/

/-- A fault that is moved by nothing stays where it is, which is the case of the operand that
comes first. -/
theorem Fault.relocate_zero (fault : Fault) : fault.relocate (· + 0) = fault := by
  cases fault <;> rfl

/-- Evaluation is compositional. Take two lines that are accepted. In
parentheses and with an operator between them, they make up a line that is
accepted if one more group may be open. Its outcome is a fault of the first
line, or else a fault of the second, each at its new place, or else what the
operation makes of the two values. A division by zero is found at the operator
then. Without parentheses and with a plus sign between them, they make up a line
whose outcome is the first of their faults or the sum of their values. -/
theorem evaluate_composed (front behind : String) (largest maxDepth : Int)
    (nonneg : 0 ≤ maxDepth) (hfront : (parse front largest maxDepth).diagnostics = [])
    (hbehind : (parse behind largest maxDepth).diagnostics = [])
    (operation : Arith.Operation) :
    let left := (parse front largest maxDepth).root.evaluate
    let right := (parse behind largest maxDepth).root.evaluate
    let grouped := parse
      ("(" ++ front ++ ")" ++ String.singleton operation.symbol ++ "(" ++ behind ++ ")")
      largest (maxDepth + 1)
    let summed := parse (front ++ "+" ++ behind) largest maxDepth
    grouped.diagnostics = [] ∧
      grouped.root.evaluate = (match left, right with
        | .error fault, _ => .error (fault.relocate (· + 1))
        | .ok _, .error fault => .error (fault.relocate (· + (front.length + 4)))
        | .ok leftValue, .ok rightValue =>
          match operation.apply leftValue rightValue with
          | some value => .ok value
          | none => .error (.divisionByZero (front.length + 2))) ∧
      summed.diagnostics = [] ∧
      summed.root.evaluate = (match left, right with
        | .error fault, _ => .error fault
        | .ok _, .error fault => .error (fault.relocate (· + (front.length + 1)))
        | .ok leftValue, .ok rightValue => .ok (leftValue + rightValue)) := by
  intro left right grouped summed
  have hgrouped := parse_grouped hfront hbehind nonneg operation
  have hsummed := parse_summed hfront hbehind
  -- A tree that is moved has the outcome of its line, moved as well.
  have moved : ∀ (line : String) (move : Nat → Nat),
      ((parse line largest maxDepth).root.mapTokens (Token.relocate move)).value =
        (parse line largest maxDepth).root.evaluate.mapError (Fault.relocate move) :=
    fun line move => by rw [Expr.value_relocate, Expr.evaluate_eq_value]
  have hleft : (parse front largest maxDepth).root.evaluate = left := rfl
  have hright : (parse behind largest maxDepth).root.evaluate = right := rfl
  refine ⟨congrArg Tree.diagnostics hgrouped, ?_, congrArg Tree.diagnostics hsummed, ?_⟩
  · rw [show grouped.root = _ from congrArg Tree.root hgrouped, Expr.evaluate_eq_value,
      Expr.value, Expr.inParentheses, Expr.inParentheses, Expr.value, Expr.value, moved, moved,
      hleft, hright]
    cases left with
    | error fault => rfl
    | ok leftValue =>
      cases right with
      | error fault => rfl
      | ok rightValue => exact Rendering.apply_token operation _ _ leftValue rightValue
  · rw [show summed.root = _ from congrArg Tree.root hsummed, Expr.evaluate_eq_value,
      Expr.value_sum rfl, moved, moved, hleft, hright]
    cases left with
    | error fault => exact congrArg Except.error fault.relocate_zero
    | ok leftValue =>
      cases right with
      | error fault => rfl
      | ok rightValue => rfl

/-- Two lines with values, of which the second is a chain, and a line that
divides by zero behind one that does not. -/
theorem evaluate_composed_values_and_fault :
    (parse "6 -1" 9 1).diagnostics = [] ∧ (parse "7-3" 9 1).diagnostics = [] ∧
      (parse "4/(2-2)" 9 1).diagnostics = [] ∧
      (parse "(6 -1)/(7-3)" 9 2).root.evaluate = .ok 1 ∧
      (parse "6 -1+7-3" 9 1).root.evaluate = .ok 9 ∧
      (parse "(6 -1)*(4/(2-2))" 9 2).root.evaluate = .error (.divisionByZero 9) := by
  have chain : (parse "7-3" 9 1).diagnostics = [] := by decide +kernel
  have front : (parse "6 -1" 9 1).diagnostics = [] := by decide +kernel
  have zero : (parse "4/(2-2)" 9 1).diagnostics = [] := by decide +kernel
  have frontValue : (parse "6 -1" 9 1).root.evaluate = .ok 5 := by
    rw [Expr.evaluate_eq_value]
    decide +kernel
  have chainValue : (parse "7-3" 9 1).root.evaluate = .ok 4 := by
    rw [Expr.evaluate_eq_value]
    decide +kernel
  have zeroFault : (parse "4/(2-2)" 9 1).root.evaluate = .error (.divisionByZero 1) := by
    rw [Expr.evaluate_eq_value]
    decide +kernel
  obtain ⟨-, quotient, -, sum⟩ :=
    evaluate_composed "6 -1" "7-3" 9 1 (by decide) front chain .divide
  obtain ⟨-, product, -⟩ := evaluate_composed "6 -1" "4/(2-2)" 9 1 (by decide) front zero .multiply
  rw [frontValue, chainValue] at quotient sum
  rw [frontValue, zeroFault] at product
  exact ⟨front, chain, zero, quotient, sum, product⟩

end Calculator
