import Calculator.Proofs.Calculate.Arith
import Calculator.Proofs.Evaluation.Structural
import Calculator.Proofs.Expr.Stratified
import Calculator.Proofs.Token.Adds

/-!
# `Calculator.Proofs.Calculate.Rendering`: the tree of a rendering

`Rendering.tree` is the tree that a rendering should be read as: its
numbers, symbols and parentheses as tokens, each at its place. For a
rendering of an expression,

* `Writes.adds`: the leaves of the tree are the significant tokens of the
  text, and nothing is wrong with them,
* `Writes.placed_stratified`: its operands are grouped as the grammar
  groups them,
* `nesting_tree`: as many groups lie inside each other as in the text,
* `Writes.value_tree`: its outcome is that of the expression,
* `Writes.slash_at_offset`: a division by zero stands at its offset.

So the tree is the one that the parser finds. The proofs are inductions on
`Writes`, with one case for each way to write an expression.
-/

set_option autoImplicit false

namespace Calculator

open Text

/-! ### Symbols -/

namespace Arith.Operation

/-- The symbol of an operation is a symbol of its kind, neither a digit
nor a blank. -/
theorem symbol_spec (kind : Arith.Operation) :
    isDigit kind.symbol = false ∧ isBlank kind.symbol = false ∧
      Kind.ofSymbol? kind.symbol = some kind.kind ∧ kind.kind.isSignificant = true ∧
        kind.kind.isOperator = true := by
  cases kind <;> decide

/-- The kinds of sums and differences are those of the operators that the loosest level of the
grammar joins. -/
theorem kind_sum_iff (kind : Arith.Operation) :
    (kind.kind = .plus ∨ kind.kind = .minus) ↔ kind.isSum = true := by
  cases kind <;> decide

/-- The kinds of products and quotients are those of the operators that the middle level of the
grammar joins. -/
theorem kind_product_iff (kind : Arith.Operation) :
    (kind.kind = .star ∨ kind.kind = .slash) ↔ kind.isSum = false := by
  cases kind <;> decide

end Arith.Operation

namespace Rendering

/-! ### Trees -/

/-- The tree of a rendering whose text starts at `start`, with every token at its place. Blanks
leave no trace but in the places. -/
def tree (start : Nat) : Rendering → Expr
  | digits run =>
    .number ⟨.number, start, some (String.ofList run), some (natOfDigits run : Int)⟩
  | operation kind left before behind right =>
    let middle := start + left.text.length + before.length
    .binary (left.tree start)
      ⟨kind.kind, middle, some (String.singleton kind.symbol), none⟩
      (right.tree (middle + 1 + behind.length))
  | group before inner behind =>
    let inside := start + 1 + before.length
    .parenthesized ⟨.openParenthesis, start, some (String.singleton '('), none⟩
      (inner.tree inside)
      ⟨.closeParenthesis, inside + inner.text.length + behind.length,
        some (String.singleton ')'), none⟩

/-- The tree has as many groups inside each other as the rendering, so the limit on groups can be
read off the text. -/
theorem nesting_tree (start : Nat) (rendering : Rendering) :
    (rendering.tree start).nesting = rendering.nesting := by
  induction rendering generalizing start with
  | digits run => rfl
  | operation kind left before behind right ihLeft ihRight =>
    rw [tree, Expr.nesting, ihLeft, ihRight, nesting]
  | group before inner behind ih =>
    rw [tree, Expr.nesting, ih, nesting]

/-- The tree is a bare operation exactly if the rendering is one, as groups become groups. -/
theorem isBareOperation_tree (start : Nat) (rendering : Rendering) :
    (rendering.tree start).isBareOperation = rendering.isBareOperation := by
  cases rendering <;> rfl

/-- The tree is a bare sum exactly if the rendering is one, so a rendering with all parentheses
that it needs gives a tree that fits. -/
theorem isBareSum_tree (start : Nat) (rendering : Rendering) :
    (rendering.tree start).isBareSum = rendering.isBareSum := by
  cases rendering with
  | digits run => rfl
  | operation kind left before behind right => cases kind <;> rfl
  | group before inner behind => rfl

variable {largest : Int} {rendering : Rendering} {arith : Arith}

/-- Every token of the tree stands where it belongs, and the operands are
grouped by precedence and to the left. -/
theorem Writes.placed_stratified (h : Writes largest rendering arith) (start : Nat) :
    (rendering.tree start).Placed ∧ (rendering.tree start).Stratified := by
  induction h generalizing start with
  | digits => exact ⟨rfl, trivial⟩
  | @operation kind left right before behind _ _ _ _ _ _ operandsFit ihLeft ihRight =>
    obtain ⟨placedLeft, stratifiedLeft⟩ := ihLeft start
    obtain ⟨placedRight, stratifiedRight⟩ :=
      ihRight (start + left.text.length + before.length + 1 + behind.length)
    refine ⟨⟨placedLeft, kind.symbol_spec.2.2.2.2, placedRight⟩,
      stratifiedLeft, stratifiedRight, ?_, ?_⟩
    · -- The two side conditions of a rendering are the two halves of being stratified.
      intro hkind
      rw [isBareSum_tree, isBareOperation_tree]
      simpa [OperandsFit, (kind.kind_product_iff).mp hkind] using operandsFit
    · intro hkind
      rw [isBareSum_tree]
      simpa [OperandsFit, (kind.kind_sum_iff).mp hkind] using operandsFit
  | group _ _ _ ih => exact ⟨⟨rfl, (ih _).1, rfl⟩, (ih _).2⟩

/-! ### Tokens -/

/-- The text of a rendering adds the leaves of its tree to the tokens of a
line, unless more digits follow. -/
theorem Writes.adds (h : Writes largest rendering arith) (line : String) (start : Nat)
    {rest : List Char} (stop : StopsRun isDigit rest) :
    Lexeme.Adds line largest start rendering.text rest (rendering.tree start).leaves := by
  induction h generalizing start rest with
  | digits hne digits short small => exact Lexeme.adds_number hne digits stop ⟨short, small⟩
  | @operation kind left right before behind _ _ _ blanksBefore blanksBehind _ _ ihLeft
      ihRight =>
    obtain ⟨noDigit, noBlank, hkind, significant, _⟩ := kind.symbol_spec
    -- Part by part from the right: an operand must know what stands behind it.
    have hright := (Lexeme.adds_blanks blanksBehind _).append
      (ihRight (start + left.text.length + before.length + 1 + behind.length) stop)
    have hsymbol := (Lexeme.adds_symbol _ noDigit noBlank hkind significant).append hright
    have hbefore := (Lexeme.adds_blanks blanksBefore _).append hsymbol
    have hstop := (stopsRun_cons noDigit (behind ++ right.text ++ rest)).behind_blanks
      blanksBefore
    exact (ihLeft start (by simpa using hstop)).append hbefore
  | @group before behind inner _ blanksBefore _ blanksBehind ih =>
    have hclosing : Lexeme.Adds line largest
        (start + 1 + before.length + inner.text.length + behind.length) [')'] rest
        [⟨.closeParenthesis, _, some (String.singleton ')'), none⟩] :=
      Lexeme.adds_symbol rest (by decide) (by decide) rfl rfl
    have hbehind := (Lexeme.adds_blanks blanksBehind _).append hclosing
    -- Digits inside cannot go on behind the blanks and the closing parenthesis.
    have hstop : StopsRun isDigit (behind ++ ([')'] ++ rest)) :=
      (stopsRun_cons (by decide) rest).behind_blanks blanksBehind
    have hinner := (ih (start + 1 + before.length) (by simpa using hstop)).append hbehind
    have hbefore := (Lexeme.adds_blanks blanksBefore _).append hinner
    exact (Lexeme.adds_symbol _ (by decide) (by decide) rfl rfl).append hbefore

/-- Where an expression divides by zero, its text has a slash at the offset
of the division. -/
theorem Writes.slash_at_offset (h : Writes largest rendering arith) {path : Arith.Path}
    (hpath : path ∈ arith.zeroDivisions) :
    ∃ front behind, rendering.text = front ++ '/' :: behind ∧
      front.length = rendering.offset path := by
  induction h generalizing path with
  | digits => exact absurd hpath List.not_mem_nil
  | @operation kind left right before behind leftArith rightArith _ _ _ _ _ ihLeft ihRight =>
    rw [Arith.zeroDivisions, List.mem_append, List.mem_append] at hpath
    -- The division lies in the left operand, in the right one, or is the operation itself.
    rcases hpath with (hpath | hpath) | hpath
    · obtain ⟨inside, hinside, rfl⟩ := List.mem_map.mp hpath
      obtain ⟨front, later, htext, hlength⟩ := ihLeft hinside
      exact ⟨front, later ++ (before ++ kind.symbol :: (behind ++ right.text)),
        by simp [text, htext], hlength⟩
    · obtain ⟨inside, hinside, rfl⟩ := List.mem_map.mp hpath
      obtain ⟨front, later, htext, hlength⟩ := ihRight hinside
      refine ⟨left.text ++ before ++ kind.symbol :: (behind ++ front), later,
        by simp [text, htext], ?_⟩
      simp only [List.length_append, List.length_cons, hlength, offset]
      omega
    · by_cases hzero : kind = .divide ∧ rightArith.value = some 0
      · rw [if_pos hzero, List.mem_singleton] at hpath
        subst hpath
        exact ⟨left.text ++ before, behind ++ right.text,
          by simp [text, hzero.1, Arith.Operation.symbol], List.length_append⟩
      · rw [if_neg hzero] at hpath
        exact absurd hpath List.not_mem_nil
  | @group before behind inner arith _ _ _ ih =>
    obtain ⟨front, later, htext, hlength⟩ := ih hpath
    refine ⟨'(' :: (before ++ front), later ++ (behind ++ [')']), by simp [text, htext], ?_⟩
    simp only [List.length_cons, List.length_append, hlength, offset]
    omega

/-! ### Values -/

/-- The token of an operation does to two values what the operation does, and a division by zero
is reported at the place of the token. -/
theorem apply_token (kind : Arith.Operation) (position : Nat) (text : Option String)
    (left right : Int) :
    Operator.apply ⟨kind.kind, position, text, none⟩ left right =
      match kind.apply left right with
      | some value => .ok value
      | none => .error (.divisionByZero position) := by
  cases kind with
  | divide =>
    by_cases hright : right = 0 <;>
      simp [Operator.apply, Operator.quotient_eq_tdiv, Arith.Operation.kind,
        Arith.Operation.apply, hright]
  | _ => rfl

/-- The tree has the outcome of the expression, with the symbol of a
division by zero at its offset in the text. -/
theorem Writes.value_tree (h : Writes largest rendering arith) (start : Nat) :
    (rendering.tree start).value =
      arith.outcome.mapError fun path => .divisionByZero (start + rendering.offset path) := by
  induction h generalizing start with
  | digits => rfl
  | @operation kind left right before behind leftArith rightArith _ _ _ _ _ ihLeft ihRight =>
    rw [tree, Expr.value, ihLeft, ihRight, Arith.outcome]
    cases leftArith.outcome with
    | error path => rfl
    | ok leftValue =>
      cases rightArith.outcome with
      | error path =>
        -- The right operand starts behind the left one, the symbol and the blanks.
        refine congrArg (fun position => Except.error (Fault.divisionByZero position)) ?_
        simp only [offset]
        omega
      | ok rightValue =>
        refine (apply_token kind _ _ leftValue rightValue).trans ?_
        show _ = Except.mapError _ (match kind.apply leftValue rightValue with
          | some value => .ok value
          | none => .error [])
        cases kind.apply leftValue rightValue with
        | some value => rfl
        | none =>
          refine congrArg (fun position => Except.error (Fault.divisionByZero position)) ?_
          simp only [offset]
          omega
  | @group before behind inner arith _ _ _ ih =>
    rw [tree, Expr.value, ih]
    refine congrArg (fun locate => arith.outcome.mapError locate) (funext fun path => ?_)
    simp only [offset]
    congr 1
    omega

end Rendering

end Calculator
