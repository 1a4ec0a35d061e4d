import Calculator.Proofs.Evaluation.Structural
import Calculator.Proofs.Expr.Stratified

/-!
# `Calculator.Proofs.Expr.Alike`: trees that compute alike

Two trees can differ in the positions of their tokens and in the
parentheses they keep, and still stand for the same computation. The first
difference is taken away by `Token.withoutPosition`, applied to all tokens
of a tree with `Expr.mapTokens`, and the second by `Expr.ungrouped`.

* `value_ungrouped`: parentheses do not count for the value.
* `value_relocate`: if positions are moved, the outcome is the same, with
  the position of a fault moved as well.
* `value_alike`: if two trees are equal up to positions, they have the same
  value or divide by zero at the same of their leaves.
-/

set_option autoImplicit false

namespace Calculator

/-- The token without its position, so that two tokens can be compared up to their places. -/
def Token.withoutPosition (token : Token) : Token :=
  { token with position := 0 }

/-- The token at another position, with its kind, text and value as they were. -/
def Token.relocate (move : Nat → Nat) (token : Token) : Token :=
  { token with position := move token.position }

/-- The fault at another position. The faults without a position stay as they are. -/
def Fault.relocate (move : Nat → Nat) : Fault → Fault
  | missingValue position => missingValue (move position)
  | notAnExpression => notAnExpression
  | unexpectedOperator kind position => unexpectedOperator kind (move position)
  | divisionByZero position => divisionByZero (move position)
  | unbalanced => unbalanced

namespace Expr

/-- The expression with every token replaced, and with its shape as it was. -/
def mapTokens (f : Token → Token) : Expr → Expr
  | number literal => number (f literal)
  | binary left operator right => binary (left.mapTokens f) (f operator) (right.mapTokens f)
  | parenthesized opening inner closing =>
    parenthesized (f opening) (inner.mapTokens f) (f closing)

/-- The expression with every group replaced by what is inside, so only numbers and operations are
left. -/
def ungrouped : Expr → Expr
  | number literal => number literal
  | binary left operator right => binary left.ungrouped operator right.ungrouped
  | parenthesized _ inner _ => inner.ungrouped

/-! ### Leaves -/

/-- The leaves are replaced in place, so what is known of the tokens of a tree can be said before
or after. -/
theorem leaves_mapTokens (f : Token → Token) (expr : Expr) :
    (expr.mapTokens f).leaves = expr.leaves.map f := by
  induction expr with
  | number literal => rfl
  | binary left operator right ihLeft ihRight =>
    simp [mapTokens, leaves, ihLeft, ihRight]
  | parenthesized opening inner closing ih => simp [mapTokens, leaves, ih]

/-- Trees that are equal after some replacement have equally many leaves, so their leaves can be
paired off. -/
theorem length_leaves_eq {f : Token → Token} {expr other : Expr}
    (h : expr.mapTokens f = other.mapTokens f) : expr.leaves.length = other.leaves.length := by
  simpa [leaves_mapTokens] using congrArg (fun tree : Expr => tree.leaves.length) h

/-- Without its groups an expression has fewer leaves, in the same order. Only parentheses are
left out. -/
theorem leaves_ungrouped_sublist (expr : Expr) : expr.ungrouped.leaves.Sublist expr.leaves := by
  induction expr with
  | number literal => exact .refl _
  | binary left operator right ihLeft ihRight => exact ihLeft.append (ihRight.cons_cons operator)
  | parenthesized opening inner closing ih =>
    exact (ih.trans (List.sublist_append_left _ [closing])).cons opening

/-- The tokens that are left without groups stand where they belong, as numbers and operators keep
their places in the tree. -/
theorem Placed.ungrouped {expr : Expr} (h : expr.Placed) : expr.ungrouped.Placed := by
  induction expr with
  | number literal => exact h
  | binary left operator right ihLeft ihRight => exact ⟨ihLeft h.1, h.2.1, ihRight h.2.2⟩
  | parenthesized opening inner closing ih => exact ih h.2.1

/-! ### Values -/

/-- Parentheses do not count for the value, as a group has the value of what is inside. -/
theorem value_ungrouped (expr : Expr) : expr.ungrouped.value = expr.value := by
  induction expr with
  | number literal => rfl
  | binary left operator right ihLeft ihRight =>
    rw [ungrouped, value, ihLeft, ihRight, value]
  | parenthesized opening inner closing ih => exact ih

/-- An operator at another position does the same, and reports its fault at that position. -/
theorem apply_relocate (move : Nat → Nat) (operator : Token) (left right : Int) :
    Operator.apply (operator.relocate move) left right =
      (Operator.apply operator left right).mapError (Fault.relocate move) := by
  unfold Operator.apply
  rw [show (operator.relocate move).kind = operator.kind from rfl]
  cases operator.kind with
  | slash => by_cases hright : right = 0 <;> simp [hright] <;> rfl
  | _ => rfl

/-- With its positions moved, an expression has the same outcome, with the place of a fault moved
along. -/
theorem value_relocate (move : Nat → Nat) (expr : Expr) :
    (expr.mapTokens (Token.relocate move)).value =
      expr.value.mapError (Fault.relocate move) := by
  induction expr with
  | number literal =>
    rw [mapTokens, value, value, show (literal.relocate move).value = literal.value from rfl]
    cases literal.value <;> rfl
  | parenthesized opening inner closing ih => exact ih
  | binary left operator right ihLeft ihRight =>
    rw [mapTokens, value, ihLeft, ihRight, value]
    cases left.value with
    | error fault => rfl
    | ok leftValue =>
      cases right.value with
      | error fault => rfl
      | ok rightValue => exact apply_relocate move operator leftValue rightValue

/-- Two operators of one kind give the same value, or both divide by zero, each at its own
place. -/
theorem apply_alike {operator twin : Token} (hkind : twin.kind = operator.kind)
    (operation : operator.kind.isOperator = true) (left right : Int) :
    (∃ value, Operator.apply operator left right = .ok value ∧
        Operator.apply twin left right = .ok value) ∨
      operator.kind = .slash ∧ twin.kind = .slash ∧
        Operator.apply operator left right = .error (.divisionByZero operator.position) ∧
        Operator.apply twin left right = .error (.divisionByZero twin.position) := by
  unfold Operator.apply
  rw [hkind]
  cases h : operator.kind with
  | plus | minus | star => exact Or.inl ⟨_, rfl, rfl⟩
  | slash =>
    by_cases hright : right = 0
    · exact Or.inr ⟨rfl, rfl, if_pos hright, if_pos hright⟩
    · exact Or.inl ⟨_, if_neg hright, if_neg hright⟩
  | _ => simp [h, Kind.isOperator] at operation

/-- Two trees that are equal up to positions have the same value, or they
divide by zero at two leaves that are in the same place in both, if their
tokens are where they belong and their numbers have values. -/
theorem value_alike {expr other : Expr}
    (alike : expr.mapTokens Token.withoutPosition = other.mapTokens Token.withoutPosition)
    (placed : expr.Placed)
    (values : ∀ leaf ∈ expr.leaves, leaf.kind = .number → ∃ value, leaf.value = some value) :
    (∃ value, expr.value = .ok value ∧ other.value = .ok value) ∨
      ∃ slash twin, (slash, twin) ∈ expr.leaves.zip other.leaves ∧ slash.kind = .slash ∧
        twin.kind = .slash ∧
        expr.value = .error (.divisionByZero slash.position) ∧
        other.value = .error (.divisionByZero twin.position) := by
  induction expr generalizing other with
  | number literal =>
    cases other with
    | number twin =>
      obtain ⟨value, hvalue⟩ := values literal List.mem_cons_self placed
      have hsame : literal.withoutPosition = twin.withoutPosition := number.inj alike
      have htwin : twin.value = some value := (congrArg Token.value hsame).symm.trans hvalue
      exact Or.inl ⟨value, by rw [Expr.value, hvalue], by rw [Expr.value, htwin]⟩
    | binary | parenthesized => cases alike
  | parenthesized opening inner closing ih =>
    cases other with
    | number | binary => cases alike
    | parenthesized openingTwin innerTwin closingTwin =>
      have hsame := (parenthesized.inj alike).2.1
      have inside := ih hsame placed.2.1 fun leaf hleaf =>
        values leaf (List.mem_cons_of_mem _ (List.mem_append_left _ hleaf))
      refine inside.imp id ?_
      rintro ⟨slash, twin, hmem, hfaults⟩
      refine ⟨slash, twin, ?_, hfaults⟩
      rw [leaves, leaves, List.zip_cons_cons, List.zip_append (length_leaves_eq hsame)]
      exact List.mem_cons_of_mem _ (List.mem_append_left _ hmem)
  | binary left operator right ihLeft ihRight =>
    cases other with
    | number | parenthesized => cases alike
    | binary leftTwin operatorTwin rightTwin =>
      obtain ⟨sameLeft, sameOperator, sameRight⟩ := binary.inj alike
      obtain ⟨placedLeft, operation, placedRight⟩ := placed
      have leftOutcome := ihLeft sameLeft placedLeft fun leaf hleaf =>
        values leaf (List.mem_append_left _ hleaf)
      have rightOutcome := ihRight sameRight placedRight fun leaf hleaf =>
        values leaf (List.mem_append_right _ (List.mem_cons_of_mem _ hleaf))
      have hzip : (binary left operator right).leaves.zip
            (binary leftTwin operatorTwin rightTwin).leaves =
          left.leaves.zip leftTwin.leaves ++
            (operator, operatorTwin) :: right.leaves.zip rightTwin.leaves := by
        rw [leaves, leaves, List.zip_append (length_leaves_eq sameLeft), List.zip_cons_cons]
      rw [hzip, Expr.value, Expr.value]
      rcases leftOutcome with ⟨leftValue, hleft, hleftTwin⟩ |
        ⟨slash, twin, hmem, hkind, hkindTwin, hleft, hleftTwin⟩
      · rcases rightOutcome with ⟨rightValue, hright, hrightTwin⟩ |
          ⟨slash, twin, hmem, hkind, hkindTwin, hright, hrightTwin⟩
        · -- Both operands have values, so only the operator itself may divide by zero.
          rw [hleft, hleftTwin, hright, hrightTwin]
          have hkind : operatorTwin.kind = operator.kind :=
            (congrArg Token.kind sameOperator).symm
          refine (apply_alike hkind operation leftValue rightValue).imp id fun faults => ?_
          exact ⟨operator, operatorTwin, List.mem_append_right _ List.mem_cons_self, faults⟩
        · refine Or.inr ⟨slash, twin, ?_, hkind, hkindTwin, ?_, ?_⟩
          · exact List.mem_append_right _ (List.mem_cons_of_mem _ hmem)
          · rw [hleft, hright]
            rfl
          · rw [hleftTwin, hrightTwin]
            rfl
      · refine Or.inr ⟨slash, twin, List.mem_append_left _ hmem, hkind, hkindTwin, ?_, ?_⟩
        · rw [hleft]
          rfl
        · rw [hleftTwin]
          rfl

end Expr

end Calculator
