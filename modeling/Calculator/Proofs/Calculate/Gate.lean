import Calculator.Calculate
import Calculator.Proofs.Cursor.Parse
import Calculator.Proofs.Cursor.Shape
import Calculator.Proofs.Evaluation.Refinement

/-!
# `Calculator.Proofs.Calculate.Gate`: what the diagnostics keep out

A tree is evaluated only if nothing is wrong with its line. This file says
that nothing more has to be looked at: whatever takes the value from a
number leaves a diagnostic. So a line without diagnostics has a value
unless it divides by zero, and `calculate` never reports a malformed tree.

* `Expr.Evaluates.fault_cases`: the faults of an expression whose tokens
  are in place.
* `outcome_parse`: the outcomes of the tree of any line, diagnostics or
  not. A division by zero stands at a slash of the line, and any other
  fault stands at a number without a value.
* `numbers_of_accepted`: without diagnostics there is no such number.

`calculate_gate` puts them together.
-/

set_option autoImplicit false

namespace Calculator

/-- The faults of an expression whose tokens are in place and taken from
some tokens: a number without a value, or a slash between two values of
which the right one is zero. -/
theorem Expr.Evaluates.fault_cases {expr : Expr} {fault : Fault} {leaves tokens : List Token}
    (h : expr.Evaluates (.error fault)) (placed : expr.Placed)
    (hleaves : ∀ leaf ∈ expr.leaves, leaf ∈ leaves) (taken : expr.TakenFrom tokens) :
    (∃ literal ∈ leaves, literal.kind = .number ∧ literal.value = none ∧
        fault = .missingValue literal.position) ∨
      ∃ operator ∈ tokens, operator.kind = .slash ∧
        fault = .divisionByZero operator.position := by
  -- The induction needs the outcome as a variable.
  generalize houtcome : (Except.error fault : Except Fault Int) = outcome at h
  induction h with
  | literal => cases houtcome
  | @noValue token hvalue =>
    cases houtcome
    exact Or.inl ⟨token, hleaves token List.mem_cons_self, placed, hvalue, rfl⟩
  | parenthesized _ ih =>
    refine ih placed.2.1 (fun leaf hleaf => hleaves leaf ?_) taken.2.1 houtcome
    exact List.mem_cons_of_mem _ (List.mem_append_left _ hleaf)
  | leftFault _ ih =>
    refine ih placed.1 (fun leaf hleaf => hleaves leaf ?_) taken.1 houtcome
    exact List.mem_append_left _ hleaf
  | rightFault _ _ _ ih =>
    refine ih placed.2.2 (fun leaf hleaf => hleaves leaf ?_) taken.2.2 houtcome
    exact List.mem_append_right _ (List.mem_cons_of_mem _ hleaf)
  | sum => cases houtcome
  | difference => cases houtcome
  | product => cases houtcome
  | quotient => cases houtcome
  | @zeroDivisor left right operator leftValue kind _ _ _ _ =>
    cases houtcome
    exact Or.inr ⟨operator, taken.2.1, kind, rfl⟩
  | noOperator kind _ _ _ _ =>
    -- The operator is in place, so it is one.
    rw [placed.2.1] at kind
    cases kind

/-- A slash among the tokens of a line stands where the line has one, so the place of a division
by zero can be pointed at. -/
theorem slash_of_mem_lex {line : String} {largest : Int} {token : Token}
    (htoken : token ∈ lex line largest) (kind : token.kind = .slash) :
    line.toList[token.position]? = some '/' := by
  have cut := (Lexeme.scans_readAll line largest 0 line.toList).segmentation
  have admits := cut.admits token htoken
  rw [kind] at admits
  obtain ⟨rest, hrest⟩ := cut.prefix_drop htoken
  rw [show token.chars = ['/'] from admits, Nat.sub_zero] at hrest
  have first : (line.toList.drop token.position)[0]? = some '/' := by
    rw [← hrest]
    rfl
  rwa [List.getElem?_drop, Nat.add_zero] at first

/-! ### Outcomes of lines -/

/-- An outcome that a line in order may have: a value, or a division by
zero at one of its slashes. -/
def ValueOrZeroDivision (line : String) (outcome : Except Failure Int) : Prop :=
  (∃ value, outcome = .ok value) ∨
    ∃ position : Nat, line.toList[position]? = some '/' ∧
      outcome = .error (.located .divisionByZero "Division by zero" (some position))

/-- Evaluating the tree of any line gives a value or a division by zero at a slash of the line, or
it stops at a number without a value. No other failure comes from a line. -/
theorem outcome_parse (line : String) (largest maxDepth : Int) :
    let root := (parse line largest maxDepth).root
    let outcome := root.evaluate.mapError Fault.failure
    ValueOrZeroDivision line outcome ∨
      ∃ literal ∈ root.leaves, literal.kind = .number ∧ literal.value = none ∧
        outcome = .error (.located .invalidTree "Number expression has no integer value"
          (some literal.position)) := by
  intro root outcome
  obtain ⟨tokens, h⟩ := Cursor.onLine_ofLine line largest maxDepth
  obtain ⟨placed, taken⟩ := h.placed_takenFrom
  have houtcome : outcome = root.value.mapError Fault.failure :=
    congrArg (Except.mapError Fault.failure) root.evaluate_eq_value
  have hevaluates := root.evaluates_value
  rw [houtcome]
  -- The relation of evaluation names the faulty token, which the structural value does not.
  cases hvalue : root.value with
  | ok value => exact Or.inl (Or.inl ⟨value, rfl⟩)
  | error fault =>
    rw [hvalue] at hevaluates
    rcases hevaluates.fault_cases placed (fun _ hleaf => hleaf) taken with
      ⟨literal, hliteral, kind, none, rfl⟩ | ⟨operator, hoperator, kind, rfl⟩
    · right
      exact ⟨literal, hliteral, kind, none, rfl⟩
    · left
      right
      exact ⟨operator.position, slash_of_mem_lex (List.mem_of_mem_filter hoperator) kind, rfl⟩

/-- Without diagnostics no token was made up, and every number has a value
between zero and the largest number. -/
theorem numbers_of_accepted {line : String} {largest maxDepth : Int}
    (accepted : (parse line largest maxDepth).diagnostics = []) :
    let tree := parse line largest maxDepth
    (∀ token ∈ tree.root.leaves ++ [tree.endOfFile], token.isMissing = false) ∧
      ∀ token ∈ tree.root.leaves, token.kind = .number →
        ∃ value, token.value = some value ∧ 0 ≤ value ∧ value ≤ largest := by
  intro tree
  obtain ⟨tokens, h⟩ := Cursor.onLine_ofLine line largest maxDepth
  obtain ⟨-, -, leaves, ending, -⟩ := h.fits_of_accepted rfl accepted
  have hleaves : tree.root.leaves = tokens := leaves
  have hending : tree.endOfFile = Token.endOfFile line.length := ending
  constructor
  · rw [hleaves, hending]
    exact h.isLine.real
  · obtain ⟨nothing, ofLine⟩ := leaves_subset_lex accepted
    intro token htoken
    exact (Lexeme.scans_readAll line largest 0 line.toList).value_of_accepted nothing token
      (ofLine token htoken)

/-- A line has the value of its tree if the tree has no diagnostics, and otherwise it has those.
This is the gate of `calculate`. -/
theorem calculate_eq (line : String) (largest : Int) :
    let tree := parse line largest defaultMaxDepth
    calculate line largest =
      if tree.diagnostics = [] then tree.root.evaluate.mapError Fault.failure
      else .error (.diagnosed (tree.diagnostics.map Diagnostic.message)) := by
  intro tree
  show (if tree.hasErrors then _ else _) = _
  cases hdiagnostics : tree.diagnostics with
  | nil => simp [Tree.hasErrors, hdiagnostics, tree]
  | cons diagnostic later => simp [Tree.hasErrors, hdiagnostics]

/-- A line has a result exactly if it has no diagnostics and its tree has a
value, which is the result. -/
theorem calculate_eq_ok_iff {line : String} {largest value : Int} :
    calculate line largest = .ok value ↔
      (parse line largest defaultMaxDepth).diagnostics = [] ∧
        (parse line largest defaultMaxDepth).root.value = .ok value := by
  rw [calculate_eq, Expr.evaluate_eq_value]
  by_cases accepted : (parse line largest defaultMaxDepth).diagnostics = []
  · rw [if_pos accepted, and_iff_right accepted]
    cases (parse line largest defaultMaxDepth).root.value with
    | ok result => simp [Except.mapError]
    | error fault => exact ⟨nofun, nofun⟩
  · rw [if_neg accepted]
    exact ⟨nofun, fun h => absurd h.1 accepted⟩

/-- The diagnostics are all that has to be looked at before a tree is
evaluated. Without any, all tokens of the tree are real, its numbers have
values between zero and the largest number, and it has a value or divides
by zero at a slash of the line. So `calculate` gives a value, such a
division, or the diagnostics. If they are passed over, evaluation may also
find a number without a value, and nothing else. -/
theorem calculate_gate (line : String) (largest maxDepth : Int) :
    let tree := parse line largest maxDepth
    let outcome := tree.root.evaluate.mapError Fault.failure
    (tree.diagnostics = [] →
      (∀ token ∈ tree.root.leaves ++ [tree.endOfFile], token.isMissing = false) ∧
      (∀ token ∈ tree.root.leaves, token.kind = .number →
        ∃ value, token.value = some value ∧ 0 ≤ value ∧ value ≤ largest) ∧
      ValueOrZeroDivision line outcome) ∧
    (let diagnostics := (parse line largest defaultMaxDepth).diagnostics
      if diagnostics = [] then ValueOrZeroDivision line (calculate line largest)
      else calculate line largest = .error (.diagnosed (diagnostics.map Diagnostic.message))) ∧
    (ValueOrZeroDivision line outcome ∨
      ∃ literal ∈ tree.root.leaves, literal.kind = .number ∧ literal.value = none ∧
        outcome = .error (.located .invalidTree "Number expression has no integer value"
          (some literal.position))) := by
  -- An accepted tree has no number without a value, so only the other outcomes are left.
  have sound : ∀ maxDepth, (parse line largest maxDepth).diagnostics = [] →
      ValueOrZeroDivision line
        ((parse line largest maxDepth).root.evaluate.mapError Fault.failure) := by
    intro maxDepth accepted
    refine (outcome_parse line largest maxDepth).resolve_right ?_
    rintro ⟨literal, hliteral, kind, none, -⟩
    obtain ⟨value, hvalue, -⟩ := (numbers_of_accepted accepted).2 literal hliteral kind
    exact Option.some_ne_none value (hvalue.symm.trans none)
  intro tree outcome
  refine ⟨fun accepted => ?_, ?_, outcome_parse line largest maxDepth⟩
  · obtain ⟨real, numbers⟩ := numbers_of_accepted accepted
    exact ⟨real, numbers, sound maxDepth accepted⟩
  · intro diagnostics
    rw [calculate_eq]
    by_cases accepted : diagnostics = []
    · rw [if_pos accepted, if_pos accepted]
      exact sound defaultMaxDepth accepted
    · rw [if_neg accepted, if_neg accepted]

/-- A line whose only fault is a division by zero, and a line with a number
that is too large. -/
theorem calculate_gate_fault_and_large_number :
    (parse "8/(2-2)" 9 100).diagnostics = [] ∧
      ValueOrZeroDivision "8/(2-2)"
        ((parse "8/(2-2)" 9 100).root.evaluate.mapError Fault.failure) ∧
      calculate "8/10" 9 = .error (.diagnosed ["The number 8/10 is not a valid Int"]) := by
  have accepted : (parse "8/(2-2)" 9 100).diagnostics = [] := by decide +kernel
  have refused : (parse "8/10" 9 defaultMaxDepth).diagnostics = [.invalidNumber "8/10"] := by
    decide +kernel
  refine ⟨accepted, ((calculate_gate "8/(2-2)" 9 100).1 accepted).2.2, ?_⟩
  have outcome := (calculate_gate "8/10" 9 100).2.1
  rw [refused] at outcome
  exact outcome

end Calculator
