import Calculator.Proofs.Calculate.Gate
import Calculator.Proofs.Cursor.Separators
import Calculator.Proofs.Token.Capped

/-!
# `Calculator.Proofs.Calculate.Capped`: a larger largest number

Reading does not look at values, and evaluation looks at nothing else of a
number. So a line has one tree under all largest numbers, up to the values
of its numbers. With a larger one, some numbers get a value that they did
not have before, and their diagnostics go away. An outcome changes only if
evaluation had stopped at a number without a value
(`Expr.value_mapTokens_capped`).

`parse_capped` puts this together for whole lines.
-/

set_option autoImplicit false

namespace Calculator

/-- Without the values above the largest number, an expression has the same
outcome, or it stops at a number without a value. -/
theorem Expr.value_mapTokens_capped (largest : Int) (expr : Expr) :
    (expr.mapTokens (Token.capped largest)).value = expr.value ∨
      ∃ position, (expr.mapTokens (Token.capped largest)).value =
        .error (.missingValue position) := by
  induction expr with
  | number literal =>
    rcases literal.capped_cases largest with same | ⟨lost, -⟩
    · left
      rw [mapTokens, same]
    · right
      refine ⟨literal.position, ?_⟩
      rw [mapTokens, value, lost]
      rfl
  | parenthesized opening inner closing ih => exact ih
  | binary left operator right ihLeft ihRight =>
    rw [mapTokens, value, value]
    rcases ihLeft with sameLeft | ⟨position, faultLeft⟩
    · rw [sameLeft]
      cases left.value with
      | error fault => exact Or.inl rfl
      | ok leftValue =>
        -- The left operand has a value, so the right one decides.
        rcases ihRight with sameRight | ⟨position, faultRight⟩
        · rw [sameRight]
          exact Or.inl rfl
        · rw [faultRight]
          exact Or.inr ⟨position, rfl⟩
    · rw [faultLeft]
      exact Or.inr ⟨position, rfl⟩

/-- Of the tokens of a tree and its end, only the numbers have values, as tokens that are made up
have none. -/
theorem kind_eq_number {line : String} {largest maxDepth : Int} {token : Token}
    (htoken : token ∈ (parse line largest maxDepth).root.leaves ++
      [(parse line largest maxDepth).endOfFile])
    (hvalue : token.value ≠ none) : token.kind = .number := by
  obtain ⟨tokens, h⟩ := Cursor.onLine_ofLine line largest maxDepth
  rcases h.mem_or_missing token htoken with hmem | ⟨kind, position, rfl⟩
  · obtain ⟨lexeme, hlexeme, rfl⟩ := List.mem_map.mp (List.mem_of_mem_filter hmem)
    exact ((Lexeme.scans_readAll line largest 0 line.toList).isCut lexeme hlexeme).kind_of_value
      hvalue
  · exact absurd rfl hvalue

/-- A token of the tree stays as it is where values above some number are taken away, or
it is a number and loses its value. -/
theorem capped_cases_of_mem {line : String} {largest maxDepth : Int} {token : Token}
    (htoken : token ∈ (parse line largest maxDepth).root.leaves ++
      [(parse line largest maxDepth).endOfFile]) (smaller : Int) :
    token.capped smaller = token ∨
      token.kind = .number ∧ (token.capped smaller).value = none :=
  (token.capped_cases smaller).imp_right fun ⟨lost, hvalue⟩ =>
    ⟨kind_eq_number htoken hvalue, lost⟩

/-- With a smaller largest number, a line has the same tree without the
values above it, and the same complaints about it. -/
theorem parse_eq_mapTokens_capped {smaller larger : Int} (hle : smaller ≤ larger)
    (line : String) (maxDepth : Int) :
    ∃ complaints,
      (parse line larger maxDepth).diagnostics =
        (Token.Stream.ofLine line larger).drain.2.diagnostics ++ complaints ∧
      parse line smaller maxDepth =
        ⟨(Token.Stream.ofLine line smaller).drain.2.diagnostics ++ complaints,
          (parse line larger maxDepth).root.mapTokens (Token.capped smaller),
          (parse line larger maxDepth).endOfFile.capped smaller⟩ := by
  obtain ⟨tokens, h⟩ := Cursor.onLine_ofLine line larger maxDepth
  obtain ⟨otherTokens, hother⟩ := Cursor.onLine_ofLine line smaller maxDepth
  have htokens : (Cursor.ofLine line smaller maxDepth).tokens =
      (Cursor.ofLine line larger maxDepth).tokens.map (Token.capped smaller) := by
    show (lex line smaller).filter _ = ((lex line larger).filter _).map _
    rw [lex_eq_map_capped hle, List.filter_map]
    rfl
  exact h.parse_mapTokens hother (Token.isRenaming_capped smaller) htokens rfl rfl rfl

/-- Everything that is wrong with a line is wrong with it under a smaller largest number
as well. -/
theorem diagnostics_parse_sublist {smaller larger : Int} (hle : smaller ≤ larger)
    (line : String) (maxDepth : Int) :
    (parse line larger maxDepth).diagnostics.Sublist
      (parse line smaller maxDepth).diagnostics := by
  obtain ⟨complaints, hdiagnostics, hparse⟩ := parse_eq_mapTokens_capped hle line maxDepth
  rw [hdiagnostics, hparse]
  exact (diagnostics_drain_sublist hle line).append (.refl complaints)

/-- Under a smaller largest number the tree of a line has the same outcome, or it has a
number without a value. -/
theorem value_root_capped {smaller larger : Int} (hle : smaller ≤ larger) (line : String)
    (maxDepth : Int) :
    (parse line smaller maxDepth).root.value = (parse line larger maxDepth).root.value ∨
      ∃ position, (parse line smaller maxDepth).root.value =
        .error (.missingValue position) := by
  obtain ⟨_, -, hparse⟩ := parse_eq_mapTokens_capped hle line maxDepth
  rw [hparse]
  exact Expr.value_mapTokens_capped smaller (parse line larger maxDepth).root

/-- A result that a line has is also its result under a larger largest number, since every number
in it keeps its value. -/
theorem calculate_of_le {smaller larger value : Int} (hle : smaller ≤ larger) {line : String}
    (h : calculate line smaller = .ok value) : calculate line larger = .ok value := by
  obtain ⟨accepted, hvalue⟩ := calculate_eq_ok_iff.mp h
  refine calculate_eq_ok_iff.mpr ⟨?_, ?_⟩
  · exact List.sublist_nil.mp (accepted ▸ diagnostics_parse_sublist hle line defaultMaxDepth)
  · rcases value_root_capped hle line defaultMaxDepth with same | ⟨position, fault⟩
    · exact same.symm.trans hvalue
    · rw [fault] at hvalue
      cases hvalue

/-- A larger largest number only adds values. The tree of a line is the same
under both, as is its end, but the numbers above the smaller one have no
value there. The same is wrong with both trees, besides what is wrong with
the tokens, and of that nothing is added. So the outcome is the same, unless
a number without a value was in the way, and a result stays what it is. -/
theorem parse_capped (line : String) (smaller larger maxDepth : Int) (hle : smaller ≤ larger) :
    let tree := parse line smaller maxDepth
    let other := parse line larger maxDepth
    let outcome := tree.root.evaluate.mapError Fault.failure
    let otherOutcome := other.root.evaluate.mapError Fault.failure
    tree.root = other.root.mapTokens (Token.capped smaller) ∧
      tree.endOfFile = other.endOfFile ∧
      (∀ token ∈ other.root.leaves, token.capped smaller = token ∨
        token.kind = .number ∧ (token.capped smaller).value = none) ∧
      (∃ complaints,
        tree.diagnostics =
          (Token.Stream.ofLine line smaller).drain.2.diagnostics ++ complaints ∧
        other.diagnostics =
          (Token.Stream.ofLine line larger).drain.2.diagnostics ++ complaints) ∧
      other.diagnostics.Sublist tree.diagnostics ∧
      (outcome = otherOutcome ∨ ∃ position,
        outcome = .error (.located .invalidTree "Number expression has no integer value"
          (some position))) ∧
      ∀ value, calculate line smaller = .ok value → calculate line larger = .ok value := by
  intro tree other outcome otherOutcome
  obtain ⟨tokens, h⟩ := Cursor.onLine_ofLine line larger maxDepth
  obtain ⟨complaints, hdiagnostics, hparse⟩ := parse_eq_mapTokens_capped hle line maxDepth
  refine ⟨congrArg Tree.root hparse, ?_, fun token htoken => ?_,
    ⟨complaints, congrArg Tree.diagnostics hparse, hdiagnostics⟩,
    diagnostics_parse_sublist hle line maxDepth, ?_, fun value h => calculate_of_le hle h⟩
  · -- The end is no number, so it has no value to lose.
    have ending : other.endOfFile ∈ other.root.leaves ++ [other.endOfFile] := by simp
    have noNumber : other.endOfFile.kind ≠ .number := by
      rw [show other.endOfFile.kind = .endOfFile from h.kind_endOfFile_parse]
      decide
    have same := (capped_cases_of_mem ending smaller).resolve_right fun lost => noNumber lost.1
    exact (congrArg Tree.endOfFile hparse).trans same
  · exact capped_cases_of_mem (List.mem_append_left _ htoken) smaller
  · simp only [outcome, otherOutcome, Expr.evaluate_eq_value]
    rcases value_root_capped hle line maxDepth with same | ⟨position, fault⟩
    · exact Or.inl (congrArg _ same)
    · refine Or.inr ⟨position, ?_⟩
      rw [fault]
      rfl

/-- A line with a number that has a value under the larger one only, and a
number that has none under either. Evaluation stops at the first of them, and
then at the second. A line that has a result keeps it. -/
theorem parse_capped_nine_below_twenty :
    (9 : Int) ≤ 20 ∧
      (parse "8-12/(100" 20 1).diagnostics.Sublist (parse "8-12/(100" 9 1).diagnostics ∧
      (parse "8-12/(100" 9 1).root.evaluate = .error (.missingValue 2) ∧
      (parse "8-12/(100" 20 1).root.evaluate = .error (.missingValue 6) ∧
      calculate "7-8/(3)" 9 = .ok 5 ∧ calculate "7-8/(3)" 20 = .ok 5 := by
  have hle : (9 : Int) ≤ 20 := by decide
  have fewer := (parse_capped "8-12/(100" 9 20 1 hle).2.2.2.2.1
  have result : calculate "7-8/(3)" 9 = .ok 5 :=
    calculate_eq_ok_iff.mpr ⟨by decide +kernel, by decide +kernel⟩
  have kept := (parse_capped "7-8/(3)" 9 20 1 hle).2.2.2.2.2.2 5 result
  refine ⟨hle, fewer, ?_, ?_, result, kept⟩
  · rw [Expr.evaluate_eq_value]
    decide +kernel
  · rw [Expr.evaluate_eq_value]
    decide +kernel

end Calculator
