import Calculator.Calculate
import Calculator.Proofs.Calculate.Rendering
import Calculator.Proofs.Cursor.Assembly

/-!
# `Calculator.Proofs.Calculate.Exact`: the calculator calculates

A line that writes an arithmetic expression is accepted, and its tree is
that of the rendering (`Rendering.Writes.parse`). So `calculate` gives the
value of the expression, whatever its shape and however it is written, and
where the expression divides by zero it gives the first division that
does. This is `calculate_rendering`.

Lexing, parsing and evaluation come together here. Each of them is exact
by itself: the tokens of a text are found part by part (`Lexeme.Adds`), a
stratified tree is read back from its leaves (`parse_of_adds`),
and the machine computes what the recursion does
(`Expr.evaluate_eq_value`).
-/

set_option autoImplicit false

namespace Calculator

open Text

variable {largest : Int} {rendering : Rendering} {arith : Arith}

namespace Rendering

/-- The text of a rendering between blanks adds the leaves of its tree to
the tokens, and nothing else is on the line. -/
theorem Writes.adds_line (writes : Writes largest rendering arith) {lead trail : List Char}
    (hlead : ∀ c ∈ lead, isBlank c = true) (htrail : ∀ c ∈ trail, isBlank c = true)
    (line : String) :
    Lexeme.Adds line largest 0 (lead ++ rendering.text ++ trail) []
      (rendering.tree lead.length).leaves := by
  have stop : StopsRun isDigit (trail ++ []) :=
    StopsRun.behind_blanks (by simp [StopsRun]) htrail
  have htext := (writes.adds line lead.length stop).append (Lexeme.adds_blanks htrail [])
  -- `Adds.append` asks for the offset as the sum that it makes of it.
  rw [← Nat.zero_add lead.length] at htext
  have hline := (Lexeme.adds_blanks hlead _).append htext
  rwa [List.nil_append, List.append_nil, Nat.zero_add, ← List.append_assoc] at hline

/-- A line that writes an expression is accepted, and its tree is that of
the rendering. -/
theorem Writes.parse (writes : Writes largest rendering arith) {lead trail : List Char}
    (hlead : ∀ c ∈ lead, isBlank c = true) (htrail : ∀ c ∈ trail, isBlank c = true)
    (maxDepth : Int) (shallow : rendering.nesting ≤ maxDepth.toNat) :
    let line := String.ofList (lead ++ rendering.text ++ trail)
    parse line largest maxDepth =
      ⟨[], rendering.tree lead.length, Token.endOfFile line.length⟩ := by
  intro line
  refine parse_of_adds ?_ ((Expr.fits_term_iff _).mpr (writes.placed_stratified lead.length)) ?_
  · rw [String.toList_ofList]
    exact writes.adds_line hlead htrail line
  · rwa [nesting_tree]

end Rendering

/-- The calculator is exact. A line that writes an arithmetic expression,
with parentheses up to 100 deep and blanks anywhere around its tokens,
gives the value of the expression in the integers. If the expression
divides by zero, the line gives the first division that does, at the
offset of its slash. -/
theorem calculate_rendering (writes : rendering.Writes largest arith)
    (lead trail : List Char) (hlead : ∀ c ∈ lead, isBlank c = true)
    (htrail : ∀ c ∈ trail, isBlank c = true) (shallow : rendering.nesting ≤ 100) :
    let text := lead ++ rendering.text ++ trail
    let result := calculate (String.ofList text) largest
    match arith.zeroDivisions with
    | [] => ∃ value, arith.value = some value ∧ result = .ok value
    | path :: _ =>
      let position := lead.length + rendering.offset path
      text[position]? = some '/' ∧
        result = .error (.located .divisionByZero "Division by zero" (some position)) := by
  intro text result
  have hresult : result =
      (arith.outcome.mapError fun path =>
        Fault.divisionByZero (lead.length + rendering.offset path)).mapError Fault.failure := by
    show calculate (String.ofList text) largest = _
    rw [calculate, writes.parse hlead htrail defaultMaxDepth shallow]
    show (rendering.tree lead.length).evaluate.mapError Fault.failure = _
    rw [Expr.evaluate_eq_value, writes.value_tree]
  -- The arithmetic side decides which of the two endings it is, and `hresult` carries it over.
  have hspec := arith.outcome_spec
  cases hzero : arith.zeroDivisions with
  | nil =>
    rw [hzero] at hspec
    obtain ⟨value, hvalue, houtcome⟩ := hspec
    exact ⟨value, hvalue, by rw [hresult, houtcome]; rfl⟩
  | cons path later =>
    rw [hzero] at hspec
    -- The fault is the first path of the list, and its slash stands at its offset.
    have hpath : path ∈ arith.zeroDivisions := by
      rw [hzero]
      exact List.mem_cons_self
    obtain ⟨front, behind, htext, hlength⟩ := writes.slash_at_offset hpath
    refine ⟨?_, by rw [hresult, hspec]; rfl⟩
    have hfront : text = (lead ++ front) ++ '/' :: (behind ++ trail) := by
      show lead ++ rendering.text ++ trail = _
      simp [htext]
    rw [hfront, ← hlength, ← List.length_append]
    simp

/-- A line with digits of two scripts, a leading zero, blanks and extra
parentheses, and a line that divides by zero. -/
theorem calculate_rendering_two_scripts_and_fault :
    calculate " 7-10 / ((1+٠٢))" 10 = .ok 4 ∧
      calculate "1+6/(2-2)" 6 =
        .error (.located .divisionByZero "Division by zero" (some 3)) := by
  constructor
  · have writes : Rendering.Writes 10
        (.operation .subtract (.digits ['7']) [] []
          (.operation .divide (.digits ['1', '0']) [' '] [' ']
            (.group [] (.group [] (.operation .add (.digits ['1']) [] []
              (.digits ['٠', '٢'])) []) [])))
        (.operation .subtract (.literal 7)
          (.operation .divide (.literal 10) (.operation .add (.literal 1) (.literal 2)))) := by
      decide
    obtain ⟨value, hvalue, hresult⟩ :=
      calculate_rendering writes [' '] [] (List.forall_mem_singleton.mpr (by decide))
        (List.forall_mem_nil _) (by decide)
    rw [← Option.some.inj hvalue] at hresult
    exact hresult
  · have writes : Rendering.Writes 6
        (.operation .add (.digits ['1']) [] []
          (.operation .divide (.digits ['6']) [] []
            (.group [] (.operation .subtract (.digits ['2']) [] [] (.digits ['2'])) [])))
        (.operation .add (.literal 1)
          (.operation .divide (.literal 6)
            (.operation .subtract (.literal 2) (.literal 2)))) := by
      decide
    exact (calculate_rendering writes [] [] (List.forall_mem_nil _) (List.forall_mem_nil _)
      (by decide)).2

end Calculator
