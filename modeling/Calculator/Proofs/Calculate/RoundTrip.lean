import Calculator.Proofs.Calculate.Exact
import Calculator.Proofs.Calculate.Gate
import Calculator.Proofs.Expr.Alike
import Calculator.Proofs.Expr.Spelling
import Mathlib.Data.List.Infix

/-!
# `Calculator.Proofs.Calculate.RoundTrip`: the text of a tree is read back

The text of the tree of an accepted line is a line itself. It is a
rendering in which every operation is in parentheses, so precedence has
nothing left to decide, and every group of the tree is in parentheses as
well (`exists_rendering`). What is read back is therefore the tree of that
rendering. It has more groups than the first tree, and is equal to it
without them.

The groups of the text nest as deep as its parentheses
(`Writes.exists_prefix`), so a limit that admits the parentheses of the
text admits the tree. `parse_format` is the main theorem.
-/

set_option autoImplicit false

namespace Calculator

open Text

/-- The parentheses that a text leaves open. The number is negative if more
are closed than were opened. -/
def openParentheses (text : List Char) : Int :=
  text.count '(' - text.count ')'

/-- What is left open adds up over two parts, with what the second part closes counted against
it. -/
theorem openParentheses_append (front behind : List Char) :
    openParentheses (front ++ behind) = openParentheses front + openParentheses behind := by
  simp only [openParentheses, List.count_append]
  omega

/-- A text without parentheses leaves none open, whatever else it has. -/
theorem openParentheses_eq_zero {text : List Char}
    (h : ∀ c ∈ text, c ≠ '(' ∧ c ≠ ')') : openParentheses text = 0 := by
  rw [openParentheses, List.count_eq_zero.mpr fun hmem => (h _ hmem).1 rfl,
    List.count_eq_zero.mpr fun hmem => (h _ hmem).2 rfl]
  rfl

/-- Blanks are no parentheses, so they can be passed over when parentheses are counted. -/
theorem openParentheses_blanks {blanks : List Char} (h : ∀ c ∈ blanks, isBlank c = true) :
    openParentheses blanks = 0 := by
  refine openParentheses_eq_zero fun c hc => ?_
  constructor <;> rintro rfl <;> exact absurd (h _ hc) (by decide)

/-- The symbols of operations open no parentheses, so only what stands around them counts. -/
theorem openParentheses_symbol (kind : Arith.Operation) :
    openParentheses [kind.symbol] = 0 := by
  cases kind <;> rfl

namespace Rendering

variable {largest : Int} {rendering : Rendering} {arith : Arith}

/-- What is no bare operation is no bare sum, as sums are operations. -/
theorem isBareSum_of_isBareOperation (h : rendering.isBareOperation = false) :
    rendering.isBareSum = false := by
  cases rendering with
  | digits run => rfl
  | operation => cases h
  | group before inner behind => rfl

/-- In a rendering every parenthesis that is opened is closed, by induction on how it writes its
expression. -/
theorem Writes.openParentheses_text (h : Writes largest rendering arith) :
    openParentheses rendering.text = 0 := by
  induction h with
  | digits hne digits short small =>
    refine openParentheses_eq_zero fun c hc => ?_
    constructor <;> rintro rfl <;> exact absurd (digits _ hc) (by decide)
  | @operation kind left right before behind _ _ _ blanksBefore blanksBehind _ _ ihLeft
      ihRight =>
    rw [text, ← List.singleton_append]
    simp only [openParentheses_append, openParentheses_symbol,
      openParentheses_blanks blanksBefore, openParentheses_blanks blanksBehind, ihLeft, ihRight]
    rfl
  | @group before behind inner _ blanksBefore _ blanksBehind ih =>
    rw [text, ← List.singleton_append]
    simp only [openParentheses_append, openParentheses_blanks blanksBefore,
      openParentheses_blanks blanksBehind, ih]
    rfl

/-- Somewhere in a rendering as many parentheses are open as lie inside each other. So the count
is not only a bound, it is reached. -/
theorem Writes.exists_prefix (h : Writes largest rendering arith) :
    ∃ front, front <+: rendering.text ∧ openParentheses front = rendering.nesting := by
  induction h with
  | digits => exact ⟨[], List.nil_prefix, rfl⟩
  | @operation kind left right before behind _ _ leftWrites blanksBefore blanksBehind _ _ ihLeft
      ihRight =>
    obtain ⟨front, hfront, hleft⟩ := ihLeft
    obtain ⟨inside, hinside, hright⟩ := ihRight
    -- The deeper operand decides where to stop. Behind the left one nothing is open any more.
    by_cases deeper : right.nesting ≤ left.nesting
    · refine ⟨front, hfront.trans (List.prefix_append _ _), ?_⟩
      rw [hleft, nesting, Nat.max_eq_left deeper]
    · refine ⟨left.text ++ (before ++ ([kind.symbol] ++ (behind ++ inside))), ?_, ?_⟩
      · simpa [text] using hinside
      · rw [nesting, Nat.max_eq_right (Nat.le_of_not_le deeper), ← hright]
        simp only [openParentheses_append, openParentheses_symbol, Int.zero_add,
          leftWrites.openParentheses_text, openParentheses_blanks blanksBefore,
          openParentheses_blanks blanksBehind]
  | @group before behind inner _ blanksBefore _ _ ih =>
    obtain ⟨inside, hinside, hnesting⟩ := ih
    refine ⟨['('] ++ (before ++ inside), ?_, ?_⟩
    · simpa [text] using hinside.trans (List.prefix_append _ _)
    · simp only [openParentheses_append, hnesting, openParentheses_blanks blanksBefore,
        Int.zero_add]
      exact Int.add_comm 1 _

end Rendering

/-! ### The text of a tree -/

/-- A token is spelled like those of accepted lines, if it is a number or an
operator. -/
structure Token.IsSpelled (largest : Int) (token : Token) : Prop where
  number : token.kind = .number →
    ∃ run, run ≠ [] ∧ (∀ c ∈ run, isDigit c = true) ∧ IsAccepted largest run ∧
      token.text = some (String.ofList run) ∧ token.value = some (natOfDigits run : Int)
  operator : token.kind.isOperator = true →
    ∃ operation : Arith.Operation, token.kind = operation.kind ∧
      token.text = some (String.singleton operation.symbol) ∧ token.value = none

/-- The four operators are the symbols of the four operations, so every operator token of a line
means one of them. -/
theorem Arith.Operation.exists_of_ofSymbol? {c : Char} {kind : Kind}
    (h : Kind.ofSymbol? c = some kind) (operation : kind.isOperator = true) :
    ∃ operation : Arith.Operation, kind = operation.kind ∧ c = operation.symbol := by
  unfold Kind.ofSymbol? at h
  split at h <;> cases h
  · exact ⟨.add, rfl, rfl⟩
  · exact ⟨.subtract, rfl, rfl⟩
  · exact ⟨.multiply, rfl, rfl⟩
  · exact ⟨.divide, rfl, rfl⟩
  all_goals cases operation

/-- The leaves of an accepted line are spelled as their kinds and values say, which is what is
needed to write the line again. -/
theorem isSpelled_of_accepted {line : String} {largest maxDepth : Int}
    (accepted : (parse line largest maxDepth).diagnostics = []) :
    ∀ leaf ∈ (parse line largest maxDepth).root.leaves, leaf.IsSpelled largest := by
  obtain ⟨nothing, ofLine⟩ := leaves_subset_lex accepted
  have scans := Lexeme.scans_readAll line largest 0 line.toList
  intro leaf hleaf
  refine ⟨scans.number_of_accepted nothing leaf (ofLine leaf hleaf), fun operation => ?_⟩
  obtain ⟨c, hsymbol, htext, hvalue⟩ :=
    scans.symbol_of_isOperator leaf (ofLine leaf hleaf) operation
  obtain ⟨operation, hkind, rfl⟩ := Arith.Operation.exists_of_ofSymbol? hsymbol operation
  exact ⟨operation, hkind, htext, hvalue⟩

/-- The text of a tree is a rendering if its tokens are spelled as those of a line.
Without groups and positions, the tree of the rendering is the tree itself. -/
theorem exists_rendering {largest : Int} {expr : Expr} (placed : expr.Placed)
    (spelled : ∀ leaf ∈ expr.leaves, leaf.IsSpelled largest) :
    ∃ rendering arith, Rendering.Writes largest rendering arith ∧
      rendering.text = expr.spelled.toList ∧ rendering.isBareOperation = false ∧
      ∀ start, (rendering.tree start).ungrouped.mapTokens Token.withoutPosition =
        expr.ungrouped.mapTokens Token.withoutPosition := by
  induction expr with
  | number literal =>
    have kind : literal.kind = .number := placed
    obtain ⟨run, hne, digits, ⟨short, small⟩, htext, hvalue⟩ :=
      (spelled literal List.mem_cons_self).number kind
    refine ⟨.digits run, .literal (natOfDigits run), .digits hne digits short small, ?_, rfl,
      fun start => ?_⟩
    · simp [Rendering.text, Expr.spelled, Token.shown, htext]
    · simp [Rendering.tree, Expr.ungrouped, Expr.mapTokens, Token.withoutPosition, kind, htext,
        hvalue]
  | parenthesized opening inner closing ih =>
    obtain ⟨rendering, arith, writes, htext, -, htree⟩ := ih placed.2.1 fun leaf hleaf =>
      spelled leaf (List.mem_cons_of_mem _ (List.mem_append_left _ hleaf))
    refine ⟨.group [] rendering [], arith, .group (by simp) writes (by simp), ?_, rfl,
      fun start => htree _⟩
    simp [Rendering.text, Expr.spelled, htext]
  | binary left operator right ihLeft ihRight =>
    obtain ⟨placedLeft, isOperator, placedRight⟩ := placed
    obtain ⟨leftRendering, leftArith, leftWrites, leftText, leftBare, leftTree⟩ :=
      ihLeft placedLeft fun leaf hleaf => spelled leaf (List.mem_append_left _ hleaf)
    obtain ⟨rightRendering, rightArith, rightWrites, rightText, rightBare, rightTree⟩ :=
      ihRight placedRight fun leaf hleaf =>
        spelled leaf (List.mem_append_right _ (List.mem_cons_of_mem _ hleaf))
    obtain ⟨operation, hkind, htext, hvalue⟩ :=
      (spelled operator (List.mem_append_right _ List.mem_cons_self)).operator isOperator
    -- Both operands are in parentheses or numbers, so they fit any symbol.
    have fit : leftRendering.OperandsFit operation rightRendering := by
      unfold Rendering.OperandsFit
      split
      · exact Rendering.isBareSum_of_isBareOperation rightBare
      · exact ⟨Rendering.isBareSum_of_isBareOperation leftBare, rightBare⟩
    have blank : ∀ c ∈ [' '], isBlank c = true := List.forall_mem_singleton.mpr (by decide)
    refine ⟨.group [] (.operation operation leftRendering [' '] [' '] rightRendering) [],
      .operation operation leftArith rightArith,
      .group (by simp) (.operation leftWrites blank blank rightWrites fit) (by simp), ?_, rfl,
      fun start => ?_⟩
    · simp [Rendering.text, Expr.spelled, Token.shown, leftText, rightText, htext]
    · simp [Rendering.tree, Expr.ungrouped, Expr.mapTokens, Token.withoutPosition, leftTree,
        rightTree, hkind, htext, hvalue]

/-! ### Reading the text of a tree -/

/-- The text of the tree of an accepted line is accepted, if the limit admits
its parentheses. Without groups and positions, its tree is the tree of the
line. The two trees have the same value, or they divide by zero at the same
slash. -/
theorem parse_format (line : String) (largest maxDepth limit : Int)
    (accepted : (parse line largest maxDepth).diagnostics = [])
    (admitted : ∀ front, front <+: (parse line largest maxDepth).root.format.toList →
      openParentheses front ≤ limit) :
    let root := (parse line largest maxDepth).root
    let again := parse root.format largest limit
    again.diagnostics = [] ∧
      again.root.ungrouped.mapTokens Token.withoutPosition =
        root.ungrouped.mapTokens Token.withoutPosition ∧
      ((∃ value, root.evaluate = .ok value ∧ again.root.evaluate = .ok value) ∨
        ∃ slash twin, (slash, twin) ∈ root.ungrouped.leaves.zip again.root.ungrouped.leaves ∧
          slash.kind = .slash ∧ twin.kind = .slash ∧
          root.evaluate = .error (.divisionByZero slash.position) ∧
          again.root.evaluate = .error (.divisionByZero twin.position)) := by
  intro root again
  obtain ⟨tokens, h⟩ := Cursor.onLine_ofLine line largest maxDepth
  obtain ⟨-, fits, -⟩ := h.fits_of_accepted rfl accepted
  have placed : root.Placed := fits.placed_stratified.1
  obtain ⟨rendering, arith, writes, htext, -, htree⟩ :=
    exists_rendering placed (isSpelled_of_accepted accepted)
  have format : root.format = String.ofList rendering.text := by
    rw [root.format_eq_spelled, htext, String.ofList_toList]
  -- Where most parentheses are open, the limit admits as many as nest.
  have shallow : rendering.nesting ≤ limit.toNat := by
    obtain ⟨front, hfront, hnesting⟩ := writes.exists_prefix
    have := admitted front (by rwa [show (parse line largest maxDepth).root.format = _ from format,
      String.toList_ofList])
    omega
  have hagain : again = ⟨[], rendering.tree 0, Token.endOfFile root.format.length⟩ := by
    have read := writes.parse (List.forall_mem_nil _) (List.forall_mem_nil _) limit shallow
    rw [List.nil_append, List.append_nil, ← format] at read
    exact read
  have alike : root.ungrouped.mapTokens Token.withoutPosition =
      again.root.ungrouped.mapTokens Token.withoutPosition := by
    rw [hagain]
    exact (htree 0).symm
  have values : ∀ leaf ∈ root.ungrouped.leaves, leaf.kind = .number →
      ∃ value, leaf.value = some value := by
    intro leaf hleaf kind
    obtain ⟨value, hvalue, -⟩ :=
      (numbers_of_accepted accepted).2 leaf (root.leaves_ungrouped_sublist.subset hleaf) kind
    exact ⟨value, hvalue⟩
  have outcomes := Expr.value_alike alike placed.ungrouped values
  rw [Expr.value_ungrouped, Expr.value_ungrouped, ← Expr.evaluate_eq_value,
    ← Expr.evaluate_eq_value] at outcomes
  exact ⟨by rw [hagain], alike.symm, outcomes⟩

/-- A line with a group, digits of another script and no blanks, of which the
text has two pairs of parentheses around the group. -/
theorem parse_format_doubled_parentheses :
    let root := (parse "1-(٢+3)*04" 9 1).root
    root.format = "(1 - (((٢ + 3)) * 04))" ∧
      (parse root.format 9 4).diagnostics = [] ∧
      (parse root.format 9 4).root.ungrouped.mapTokens Token.withoutPosition =
        root.ungrouped.mapTokens Token.withoutPosition := by
  have accepted : (parse "1-(٢+3)*04" 9 1).diagnostics = [] := by decide +kernel
  have format : (parse "1-(٢+3)*04" 9 1).root.format = "(1 - (((٢ + 3)) * 04))" := by
    rw [Expr.format_eq_spelled]
    decide +kernel
  have admitted : ∀ front, front <+: (parse "1-(٢+3)*04" 9 1).root.format.toList →
      openParentheses front ≤ 4 := by
    intro front hfront
    rw [format, ← List.mem_inits] at hfront
    exact (by decide : ∀ front ∈ "(1 - (((٢ + 3)) * 04))".toList.inits,
      openParentheses front ≤ 4) front hfront
  obtain ⟨nothing, alike, -⟩ := parse_format "1-(٢+3)*04" 9 1 4 accepted admitted
  exact ⟨format, nothing, alike⟩

end Calculator
