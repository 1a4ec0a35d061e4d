import Calculator.Proofs.Cursor.Remaining
import Calculator.Proofs.Grammar.Origins
import Calculator.Proofs.Token.Values

/-!
# `Calculator.Proofs.Cursor.Shape`: what the tree of any line looks like

A tree is complete whatever its line holds, and it can be walked through
without looking at the diagnostics. `Node.Proper` is what is asked of a node
by itself: its tokens are of the kinds that belong there, only a number or a
closing parenthesis may be made up, and its operands are grouped by
precedence and to the left.

* `Expr.proper_of_mem_preorder`: the nodes of a tree are proper if its tokens
  are in place and come from a line, and its operands are grouped as they
  should be.
* `OnLine.placed_takenFrom`: the tokens of the tree of a line are and do.
* `OnLine.mem_or_missing`: so each of them is a token of the line or was made
  up.

`parse_proper` says this of the trees of lines, malformed ones included.
-/

set_option autoImplicit false

namespace Calculator

/-! ### Proper nodes -/

/-- Whether the text of a token is a character that stands for its kind, as it is for operators
and parentheses of a line. -/
def Token.IsSymbol (token : Token) : Prop :=
  ∃ c, Kind.ofSymbol? c = some token.kind ∧ token.text = some (String.singleton c)

/-- Whether a node is in order, apart from the nodes below it. Nothing is
asked of a token by itself. -/
def Node.Proper : Node → Prop
  | token _ => True
  -- Only a number that was read has a value.
  | expr (.number literal) =>
    literal.kind = .number ∧ (literal.value ≠ none → literal.isMissing = false)
  -- The operator is one of the four, and the operands may stand around it.
  | expr (.binary left operator right) =>
    operator.kind.isOperator = true ∧ operator.IsSymbol ∧
      Expr.OperandsFit left operator.kind right
  -- The opening parenthesis was read, and the closing one may be made up.
  | expr (.parenthesized opening _ closing) =>
    opening.kind = .openParenthesis ∧ opening.IsSymbol ∧ closing.kind = .closeParenthesis

/-- If the tokens of an expression are in place and come from a line, and
its operands are grouped as they should be, then its nodes are proper. -/
theorem Expr.proper_of_mem_preorder {tokens : List Token} {expr : Expr} (placed : expr.Placed)
    (stratified : expr.Stratified) (taken : expr.TakenFrom tokens)
    (real : ∀ token ∈ tokens, token.isMissing = false)
    (symbols : ∀ token ∈ tokens, (∃ c, Kind.ofSymbol? c = some token.kind) → token.IsSymbol) :
    ∀ node ∈ (Node.expr expr).preorder, node.Proper := by
  -- By induction on the expression, as each of the five conditions splits along its parts.
  induction expr with
  | number literal =>
    have proper : (Node.expr (number literal)).Proper := by
      refine ⟨placed, fun hvalue => ?_⟩
      rcases taken with hmem | ⟨position, rfl⟩
      · exact real literal hmem
      · -- A number that was made up has no value, so nothing is asked of it.
        exact absurd rfl hvalue
    exact List.forall_mem_cons.mpr ⟨proper, List.forall_mem_singleton.mpr trivial⟩
  | binary left operator right ihLeft ihRight =>
    obtain ⟨placedLeft, operation, placedRight⟩ := placed
    obtain ⟨stratifiedLeft, stratifiedRight, operandsFit⟩ := stratified
    obtain ⟨takenLeft, hoperator, takenRight⟩ := taken
    have symbol : operator.IsSymbol :=
      symbols operator hoperator (Kind.exists_ofSymbol?_of_isOperator operation)
    have proper : (Node.expr (binary left operator right)).Proper :=
      ⟨operation, symbol, operandsFit⟩
    rw [Node.preorder_binary, List.forall_mem_cons, List.forall_mem_append,
      List.forall_mem_cons]
    exact ⟨proper, ihLeft placedLeft stratifiedLeft takenLeft, trivial,
      ihRight placedRight stratifiedRight takenRight⟩
  | parenthesized opening inner closing ih =>
    obtain ⟨openingKind, placedInner, closingKind⟩ := placed
    obtain ⟨hopening, takenInner, -⟩ := taken
    have symbol : opening.IsSymbol := symbols opening hopening ⟨'(', by rw [openingKind]; rfl⟩
    have proper : (Node.expr (parenthesized opening inner closing)).Proper :=
      ⟨openingKind, symbol, closingKind⟩
    rw [Node.preorder_parenthesized, List.forall_mem_cons, List.forall_mem_cons,
      List.forall_mem_append, List.forall_mem_singleton]
    exact ⟨proper, trivial, ih placedInner stratified takenInner, trivial⟩

/-! ### Trees of lines -/

namespace Cursor

variable {cursor : Cursor} {tokens : List Token} {last : Token}

/-- The tree of a line has its tokens in place, and they come from the line or were made up. Both
are inductions on how the tree was read. -/
theorem OnLine.placed_takenFrom (h : cursor.OnLine tokens last) :
    cursor.parse.1.root.Placed ∧ cursor.parse.1.root.TakenFrom cursor.tokens := by
  refine ⟨h.fits_root.placed_stratified.1, ?_⟩
  rw [h.root_parse]
  exact (cursor.reads_reading .term).takenFrom h.kind_endOfFile (fun _ => List.mem_of_mem_drop)
    (by simp [Grammar.Part.left?])

/-- Each token of the tree, the end included, is one of the line or was made up. There is no third
source of tokens. -/
theorem OnLine.mem_or_missing (h : cursor.OnLine tokens last) :
    ∀ leaf ∈ cursor.parse.1.root.leaves ++ [cursor.parse.1.endOfFile],
      leaf ∈ cursor.tokens ∨ ∃ kind position, leaf = .missing kind position := by
  refine List.forall_mem_append.mpr
    ⟨h.placed_takenFrom.2.mem_or_missing, List.forall_mem_singleton.mpr ?_⟩
  have current : (cursor.read .term).2.current ∈ cursor.tokens := by
    rw [h.tokens_eq]
    exact (h.read .term).current_mem
  have ending : cursor.parse.1.endOfFile = ((cursor.read .term).2.require .endOfFile).1 := rfl
  rw [ending, Cursor.require]
  split
  · exact Or.inl current
  · exact Or.inr ⟨_, _, rfl⟩

end Cursor

/-- The tree of every line is in order, malformed lines included. Each of its
nodes has the tokens that belong there, and operands that precedence and
left associativity admit. No more groups lie inside each other than the limit
allows, and the tree ends with an end-of-file token. -/
theorem parse_proper (line : String) (largest maxDepth : Int) :
    let tree := parse line largest maxDepth
    (∀ node ∈ (Node.expr tree.root).preorder, node.Proper) ∧
      (tree.root.nesting : Int) ≤ max maxDepth 0 ∧ tree.endOfFile.kind = .endOfFile := by
  intro tree
  obtain ⟨tokens, h⟩ := Cursor.onLine_ofLine line largest maxDepth
  refine ⟨?_, ?_, ?_⟩
  · obtain ⟨placed, taken⟩ := h.placed_takenFrom
    have scans := Lexeme.scans_readAll line largest 0 line.toList
    refine Expr.proper_of_mem_preorder placed h.fits_root.placed_stratified.2.1 taken ?_ ?_
    · rw [h.tokens_eq]
      exact h.isLine.real
    · intro token htoken symbol
      obtain ⟨c, hc, htext, -⟩ :=
        scans.symbol_of_ofSymbol? token (List.mem_of_mem_filter htoken) symbol
      exact ⟨c, hc, htext⟩
  · -- At the start of a line no group is open, so all of the limit is left.
    have nesting : tree.root.nesting ≤ (maxDepth - (0 : Nat)).toNat := h.nesting_root_le
    omega
  · exact h.kind_endOfFile_parse

end Calculator
