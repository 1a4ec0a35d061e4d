import Calculator.Proofs.Cursor.Remaining
import Calculator.Proofs.Grammar.Sentence

/-!
# `Calculator.Proofs.Cursor.Parse`: which lines are accepted, and as what

A line is accepted if its tree has no diagnostics. Two theorems say what
that means.

* `diagnostics_parse_eq_nil_iff`: a line is accepted exactly if its
  characters and digit runs are in order, its kinds of tokens are a
  sentence of the grammar, and no more groups are open anywhere than are
  allowed.
* `root_parse_unique`: the tree of an accepted line has the tokens of the
  line as its leaves, and it is the only placed and stratified tree that
  does.

Both rest on the same two facts about a line of which nothing was read
yet. If its tree has no diagnostics, the root fits the loosest level and
its leaves are all tokens (`OnLine.fits_of_accepted`). And if all tokens
are the leaves of such a tree, then that is the tree of the line
(`OnLine.parse_of_leaves`).
-/

set_option autoImplicit false

namespace Calculator

namespace Cursor

variable {cursor : Cursor} {tokens : List Token} {last : Token}

/-- If the end of the line comes next, what was consumed are all other tokens, as that end occurs
only once. -/
theorem OnLine.eq_of_current (h : cursor.OnLine tokens last) {front rest : List Token}
    (hfront : tokens ++ [last] = front ++ rest)
    (noEnd : ∀ token ∈ front, token.kind ≠ .endOfFile)
    (current : (cursor.grammar.current rest).kind = .endOfFile) :
    front = tokens ∧ rest = [last] := by
  have hlast : last ∉ front := fun hmem => noEnd last hmem h.isLine.ends
  rcases List.append_eq_append_iff.mp hfront with
    ⟨middle, hmiddle, hrest⟩ | ⟨middle, hmiddle, hrest⟩
  · -- What was consumed goes on behind the other tokens, so it would reach the end.
    cases middle with
    | nil => exact ⟨by simpa using hmiddle, hrest.symm⟩
    | cons token middle =>
      simp only [List.cons_append, List.cons.injEq] at hrest
      refine absurd ?_ hlast
      rw [hmiddle, hrest.1]
      exact List.mem_append_right _ List.mem_cons_self
  · cases middle with
    | nil => exact ⟨by simpa using hmiddle.symm, by simpa using hrest⟩
    | cons token middle =>
      -- The current token would be one of the others.
      rw [hrest] at current
      refine absurd current (h.isLine.noEnd token ?_)
      rw [hmiddle]
      exact List.mem_append_right _ List.mem_cons_self

/-- If reading the whole line finds nothing wrong, the root fits the loosest
level within the limit, its leaves are all tokens of the line, and the end
of its tree is the last. -/
theorem OnLine.fits_of_silent (h : cursor.OnLine tokens last) (start : cursor.position = 0)
    (silent : cursor.parse.1.diagnostics = cursor.diagnostics) :
    Expr.Fits .term cursor.parse.1.root ∧ cursor.parse.1.root.leaves = tokens ∧
      cursor.parse.1.endOfFile = last ∧
      cursor.parse.1.root.nesting ≤ (cursor.maxDepth - cursor.depth).toNat := by
  have fits := h.fits_root
  have nesting := h.nesting_root_le
  rw [h.parse_eq] at silent fits nesting ⊢
  simp only [List.append_assoc, List.append_right_eq_self, List.append_eq_nil_iff] at silent
  obtain ⟨nothingRead, nothingBehind⟩ := silent
  have htraces := h.traces_reading .term
  rw [nothingRead] at htraces
  -- The end of the line was required and found.
  have current : (cursor.grammar.current (cursor.reading .term).rest).kind = .endOfFile := by
    by_contra hne
    simp [Grammar.require, hne] at nothingBehind
  have remaining : tokens ++ [last] =
      (cursor.reading .term).expr.leaves ++ (cursor.reading .term).rest := by
    rw [← htraces.eq_append, Cursor.remaining, start, List.drop_zero, h.tokens_eq]
  have noEnd : ∀ leaf ∈ (cursor.reading .term).expr.leaves, leaf.kind ≠ .endOfFile := by
    obtain ⟨front, hfront, hnoEnd⟩ := htraces.suffix
    rw [List.append_cancel_right (htraces.eq_append.symm.trans hfront)]
    exact hnoEnd
  obtain ⟨leaves, rest⟩ := h.eq_of_current remaining noEnd current
  refine ⟨fits, leaves, ?_, nesting⟩
  simp [rest, Grammar.require, Grammar.current, h.isLine.ends]

/-- A line that is accepted from its start has no diagnostics for its tokens, its tree
fits the loosest level and has all of its tokens as leaves, and its groups are no deeper
than the limit. -/
theorem OnLine.fits_of_accepted (h : cursor.OnLine tokens last) (start : cursor.position = 0)
    (accepted : cursor.parse.1.diagnostics = []) :
    cursor.diagnostics = [] ∧ Expr.Fits .term cursor.parse.1.root ∧
      cursor.parse.1.root.leaves = tokens ∧ cursor.parse.1.endOfFile = last ∧
      cursor.parse.1.root.nesting ≤ (cursor.maxDepth - cursor.depth).toNat := by
  have nothing : cursor.diagnostics = [] := by
    rw [h.parse_eq] at accepted
    exact (List.append_eq_nil_iff.mp (List.append_eq_nil_iff.mp accepted).1).1
  exact ⟨nothing, h.fits_of_silent start (accepted.trans nothing.symm)⟩

/-- If all tokens of a line are the leaves of a tree that fits the loosest
level, then that is the tree of the line, pruned to the room below the
limit. Each group that is replaced is reported. -/
theorem OnLine.parse_of_leaves_pruned (h : cursor.OnLine tokens last)
    (start : cursor.position = 0) {expr : Expr} (fits : Expr.Fits .term expr)
    (leaves : expr.leaves = tokens) :
    let room := (cursor.maxDepth - cursor.depth).toNat
    cursor.parse.1 =
      ⟨cursor.diagnostics ++ List.replicate (expr.groupsAt room) (.tooDeep cursor.maxDepth),
        expr.pruned room, last⟩ := by
  intro room
  have reading : cursor.reading .term =
      ⟨expr.pruned room, List.replicate (expr.groupsAt room) (.tooDeep cursor.maxDepth),
        [last]⟩ := by
    rw [Cursor.reading, remaining, start, List.drop_zero, h.tokens_eq, ← leaves]
    exact Grammar.read_leaves_term_pruned fits cursor.depth
      (by simp [h.isLine.ends, Kind.isOperator])
  rw [h.parse_eq, reading]
  simp [Grammar.require, Grammar.current, h.isLine.ends]

/-- A tree that fits the grammar, has the tokens of the line as its leaves and no more groups than
there is room for is the tree of the line, and nothing is reported for it. -/
theorem OnLine.parse_of_leaves (h : cursor.OnLine tokens last) (start : cursor.position = 0)
    {expr : Expr} (fits : Expr.Fits .term expr) (leaves : expr.leaves = tokens)
    (shallow : expr.nesting ≤ (cursor.maxDepth - cursor.depth).toNat) :
    cursor.parse.1 = ⟨cursor.diagnostics, expr, last⟩ := by
  obtain ⟨hpruned, hgroups⟩ := Expr.pruned_of_nesting_le shallow
  simp only [h.parse_of_leaves_pruned start fits leaves, hpruned, hgroups, List.replicate_zero,
    List.append_nil]

end Cursor

/-! ### Accepted lines -/

/-- Nothing is wrong with the tokens of a line exactly if it has no bad
character and all its runs of digits are accepted. -/
theorem diagnostics_ofLine_eq_nil_iff (line : String) (largest maxDepth : Int) :
    (Cursor.ofLine line largest maxDepth).diagnostics = [] ↔
      (∀ c ∈ line.toList, ¬ IsBad c) ∧
        ∀ run, IsDigitRun run line.toList → IsAccepted largest run := by
  rw [← (Lexeme.scans_readAll line largest 0 line.toList).diagnostics_eq_nil_iff]
  show [] ++ _ = [] ↔ _
  rw [List.nil_append]
  rfl

/-- Without bad characters, the blanks are all that is passed over, so the cursor has all other
tokens of the line. -/
theorem filter_lex_eq_tokens {line : String} {largest : Int} (maxDepth : Int)
    (noBad : ∀ c ∈ line.toList, ¬ IsBad c) :
    (lex line largest).filter (fun token => token.kind ≠ .whitespace) =
      (Cursor.ofLine line largest maxDepth).tokens := by
  refine List.filter_congr fun token htoken => ?_
  have hbad : token.kind ≠ .bad :=
    (Lexeme.scans_readAll line largest 0 line.toList).kind_ne_bad noBad token htoken
  cases hkind : token.kind <;> simp_all [Kind.isSignificant]

/-- A line is accepted exactly if it has no bad character, every run of
digits has at most 4300 of them and a value up to the largest number, the
kinds of its tokens without blanks are a sentence of the grammar and the
end of the line, and nowhere are more groups open than are allowed. This is so
for any limit on groups, also for one so large that the interpreter would run out
of stack first, as how deep it lets a recursion go is no part of the model. -/
theorem diagnostics_parse_eq_nil_iff (line : String) (largest maxDepth : Int) :
    (parse line largest maxDepth).diagnostics = [] ↔
      let kinds := ((lex line largest).filter fun token => token.kind ≠ .whitespace).map
        Token.kind
      (∀ c ∈ line.toList, ¬ IsBad c) ∧
      (∀ run, IsDigitRun run line.toList →
        run.length ≤ 4300 ∧ (Text.natOfDigits run : Int) ≤ largest) ∧
      (∃ sentence, Grammar.Derives .term sentence ∧ kinds = sentence ++ [.endOfFile]) ∧
      ∀ front, front <+: kinds → openGroups front ≤ max maxDepth 0 := by
  obtain ⟨tokens, h⟩ := Cursor.onLine_ofLine line largest maxDepth
  set cursor := Cursor.ofLine line largest maxDepth with hcursor
  have tokenKinds : cursor.tokens.map Token.kind = tokens.map Token.kind ++ [.endOfFile] := by
    rw [h.tokens_eq, List.map_append]
    rfl
  -- The end of the line opens no group, and in front of it all are closed.
  have limit : ∀ expr : Expr, expr.Placed → expr.leaves = tokens →
      (Within (max maxDepth 0) (tokens.map Token.kind ++ [.endOfFile]) ↔
        expr.nesting ≤ (maxDepth - (0 : Nat)).toNat) := by
    rintro expr placed rfl
    have kinds := within_kinds_iff placed (max maxDepth 0)
    have balanced := openGroups_kinds placed
    rw [Expr.kinds] at kinds balanced
    rw [within_append, kinds, balanced, within_cons, within_nil,
      openGroups_singleton (by decide) (by decide)]
    omega
  constructor
  · -- The root of an accepted line shows that its kinds are a sentence.
    intro accepted
    obtain ⟨nothing, fits, leaves, _, shallow⟩ := h.fits_of_accepted rfl accepted
    obtain ⟨noBad, runs⟩ := (diagnostics_ofLine_eq_nil_iff line largest maxDepth).mp nothing
    intro kinds
    have hkinds : kinds = tokens.map Token.kind ++ [.endOfFile] := by
      rw [← tokenKinds, ← filter_lex_eq_tokens maxDepth noBad]
    refine ⟨noBad, runs, ⟨tokens.map Token.kind, ?_, hkinds⟩, ?_⟩
    · exact (Grammar.derives_map_kind_iff .term tokens).mpr ⟨_, fits, leaves⟩
    · rw [hkinds]
      exact (limit _ fits.placed_stratified.1 leaves).mpr shallow
  · -- A derivation of the kinds is a tree of the tokens, and that tree is read back.
    rintro ⟨noBad, runs, ⟨sentence, derives, hsentence⟩, within⟩
    rw [filter_lex_eq_tokens maxDepth noBad, ← hcursor, tokenKinds] at hsentence within
    rw [← List.append_cancel_right hsentence, Grammar.derives_map_kind_iff] at derives
    obtain ⟨expr, fits, leaves⟩ := derives
    have shallow := (limit expr fits.placed_stratified.1 leaves).mp within
    have nothing := (diagnostics_ofLine_eq_nil_iff line largest maxDepth).mpr ⟨noBad, runs⟩
    rw [parse, h.parse_of_leaves rfl fits leaves shallow]
    exact nothing

/-! ### The tree of an accepted line -/

/-- Nothing is wrong with the tokens of an accepted line, and the leaves of its
tree are among them. -/
theorem leaves_subset_lex {line : String} {largest maxDepth : Int}
    (accepted : (parse line largest maxDepth).diagnostics = []) :
    (Lexeme.readAll line largest 0 line.toList).flatMap Lexeme.diagnostics = [] ∧
      ∀ leaf ∈ (parse line largest maxDepth).root.leaves, leaf ∈ lex line largest := by
  obtain ⟨tokens, h⟩ := Cursor.onLine_ofLine line largest maxDepth
  obtain ⟨nothing, -, leaves, -⟩ := h.fits_of_accepted rfl accepted
  refine ⟨nothing, fun leaf hleaf => ?_⟩
  have hmem : leaf ∈ tokens := leaves ▸ hleaf
  have htokens : leaf ∈ (Cursor.ofLine line largest maxDepth).tokens := by
    rw [h.tokens_eq]
    exact List.mem_append_left _ hmem
  exact List.mem_of_mem_filter htokens

/-- The leaves of the tree of an accepted line are the tokens of the line,
blanks and its end left out. The tree is placed and stratified, no other
such tree has those leaves, and its end is the last token of the line. -/
theorem root_parse_unique (line : String) (largest maxDepth : Int)
    (accepted : (parse line largest maxDepth).diagnostics = []) :
    let tree := parse line largest maxDepth
    tree.root.leaves = ((lex line largest).filter fun token =>
        token.kind ≠ .whitespace ∧ token.kind ≠ .endOfFile) ∧
      tree.root.Placed ∧ tree.root.Stratified ∧
      (∀ other : Expr, other.leaves = tree.root.leaves → other.Placed → other.Stratified →
        other = tree.root) ∧
      (lex line largest).getLast? = some tree.endOfFile := by
  intro tree
  obtain ⟨tokens, h⟩ := Cursor.onLine_ofLine line largest maxDepth
  obtain ⟨nothing, fits, leaves, ending, _⟩ := h.fits_of_accepted rfl accepted
  obtain ⟨noBad, _⟩ := (diagnostics_ofLine_eq_nil_iff line largest maxDepth).mp nothing
  obtain ⟨placed, stratified⟩ := (Expr.fits_term_iff _).mp fits
  refine ⟨?_, placed, stratified, ?_, ?_⟩
  · -- The significant tokens are those left when blanks and the end are passed over.
    calc tree.root.leaves
        = tokens := leaves
      _ = (tokens ++ [Token.endOfFile line.length]).filter
            fun token => token.kind ≠ .endOfFile := by
          rw [List.filter_append, List.filter_eq_self.mpr (by simpa using h.isLine.noEnd)]
          exact (List.append_nil tokens).symm
      _ = ((lex line largest).filter fun token => token.kind ≠ .whitespace).filter
            fun token => token.kind ≠ .endOfFile := by
          rw [filter_lex_eq_tokens maxDepth noBad, h.tokens_eq]
      _ = _ := by
          rw [List.filter_filter]
          exact List.filter_congr fun token _ => by rw [Bool.decide_and, Bool.and_comm]
  · intro other hleaves hplaced hstratified
    exact Grammar.eq_of_leaves_eq fits
      ((Expr.fits_term_iff other).mpr ⟨hplaced, hstratified⟩) hleaves
  · obtain ⟨all, hall, _⟩ := isLine_lex line largest
    rw [hall, List.getLast?_concat]
    exact congrArg some ending.symm

/-- An accepted line with a group, a product, a quotient and blanks: no
other tree is meant by it. -/
theorem root_parse_unique_of_accepted_line :
    (parse " (1+2)*3 - 4/5" 9 1).diagnostics = [] ∧
      ∀ other : Expr, other.leaves = (parse " (1+2)*3 - 4/5" 9 1).root.leaves →
        other.Placed → other.Stratified → other = (parse " (1+2)*3 - 4/5" 9 1).root := by
  have accepted : (parse " (1+2)*3 - 4/5" 9 1).diagnostics = [] := by decide +kernel
  exact ⟨accepted, (root_parse_unique _ 9 1 accepted).2.2.2.1⟩

end Calculator
