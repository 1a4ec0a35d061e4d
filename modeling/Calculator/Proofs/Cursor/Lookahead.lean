import Calculator.Proofs.Cursor.Remaining
import Calculator.Proofs.Grammar.Lookahead

/-!
# `Calculator.Proofs.Cursor.Lookahead`: lines that are not read to their end

Reading a line may stop in front of a token that goes on with nothing. The
end of its tree is then made up, and no token behind that one was looked at.
So another line that starts with the same significant tokens, up to the one
at which reading stopped, has the same tree, stops there as well, and has the
same complaints about it, whatever follows in either line.

* `OnLine.exists_next`: where the end of a tree is made up, there is a token
  that was looked at and left.
* `OnLine.parse_of_take_eq`: two runs that agree up to that token.

`parse_lookahead` says this of the trees of lines.
-/

set_option autoImplicit false

namespace Calculator

namespace Cursor

variable {cursor other : Cursor} {tokens otherTokens : List Token} {last otherLast : Token}

/-- If the end of a tree is made up, then reading stopped in front of a token
that is not the end of the line. -/
theorem OnLine.exists_next (h : cursor.OnLine tokens last)
    (early : cursor.parse.1.endOfFile.isMissing = true) :
    ∃ next, (cursor.reading .term).rest.head? = some next ∧ next.kind ≠ .endOfFile := by
  -- The token behind what was read is on the line, so it is not made up.
  have current : cursor.grammar.current (cursor.reading .term).rest =
      (cursor.read .term).2.current := by
    rw [current_eq, h.remaining_read]
    rfl
  have real : (cursor.read .term).2.current.isMissing = false :=
    h.isLine.real _ (h.read .term).current_mem
  have other : (cursor.grammar.current (cursor.reading .term).rest).kind ≠ .endOfFile := by
    intro found
    have taken : cursor.parse.1.endOfFile = cursor.grammar.current (cursor.reading .term).rest := by
      rw [h.parse_eq]
      simp only [Grammar.require, if_pos found]
    rw [taken, current, real] at early
    cases early
  cases hrest : (cursor.reading .term).rest with
  | nil =>
    rw [hrest] at other
    exact absurd h.kind_endOfFile other
  | cons next rest =>
    rw [hrest] at other
    exact ⟨next, rfl, other⟩

/-- There the end of the line is made up, and the place is behind the tokens
that were consumed. -/
theorem OnLine.parse_of_next (h : cursor.OnLine tokens last) {next : Token} {front : List Token}
    (hnext : (cursor.reading .term).rest.head? = some next) (noEnd : next.kind ≠ .endOfFile)
    (hfront : cursor.remaining = front ++ (cursor.reading .term).rest) :
    cursor.parse.1 =
        ⟨cursor.diagnostics ++ (cursor.reading .term).diagnostics ++
            [.unexpectedToken next.kind .endOfFile],
          (cursor.reading .term).expr, .missing .endOfFile next.position⟩ ∧
      cursor.parse.2.position = cursor.position + front.length := by
  have current := Grammar.current_of_head? cursor.grammar hnext
  constructor
  · rw [h.parse_eq]
    simp only [Grammar.require, current, if_neg noEnd]
  · have here : (cursor.read .term).2.current = next := by
      rw [current_eq, h.remaining_read]
      exact Grammar.current_of_head? _ hnext
    show ((cursor.read .term).2.require .endOfFile).2.position = _
    rw [Cursor.require, here, if_neg noEnd]
    show cursor.position + (cursor.remaining.length - (cursor.reading .term).rest.length) = _
    rw [hfront, List.length_append, Nat.add_sub_cancel]

/-- Two lines that agree up to the token at which reading the first of them
stopped have the same tree, stop at the same place, and have the same
complaints. -/
theorem OnLine.parse_of_take_eq (h : cursor.OnLine tokens last)
    (hother : other.OnLine otherTokens otherLast) (start : cursor.position = 0)
    (hposition : other.position = cursor.position) (hdepth : other.depth = cursor.depth)
    (hmaxDepth : other.maxDepth = cursor.maxDepth)
    (early : cursor.parse.1.endOfFile.isMissing = true)
    (agree : other.tokens.take (cursor.parse.2.position + 1) =
      cursor.tokens.take (cursor.parse.2.position + 1)) :
    ∃ complaints, cursor.parse.1.diagnostics = cursor.diagnostics ++ complaints ∧
      other.parse.1 =
        ⟨other.diagnostics ++ complaints, cursor.parse.1.root, cursor.parse.1.endOfFile⟩ ∧
      other.parse.2.position = cursor.parse.2.position := by
  obtain ⟨next, hnext, noEnd⟩ := h.exists_next early
  obtain ⟨rest, hrest⟩ := List.head?_eq_some_iff.mp hnext
  obtain ⟨front, hfront, same⟩ := (cursor.reads_reading .term).of_head? hnext
  obtain ⟨tree, place⟩ := h.parse_of_next hnext noEnd hfront
  have remaining : ∀ c : Cursor, c.position = 0 → c.remaining = c.tokens := by
    intro c hc
    rw [Cursor.remaining, hc, List.drop_zero]
  have stopped : cursor.parse.2.position = front.length := by
    rw [place, start, Nat.zero_add]
  -- The other line has the same tokens up to there, and then tokens of its own.
  have tail : other.tokens = front ++ next :: other.tokens.drop (front.length + 1) := by
    have common : other.tokens.take (front.length + 1) = front ++ [next] := by
      rw [← stopped, agree, stopped, ← remaining cursor start, hfront, hrest,
        List.take_length_add_append]
      rfl
    conv_lhs => rw [← List.take_append_drop (front.length + 1) other.tokens, common]
    simp
  set behind := next :: other.tokens.drop (front.length + 1) with hbehind
  have grammar : other.grammar =
      { cursor.grammar with endOfFile := other.grammar.endOfFile } := by
    show Grammar.mk other.maxDepth other.last = ⟨cursor.maxDepth, other.last⟩
    rw [hmaxDepth]
  have otherRemaining : other.remaining = front ++ behind := by
    rw [remaining other (hposition.trans start)]
    exact tail
  have reading : other.reading .term = { cursor.reading .term with rest := behind } := by
    have derivation := same other.grammar.endOfFile behind rfl
    rw [← grammar, ← otherRemaining, ← hdepth] at derivation
    exact derivation.eq_read.symm
  have otherNext : (other.reading .term).rest.head? = some next := by
    rw [reading]
    rfl
  have otherFront : other.remaining = front ++ (other.reading .term).rest := by
    rw [reading]
    exact otherRemaining
  obtain ⟨otherTree, otherPlace⟩ := hother.parse_of_next otherNext noEnd otherFront
  refine ⟨(cursor.reading .term).diagnostics ++ [.unexpectedToken next.kind .endOfFile], ?_, ?_, ?_⟩
  · rw [tree]
    exact List.append_assoc _ _ _
  · rw [otherTree, tree, reading]
    simp only [List.append_assoc]
  · rw [otherPlace, place, hposition]

end Cursor

/-- Reading looks at one token beyond those it takes, and no further. If it
stops early on a line, at an index where the end of the tree is made up, then
every line whose significant tokens are the same up to that index and at it
has the same tree and the same made-up end. Reading stops there as well, and
the same is wrong with the two trees, besides what is wrong with the tokens
of either line. -/
theorem parse_lookahead (line other : String) (largest otherLargest maxDepth : Int)
    (index : Nat) :
    let cursor := Cursor.ofLine line largest maxDepth
    let otherCursor := Cursor.ofLine other otherLargest maxDepth
    let tree := parse line largest maxDepth
    let otherTree := parse other otherLargest maxDepth
    tree.endOfFile.isMissing = true → cursor.parse.2.position = index →
    otherCursor.tokens.take (index + 1) = cursor.tokens.take (index + 1) →
      otherTree.root = tree.root ∧ otherTree.endOfFile = tree.endOfFile ∧
      otherCursor.parse.2.position = index ∧
      ∃ complaints,
        tree.diagnostics =
          (Token.Stream.ofLine line largest).drain.2.diagnostics ++ complaints ∧
        otherTree.diagnostics =
          (Token.Stream.ofLine other otherLargest).drain.2.diagnostics ++ complaints := by
  intro cursor otherCursor tree otherTree early stopped agree
  subst stopped
  obtain ⟨tokens, h⟩ := Cursor.onLine_ofLine line largest maxDepth
  obtain ⟨otherTokens, hother⟩ := Cursor.onLine_ofLine other otherLargest maxDepth
  obtain ⟨complaints, hdiagnostics, hparse, hplace⟩ :=
    h.parse_of_take_eq hother rfl rfl rfl rfl early agree
  have same : otherTree =
      ⟨otherCursor.diagnostics ++ complaints, tree.root, tree.endOfFile⟩ := hparse
  refine ⟨?_, ?_, hplace, complaints, hdiagnostics, ?_⟩
  · rw [same]
  · rw [same]
  · rw [same]
    rfl

/-- A line on which a group is passed over before reading stops at a number.
Behind that number another line goes on with an unclosed group and a bad
character. -/
theorem parse_lookahead_past_number :
    let line := "((1)*(2)) 3+"
    let other := "((1)*(2)) 3(($"
    (parse line 9 1).endOfFile.isMissing = true ∧
      (Cursor.ofLine line 9 1).parse.2.position = 9 ∧
      (Cursor.ofLine other 9 1).tokens.take 10 = (Cursor.ofLine line 9 1).tokens.take 10 ∧
      (parse other 9 1).root = (parse line 9 1).root ∧
      (parse other 9 1).endOfFile = .missing .endOfFile 10 := by
  intro line other
  have early : (parse line 9 1).endOfFile = .missing .endOfFile 10 := by decide +kernel
  have stopped : (Cursor.ofLine line 9 1).parse.2.position = 9 := by decide +kernel
  have agree : (Cursor.ofLine other 9 1).tokens.take 10 =
      (Cursor.ofLine line 9 1).tokens.take 10 := by decide +kernel
  have missing : (parse line 9 1).endOfFile.isMissing = true := by rw [early]; rfl
  obtain ⟨root, ending, -⟩ := parse_lookahead line other 9 9 1 9 missing stopped agree
  exact ⟨missing, stopped, agree, root, ending.trans early⟩

end Calculator
