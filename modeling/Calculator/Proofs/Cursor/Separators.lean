import Calculator.Proofs.Cursor.Remaining
import Calculator.Proofs.Grammar.Renaming
import Calculator.Proofs.Token.Separators

/-!
# `Calculator.Proofs.Cursor.Separators`: what stands between two texts

Blanks and bad characters separate what stands on both sides of them, and
they do nothing else. Two lines that differ in them only have the same
significant tokens, some of them at other positions
(`Lexeme.significant_separated`). Reading does not look at positions, so it
gives the same tree with the positions moved (`OnLine.parse_mapTokens`). That
includes the positions of tokens that were made up, each of which stands
where some token of the line does (`OnLine.exists_position_parse`).

`parse_separated` says this of the trees of lines, malformed ones included.
-/

set_option autoImplicit false

namespace Calculator

namespace Cursor

variable {cursor other : Cursor} {tokens otherTokens : List Token} {last otherLast : Token}

/-- Two cursors at the start of lines of which the one has the tokens of the
other, replaced by tokens of the same kinds, give the same tree with its
tokens replaced, and have the same complaints about it. -/
theorem OnLine.parse_mapTokens (h : cursor.OnLine tokens last)
    (hother : other.OnLine otherTokens otherLast) {f : Token → Token}
    (hf : Token.IsRenaming f) (htokens : other.tokens = cursor.tokens.map f)
    (hposition : other.position = cursor.position) (hdepth : other.depth = cursor.depth)
    (hmaxDepth : other.maxDepth = cursor.maxDepth) :
    ∃ complaints, cursor.parse.1.diagnostics = cursor.diagnostics ++ complaints ∧
      other.parse.1 = ⟨other.diagnostics ++ complaints, cursor.parse.1.root.mapTokens f,
        f cursor.parse.1.endOfFile⟩ := by
  -- The grammar of a line is its limit and its last token, and both are carried over.
  have grammar : other.grammar = cursor.grammar.mapTokens f := by
    have ends : otherTokens ++ [otherLast] = tokens.map f ++ [f last] := by
      rw [← hother.tokens_eq, htokens, h.tokens_eq, List.map_append]
      rfl
    have hlast : otherLast = f last := List.singleton_inj.mp (List.append_inj_right' ends rfl)
    show Grammar.mk other.maxDepth other.grammar.endOfFile =
      ⟨cursor.maxDepth, f cursor.grammar.endOfFile⟩
    rw [hother.endOfFile_grammar, h.endOfFile_grammar, hlast, hmaxDepth]
  have remaining : other.remaining = cursor.remaining.map f := by
    rw [Cursor.remaining, htokens, hposition, ← List.map_drop]
    rfl
  have reading : other.reading .term = (cursor.reading .term).mapTokens f := by
    rw [Cursor.reading, grammar, hdepth, remaining, Grammar.read_mapTokens hf]
    rfl
  -- The complaints are those of the reading and the one about what follows it.
  refine ⟨(cursor.reading .term).diagnostics ++
    (cursor.grammar.require .endOfFile (cursor.reading .term).rest).diagnostics, ?_, ?_⟩
  · rw [h.parse_eq]
    exact List.append_assoc _ _ _
  · rw [hother.parse_eq, h.parse_eq, reading, grammar]
    simp only [Reading.mapTokens, Grammar.require_mapTokens hf, Required.mapTokens,
      List.append_assoc]

/-- Every token of the tree of a line, made up or not, stands where some
token of the line does. -/
theorem OnLine.exists_position_parse (h : cursor.OnLine tokens last) :
    ∀ leaf ∈ cursor.parse.1.root.leaves ++ [cursor.parse.1.endOfFile],
      ∃ token ∈ cursor.tokens, token.position = leaf.position := by
  have ofLine : ∀ token ∈ cursor.remaining ++ [cursor.grammar.endOfFile],
      token ∈ cursor.tokens := fun token htoken => by
    rw [h.tokens_eq]
    exact h.mem_of_mem_remaining htoken
  rw [h.parse_eq]
  refine List.forall_mem_append.mpr ⟨fun leaf hleaf => ?_, List.forall_mem_singleton.mpr ?_⟩
  · obtain ⟨token, htoken, hposition⟩ := (h.traces_reading .term).exists_position leaf hleaf
    exact ⟨token, ofLine token htoken, hposition⟩
  · -- The end of the tree is the token behind the expression, or it is made up there.
    have current := (h.read .term).current_mem
    rw [current_eq, h.remaining_read, ← h.tokens_eq] at current
    exact ⟨_, current, (Grammar.position_require _ _ _).symm⟩

end Cursor

/-- What stands between two texts to separate them does not matter. For any
two separators, the lines have the same tree and the same end up to the
positions behind the separator, which are moved by the difference in length.
No token stands in the separator, so the move is as long as the
difference. The same is wrong with the trees, besides what is wrong with the
tokens, and they have the same outcome, with a fault moved as well. -/
theorem parse_separated (front behind first second : String)
    (hfirst : Separates front behind first) (hsecond : Separates front behind second)
    (largest maxDepth : Int) :
    let line := front ++ first ++ behind
    let otherLine := front ++ second ++ behind
    let tree := parse line largest maxDepth
    let other := parse otherLine largest maxDepth
    let move := fun position =>
      if position < front.length then position else position + second.length - first.length
    other.root = tree.root.mapTokens (Token.relocate move) ∧
      other.endOfFile = tree.endOfFile.relocate move ∧
      (∀ leaf ∈ tree.root.leaves ++ [tree.endOfFile],
        leaf.position < front.length ∨ front.length + first.length ≤ leaf.position) ∧
      (∃ complaints,
        tree.diagnostics =
          (Token.Stream.ofLine line largest).drain.2.diagnostics ++ complaints ∧
        other.diagnostics =
          (Token.Stream.ofLine otherLine largest).drain.2.diagnostics ++ complaints) ∧
      other.root.evaluate = tree.root.evaluate.mapError (Fault.relocate move) := by
  intro line otherLine tree other move
  obtain ⟨tokens, h⟩ := Cursor.onLine_ofLine line largest maxDepth
  obtain ⟨otherTokens, hother⟩ := Cursor.onLine_ofLine otherLine largest maxDepth
  obtain ⟨early, late, hearly, separated⟩ :=
    Lexeme.significant_separated front behind largest
  have htokens : (Cursor.ofLine line largest maxDepth).tokens =
      early ++ late.map (Token.relocate (· + (front.length + first.length))) :=
    separated first hfirst
  -- The tokens in front stay where they are, and those behind are moved.
  have moved : (Cursor.ofLine otherLine largest maxDepth).tokens =
      (Cursor.ofLine line largest maxDepth).tokens.map (Token.relocate move) := by
    have stay : early.map (Token.relocate move) = early := by
      refine (List.map_congr_left fun token htoken => ?_).trans (List.map_id early)
      have same : move token.position = token.position := if_pos (hearly token htoken)
      rw [Token.relocate, same]
      rfl
    have go : Token.relocate move ∘ Token.relocate (· + (front.length + first.length)) =
        Token.relocate (· + (front.length + second.length)) := by
      funext token
      have shifted : move (token.position + (front.length + first.length)) =
          token.position + (front.length + second.length) := by
        simp only [move]
        rw [if_neg (by omega)]
        omega
      simp only [Function.comp_apply, Token.relocate, shifted]
    rw [show (Cursor.ofLine otherLine largest maxDepth).tokens = _ from separated second hsecond,
      htokens, List.map_append, List.map_map, stay, go]
  obtain ⟨complaints, hdiagnostics, hparse⟩ :=
    h.parse_mapTokens hother (Token.isRenaming_relocate move) moved rfl rfl rfl
  have hroot : other.root = tree.root.mapTokens (Token.relocate move) := congrArg Tree.root hparse
  refine ⟨hroot, congrArg Tree.endOfFile hparse, ?_,
    ⟨complaints, hdiagnostics, congrArg Tree.diagnostics hparse⟩, ?_⟩
  · intro leaf hleaf
    obtain ⟨token, htoken, hposition⟩ := h.exists_position_parse leaf hleaf
    rw [htokens] at htoken
    rw [← hposition]
    rcases List.mem_append.mp htoken with htoken | htoken
    · exact Or.inl (hearly token htoken)
    · obtain ⟨original, -, rfl⟩ := List.mem_map.mp htoken
      exact Or.inr (Nat.le_add_left _ original.position)
  · rw [Expr.evaluate_eq_value, Expr.evaluate_eq_value, hroot, Expr.value_relocate]

/-- No separator where no digits meet, and a separator with blanks and a bad
character. A division by zero behind the separator is moved. -/
theorem parse_separated_moves_fault :
    Separates "5-" "6/0" "" ∧ Separates "5-" "6/0" " $ " ∧
      (parse "5-6/0" 9 1).root.evaluate = .error (.divisionByZero 3) ∧
      (parse "5- $ 6/0" 9 1).root.evaluate = .error (.divisionByZero 6) := by
  have nothing : Separates "5-" "6/0" "" := ⟨by simp, fun _ => by
    rintro _ ⟨⟩ _ ⟨⟩
    decide⟩
  have something : Separates "5-" "6/0" " $ " := by
    refine ⟨?_, fun empty => absurd empty (by decide)⟩
    have bad : IsBad '$' := ⟨by decide, by decide, rfl⟩
    have blank : Text.isBlank ' ' = true := by decide
    simp [bad, blank]
  have fault : (parse "5-6/0" 9 1).root.evaluate = .error (.divisionByZero 3) := by
    rw [Expr.evaluate_eq_value]
    decide +kernel
  refine ⟨nothing, something, fault, ?_⟩
  obtain ⟨-, -, -, -, outcome⟩ := parse_separated "5-" "6/0" "" " $ " nothing something 9 1
  -- The fault lies behind the separator, so it moves by the three characters of that.
  refine outcome.trans ?_
  rw [show "5-" ++ "" ++ "6/0" = "5-6/0" from rfl, fault]
  rfl

end Calculator
