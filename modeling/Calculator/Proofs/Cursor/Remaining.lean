import Calculator.Cursor
import Calculator.Proofs.Grammar.Traces
import Calculator.Proofs.Token.Scans

/-!
# `Calculator.Proofs.Cursor.Remaining`: cursors as what is left to read

A cursor is a place in a list of tokens, and the grammar reads from lists
of tokens. `Cursor.remaining` is what is left at the place, and the
equations of this file say what the operations of a cursor do in terms of
it, above all `current_eq` and `require_eq`.

`Cursor.OnLine` says that a cursor stands in the significant tokens of a
line. It holds at the start of every line (`onLine_ofLine`) and at every
place further on, which `Cursor.after` names by what is left there. On a
line a reading leaves what the grammar leaves (`OnLine.remaining_read`),
and the tree of a line is one reading with the token required behind it
(`OnLine.parse_eq`), whose root fits the loosest level (`OnLine.fits_root`).
-/

set_option autoImplicit false

namespace Calculator

/-- The tokens of every text are those of a line, and the last of them
stands behind the last character. -/
theorem isLine_lex (line : String) (largest : Int) :
    ∃ tokens, lex line largest = tokens ++ [Token.endOfFile line.length] ∧
      Token.IsLine tokens (Token.endOfFile line.length) := by
  obtain ⟨tokens, htokens, hline, _⟩ :=
    (Lexeme.scans_readAll line largest 0 line.toList).lineFrom
  rw [Nat.zero_add, String.length_toList] at htokens hline
  exact ⟨tokens, htokens, hline⟩

namespace Cursor

/-- The tokens that are left, the end of the line among them. The grammar reads lists of tokens,
and this is the list that it reads for a cursor. -/
def remaining (cursor : Cursor) : List Token :=
  cursor.tokens.drop cursor.position

/-- The current token is the one that the grammar sees first in the tokens that are left, or the
end of the line if none is left. -/
theorem current_eq (cursor : Cursor) :
    cursor.current = cursor.grammar.current cursor.remaining := by
  rw [current, Grammar.current, remaining, List.headD_eq_head?_getD, List.head?_drop]
  rfl

/-- The current token is the first one that is left, if any is left. Behind the end of the line it
is the last token of the line. -/
theorem current_of_remaining {cursor : Cursor} {token : Token} {rest : List Token}
    (h : cursor.remaining = token :: rest) : cursor.current = token := by
  rw [current_eq, h]
  rfl

/-- What is required of a cursor is required of the tokens that are left: the token is the same,
and so is what is reported. -/
theorem require_eq (cursor : Cursor) (kind : Kind) :
    (cursor.require kind).1 = (cursor.grammar.require kind cursor.remaining).token ∧
      (cursor.require kind).2.diagnostics =
        cursor.diagnostics ++
          (cursor.grammar.require kind cursor.remaining).diagnostics := by
  unfold require Grammar.require
  rw [current_eq]
  dsimp only
  by_cases h : (cursor.grammar.current cursor.remaining).kind = kind
  · rw [if_pos h, if_pos h]
    exact ⟨current_eq cursor, (List.append_nil _).symm⟩
  · rw [if_neg h, if_neg h]
    exact ⟨rfl, rfl⟩

/-- The significant tokens of a line, with the last of them set apart, are
those of a cursor. -/
structure OnLine (cursor : Cursor) (tokens : List Token) (last : Token) : Prop where
  -- The tokens of the cursor.
  tokens_eq : cursor.tokens = tokens ++ [last]
  -- They are those of a line.
  isLine : Token.IsLine tokens last
  -- None of them is passed over.
  significant : ∀ token ∈ tokens, token.kind.isSignificant = true

/-- The cursor at the start of a line stands on it, before anything is read. All that is proved of
cursors on a line starts from here. -/
theorem onLine_ofLine (line : String) (largest maxDepth : Int) :
    ∃ tokens, (ofLine line largest maxDepth).OnLine tokens
      (Token.endOfFile line.length) := by
  obtain ⟨tokens, htokens, hline⟩ := isLine_lex line largest
  refine ⟨tokens.filter fun token => token.kind.isSignificant, ?_, hline.filter _, ?_⟩
  · show (lex line largest).filter (fun token => token.kind.isSignificant) = _
    rw [htokens, List.filter_append]
    rfl
  · intro token htoken
    simpa using (List.mem_filter.mp htoken).2

namespace OnLine

variable {cursor : Cursor} {tokens : List Token} {last : Token}

/-- A cursor on a line stays there as long as its tokens do, wherever it moves and whatever it
reports. -/
theorem of_tokens_eq {other : Cursor} (h : cursor.OnLine tokens last)
    (htokens : other.tokens = cursor.tokens) : other.OnLine tokens last :=
  ⟨htokens.trans h.tokens_eq, h.isLine, h.significant⟩

/-- On a line the grammar sees the end of the line behind all tokens, so running out of tokens
looks like reaching that end. -/
theorem endOfFile_grammar (h : cursor.OnLine tokens last) :
    cursor.grammar.endOfFile = last := by
  simp [grammar, Cursor.last, h.tokens_eq]

/-- The grammar sees a token of kind end-of-file behind all tokens, so no recursion of the grammar
goes on there. -/
theorem kind_endOfFile (h : cursor.OnLine tokens last) :
    cursor.grammar.endOfFile.kind = .endOfFile := by
  rw [h.endOfFile_grammar]
  exact h.isLine.ends

/-- No token that is left was made up, as all of them were cut off the line. -/
theorem real (h : cursor.OnLine tokens last) :
    ∀ token ∈ cursor.remaining, token.isMissing = false := by
  intro token htoken
  refine h.isLine.real token ?_
  rw [← h.tokens_eq]
  exact List.mem_of_mem_drop htoken

/-- The tokens that are left are in order: each stands in the line in front of the next one. -/
theorem inOrder (h : cursor.OnLine tokens last) :
    cursor.grammar.InOrder cursor.remaining := by
  rw [Grammar.InOrder, h.endOfFile_grammar, remaining, h.tokens_eq]
  -- The end of the line may stand there twice, at one position.
  have ordered : (tokens ++ [last]).Pairwise fun a b => a.position ≤ b.position :=
    h.isLine.increasing.imp Nat.le_of_lt
  rw [List.pairwise_append]
  refine ⟨ordered.sublist (List.drop_sublist _ _), List.pairwise_singleton _ _, ?_⟩
  intro a ha b hb
  rw [List.mem_singleton.mp hb]
  rcases List.mem_append.mp (List.mem_of_mem_drop ha) with ha | ha
  · exact (List.pairwise_append.mp ordered).2.2 a ha last (List.mem_singleton.mpr rfl)
  · exact Nat.le_of_eq (congrArg Token.position (List.mem_singleton.mp ha))

/-- What the grammar sees are tokens of the line, whether they are left or stand behind all
others. -/
theorem mem_of_mem_remaining (h : cursor.OnLine tokens last) {token : Token}
    (htoken : token ∈ cursor.remaining ++ [cursor.grammar.endOfFile]) :
    token ∈ tokens ++ [last] := by
  rw [h.endOfFile_grammar] at htoken
  rcases List.mem_append.mp htoken with htoken | htoken
  · rw [← h.tokens_eq]
    exact List.mem_of_mem_drop htoken
  · exact List.mem_append_right _ htoken

/-- The current token of a cursor is one of the tokens of its line, or the end of the
line. -/
theorem current_mem (h : cursor.OnLine tokens last) : cursor.current ∈ tokens ++ [last] := by
  rw [current_eq]
  exact h.mem_of_mem_remaining (Grammar.current_mem _ _)

/-- The current token has a kind that tokens have between blanks, so it is one of five kinds and
never a blank or a bad character. -/
theorem kind_current (h : cursor.OnLine tokens last) :
    cursor.current.kind.isOperator = true ∨ cursor.current.kind = .number ∨
      cursor.current.kind = .openParenthesis ∨ cursor.current.kind = .closeParenthesis ∨
        cursor.current.kind = .endOfFile := by
  rcases List.mem_append.mp h.current_mem with hmem | hmem
  · -- Blanks and bad characters are not significant, and no token is an expression.
    have significant := h.significant _ hmem
    have noExpression := h.isLine.noExpression _ hmem
    cases hkind : cursor.current.kind <;>
      simp_all [Kind.isSignificant, Kind.isExpression, Kind.isOperator]
  · rw [List.mem_singleton.mp hmem, h.isLine.ends]
    simp

end OnLine

/-! ### Places further on -/

/-- The place further on at which `rest` is left, with what was `found`
wrong on the way. -/
def after (cursor : Cursor) (rest : List Token) (found : List Diagnostic) : Cursor :=
  { cursor with
    position := cursor.position + (cursor.remaining.length - rest.length)
    diagnostics := cursor.diagnostics ++ found }

/-- If the given tokens are an end of those that are left, the cursor that is set in front of them
has just these left. -/
theorem remaining_after {cursor : Cursor} {rest : List Token} (h : rest <:+ cursor.remaining)
    (found : List Diagnostic) : (cursor.after rest found).remaining = rest := by
  show cursor.tokens.drop (cursor.position + (cursor.remaining.length - rest.length)) = rest
  rw [← List.drop_drop]
  exact (List.suffix_iff_eq_drop.mp h).symm

/-- Where nothing was taken and nothing found, the place is the same, and so is the whole
cursor. -/
theorem after_self {cursor : Cursor} {rest : List Token} (h : cursor.remaining = rest) :
    cursor.after rest [] = cursor := by
  simp [after, h]

/-- One place further on after another is the second place, with what was found on the way to both
of them in order. -/
theorem after_after {cursor : Cursor} {rest behind : List Token}
    (h : rest <:+ cursor.remaining) (hbehind : behind <:+ rest) (found more : List Diagnostic) :
    (cursor.after rest found).after behind more = cursor.after behind (found ++ more) := by
  have position : cursor.position + (cursor.remaining.length - rest.length) +
        (rest.length - behind.length) =
      cursor.position + (cursor.remaining.length - behind.length) := by
    have := h.length_le
    have := hbehind.length_le
    omega
  rw [after, remaining_after h]
  simp only [after, position, List.append_assoc]

/-- Taking the first token that is left gives this token and the place behind it, and reports
nothing. -/
theorem advance_eq {cursor : Cursor} {token : Token} {rest : List Token}
    (h : cursor.remaining = token :: rest) :
    cursor.advance = (token, cursor.after rest []) := by
  rw [advance, current_of_remaining h, after, h, List.append_nil, List.length_cons,
    Nat.add_sub_cancel_left]

/-- The place behind the first token that is left, for the calls that do not look at the token. -/
theorem advance_snd_eq {cursor : Cursor} {token : Token} {rest : List Token}
    (h : cursor.remaining = token :: rest) : cursor.advance.2 = cursor.after rest [] :=
  congrArg Prod.snd (advance_eq h)

/-- The tokens behind the current one are an end of those that are left, so a cursor can be set in
front of them. -/
theorem suffix_of_remaining {cursor : Cursor} {token : Token} {rest : List Token}
    (h : cursor.remaining = token :: rest) : rest <:+ cursor.remaining :=
  h ▸ List.suffix_cons token rest

/-- A place further on is on the same line, as only the place and the diagnostics are others. -/
theorem OnLine.further {cursor : Cursor} {tokens : List Token} {last : Token}
    (h : cursor.OnLine tokens last) (rest : List Token) (found : List Diagnostic) :
    (cursor.after rest found).OnLine tokens last :=
  h.of_tokens_eq rfl

/-- Requiring a token that is not the end of the line leads to the place where the grammar goes
on. The end of the line is apart, as taking it once more moves the cursor behind all tokens. -/
theorem OnLine.require_eq_after {cursor : Cursor} {tokens : List Token} {last : Token}
    (h : cursor.OnLine tokens last) {kind : Kind} (hkind : kind ≠ .endOfFile) :
    let required := cursor.grammar.require kind cursor.remaining
    cursor.require kind =
      (required.token, cursor.after required.rest required.diagnostics) := by
  intro required
  by_cases found : cursor.current.kind = kind
  · cases hremaining : cursor.remaining with
    | nil =>
      -- Behind all tokens stands the end of the line, which is not what is required.
      rw [current_eq, hremaining] at found
      exact absurd (found.symm.trans h.kind_endOfFile) hkind
    | cons token rest =>
      have current := current_of_remaining hremaining
      have htoken : token.kind = kind := by rwa [current] at found
      simp only [require, required, Grammar.require, hremaining, Grammar.current, current,
        List.headD_cons, if_pos htoken, List.tail_cons, advance_eq hremaining]
  · simp only [require, if_neg found, required, Grammar.require, ← current_eq, after,
      Nat.sub_self, Nat.add_zero]

/-! ### Readings -/

/-- What the grammar reads from the tokens that are left, with as much room for groups as the
cursor has. -/
def reading (cursor : Cursor) (level : Level) : Reading :=
  cursor.grammar.read cursor.depth level cursor.remaining

/-- The reading of a cursor has a derivation, so it can be taken apart by induction on the rules
of the grammar. -/
theorem reads_reading (cursor : Cursor) (level : Level) :
    cursor.grammar.Reads cursor.depth (.whole level) cursor.remaining
      (cursor.reading level) :=
  Grammar.reads_read _ _ _ _

variable {cursor : Cursor} {tokens : List Token} {last : Token}

/-- A reading leaves everything but the place and the diagnostics, so the cursor is still on the
line behind it. -/
theorem OnLine.read (h : cursor.OnLine tokens last) (level : Level) :
    (cursor.read level).2.OnLine tokens last :=
  h.of_tokens_eq rfl

/-- On a line the leaves of what is read trace the tokens consumed: each is one of them or was
made up, and all others were dropped in groups. -/
theorem OnLine.traces_reading (h : cursor.OnLine tokens last) (level : Level) :
    cursor.grammar.Traces cursor.remaining (cursor.reading level).expr.leaves
      (cursor.reading level).diagnostics (cursor.reading level).rest := by
  obtain ⟨added, hadded, htraces⟩ := (cursor.reads_reading level).traces h.kind_endOfFile
  rw [hadded]
  exact htraces

/-- On a line a reading leaves the tokens that the grammar leaves, so the two can be followed side
by side. -/
theorem OnLine.remaining_read (h : cursor.OnLine tokens last) (level : Level) :
    (cursor.read level).2.remaining = (cursor.reading level).rest :=
  remaining_after ((cursor.reads_reading level).suffix h.kind_endOfFile) _

/-- The tree of what is left is one reading with the end of the line
required behind it. -/
theorem OnLine.parse_eq (h : cursor.OnLine tokens last) :
    cursor.parse.1 =
      let ending := cursor.grammar.require .endOfFile (cursor.reading .term).rest
      ⟨cursor.diagnostics ++ (cursor.reading .term).diagnostics ++ ending.diagnostics,
        (cursor.reading .term).expr, ending.token⟩ := by
  obtain ⟨htoken, hdiagnostics⟩ := (cursor.read .term).2.require_eq .endOfFile
  rw [h.remaining_read] at htoken hdiagnostics
  show Tree.mk ((cursor.read .term).2.require .endOfFile).2.diagnostics
      (cursor.read .term).1 ((cursor.read .term).2.require .endOfFile).1 = _
  rw [htoken, hdiagnostics]
  rfl

/-- The root of the tree of a line is what is read from its tokens as a term, which is the loosest
level. -/
theorem OnLine.root_parse (h : cursor.OnLine tokens last) :
    cursor.parse.1.root = (cursor.reading .term).expr := by
  rw [h.parse_eq]

/-- The root of the tree of a line fits the loosest level of the grammar, also where tokens were
made up or dropped. -/
theorem OnLine.fits_root (h : cursor.OnLine tokens last) :
    Expr.Fits .term cursor.parse.1.root := by
  rw [h.root_parse]
  exact (cursor.reads_reading .term).fits (by simp [Grammar.Part.left?])

/-- No more groups lie inside each other in the tree of a line than the limit leaves room for. -/
theorem OnLine.nesting_root_le (h : cursor.OnLine tokens last) :
    cursor.parse.1.root.nesting ≤ (cursor.maxDepth - cursor.depth).toNat := by
  rw [h.root_parse, ← Nat.zero_max (cursor.maxDepth - cursor.depth).toNat]
  exact (cursor.reads_reading .term).nesting_le

/-- The end of the tree is the end of the line, or it was made up as one where more tokens
followed. Either way it has that kind. -/
theorem OnLine.kind_endOfFile_parse (h : cursor.OnLine tokens last) :
    cursor.parse.1.endOfFile.kind = .endOfFile := by
  rw [h.parse_eq]
  exact Grammar.kind_require _ _ _

end Cursor

end Calculator
