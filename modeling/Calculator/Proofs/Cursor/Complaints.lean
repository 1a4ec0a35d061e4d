import Calculator.Proofs.Cursor.Remaining

/-!
# `Calculator.Proofs.Cursor.Complaints`: one diagnostic for each made-up token

Reading makes up a token wherever the line lacks one, and it records a
diagnostic each time it does so and at no other time. So what a tree says
about its line can be read off its made-up tokens, one by one and in their
order. The token of the line that was found instead is known as well: it
is the only one at the position of the made-up token.

* `Grammar.Reports`: what a diagnostic says about a made-up token and the
  token found in its place.
* `Grammar.Traces.reports`: the diagnostics of a trace report its made-up
  leaves, in order. A token is never made up of the kind that was found.
* `Token.filter_position_eq`: positions tell the tokens of a line apart.

`diagnostics_parse_madeUp` puts them together for the trees of lines.
-/

set_option autoImplicit false

namespace Calculator

namespace Grammar

variable {grammar : Grammar} {input leaves behind : List Token}
  {diagnostics : List Diagnostic} {madeUp : Token} {complaint : Diagnostic}

/-- A diagnostic reports a made-up token: one of the tokens that are left
was found in its place, and that token is of another kind. A parenthesis
found instead of a number opened a group that is too deep. -/
def Reports (grammar : Grammar) (input : List Token) (madeUp : Token)
    (complaint : Diagnostic) : Prop :=
  ∃ found ∈ input ++ [grammar.endOfFile],
    found.position = madeUp.position ∧ found.kind ≠ madeUp.kind ∧
      complaint =
        if madeUp.kind = .number ∧ found.kind = .openParenthesis then
          .tooDeep grammar.maxDepth
        else
          .unexpectedToken found.kind madeUp.kind

theorem Reports.append_left (front : List Token)
    (h : grammar.Reports behind madeUp complaint) :
    grammar.Reports (front ++ behind) madeUp complaint := by
  obtain ⟨found, hfound, hreports⟩ := h
  refine ⟨found, ?_, hreports⟩
  rw [List.append_assoc]
  exact List.mem_append_right front hfound

/-- A token of another kind than the current one may be made up in front of
it, but no number where a group opens. -/
theorem reports_missing {kind : Kind} (hne : (grammar.current input).kind ≠ kind)
    (noGroup : kind = .number → (grammar.current input).kind ≠ .openParenthesis) :
    grammar.Reports input (.missing kind (grammar.current input).position)
      (.unexpectedToken (grammar.current input).kind kind) := by
  refine ⟨grammar.current input, current_mem grammar input, rfl, hne, ?_⟩
  rw [if_neg fun both => noGroup both.1 both.2]
  rfl

/-- The diagnostics of a trace report its made-up leaves, each of them once
and in order. -/
theorem Traces.reports (h : Traces grammar input leaves diagnostics behind)
    (real : ∀ token ∈ input, token.isMissing = false) :
    List.Forall₂ (grammar.Reports input) (leaves.filter Token.isMissing) diagnostics := by
  induction h with
  | done => exact .nil
  | @taken token rest leaves behind diagnostics kind _ ih =>
    have hreal := List.forall_mem_cons.mp real
    rw [List.filter_cons_of_neg (by simp [hreal.1])]
    exact (ih hreal.2).imp fun _ _ => Reports.append_left [token]
  | @madeUp kind input leaves behind diagnostics hne noGroup _ ih =>
    rw [List.filter_cons_of_pos rfl]
    exact .cons (reports_missing hne noGroup) (ih real)
  | @skipped opening rest leaves behind diagnostics kind _ ih =>
    obtain ⟨dropped, hrest, -⟩ := closes_dropGroup 1 (by decide) rest
    rw [List.filter_cons_of_pos rfl]
    refine .cons ⟨opening, List.mem_cons_self, rfl, ?_, ?_⟩ ?_
    · simp [kind, Token.missing]
    · rw [if_pos ⟨rfl, kind⟩]
    · -- What is found behind the group is found behind its parenthesis.
      rw [hrest] at real ⊢
      have behindReal := (List.forall_mem_append.mp (List.forall_mem_cons.mp real).2).2
      exact (ih behindReal).imp fun _ _ => Reports.append_left (opening :: dropped)

/-- The token that is required is reported if it is made up, and nothing is reported if it is
there. Numbers in front of a group are apart, as the group is read or dropped there. -/
theorem reports_require {kind : Kind}
    (real : (grammar.current input).isMissing = false)
    (noGroup : kind = .number → (grammar.current input).kind ≠ .openParenthesis) :
    List.Forall₂ (grammar.Reports input)
      ([(grammar.require kind input).token].filter Token.isMissing)
      (grammar.require kind input).diagnostics := by
  unfold require
  dsimp only
  split
  · rw [List.filter_cons_of_neg (by simp [real])]
    exact .nil
  · next hne => exact .cons (reports_missing hne noGroup) .nil

end Grammar

/-- If positions increase, every token is the only one at its position, so a report that names a
position names one token. -/
theorem Token.filter_position_eq {tokens : List Token}
    (increasing : tokens.Pairwise fun a b => a.position < b.position) {token : Token}
    (htoken : token ∈ tokens) :
    tokens.filter (fun other => other.position = token.position) = [token] := by
  induction tokens with
  | nil => exact absurd htoken List.not_mem_nil
  | cons first rest ih =>
    obtain ⟨before, hrest⟩ := List.pairwise_cons.mp increasing
    rcases List.mem_cons.mp htoken with rfl | htoken
    · -- The tokens behind it have larger positions.
      have none : rest.filter (fun other => other.position = token.position) = [] := by
        refine List.filter_eq_nil_iff.mpr fun other hother => ?_
        have := before other hother
        simp only [decide_eq_true_eq]
        omega
      rw [List.filter_cons_of_pos (by simp), none]
    · have := before token htoken
      rw [List.filter_cons_of_neg (by simp only [decide_eq_true_eq]; omega)]
      exact ih hrest htoken

namespace Cursor

variable {cursor : Cursor} {tokens : List Token} {last : Token}

/-- What is found wrong in the rest of a line are its made-up tokens, the
one behind the expression included. -/
theorem OnLine.reports_parse (h : cursor.OnLine tokens last) :
    ∃ complaints, cursor.parse.1.diagnostics = cursor.diagnostics ++ complaints ∧
      List.Forall₂ (cursor.grammar.Reports cursor.remaining)
        ((cursor.parse.1.root.leaves ++ [cursor.parse.1.endOfFile]).filter Token.isMissing)
        complaints := by
  have htraces := h.traces_reading .term
  obtain ⟨front, hfront, -⟩ := htraces.suffix
  -- The token that is required behind the expression is the next one.
  have real : (cursor.grammar.current (cursor.reading .term).rest).isMissing = false := by
    rw [← h.remaining_read]
    refine h.isLine.real _ ?_
    have := (h.read .term).current_mem
    rwa [current_eq] at this
  have hending := Grammar.reports_require real fun h => absurd h (by decide : Kind.endOfFile ≠ _)
  rw [h.parse_eq]
  refine ⟨_, List.append_assoc _ _ _, ?_⟩
  rw [List.filter_append]
  refine List.rel_append (htraces.reports h.real) (hending.imp fun madeUp complaint => ?_)
  rw [hfront]
  exact Grammar.Reports.append_left front

end Cursor

/-- The diagnostics of a tree are those of the tokens of its line, followed
by one for each made-up token among its leaves and its end, in order.
Exactly one token stands at the position of a made-up token, and the two
are of different kinds. The message names both, unless a group that is too
deep was found where a number is needed. -/
theorem diagnostics_parse_madeUp (line : String) (largest maxDepth : Int) :
    let tree := parse line largest maxDepth
    let buffer := (lex line largest).filter fun token => token.kind.isSignificant
    ∃ complaints,
      tree.diagnostics = (Token.Stream.ofLine line largest).drain.2.diagnostics ++ complaints ∧
      List.Forall₂
        (fun madeUp complaint => ∃ found,
          buffer.filter (fun token => token.position = madeUp.position) = [found] ∧
          found.kind ≠ madeUp.kind ∧
          complaint.message =
            if madeUp.kind = .number ∧ found.kind = .openParenthesis then
              "Error: Parentheses nested deeper than " ++ toString maxDepth ++ " levels"
            else
              "Error: Unexpected token <" ++ found.kind.name ++ ">, expected <" ++
                madeUp.kind.name ++ ">")
        ((tree.root.leaves ++ [tree.endOfFile]).filter Token.isMissing) complaints := by
  intro tree buffer
  obtain ⟨tokens, h⟩ := Cursor.onLine_ofLine line largest maxDepth
  obtain ⟨complaints, hdiagnostics, hreports⟩ := h.reports_parse
  refine ⟨complaints, hdiagnostics, hreports.imp fun madeUp complaint => ?_⟩
  rintro ⟨found, hfound, hposition, hkind, rfl⟩
  have hbuffer : buffer = tokens ++ [Token.endOfFile line.length] := h.tokens_eq
  refine ⟨found, ?_, hkind, ?_⟩
  · rw [hbuffer, ← hposition]
    exact Token.filter_position_eq h.isLine.increasing (h.mem_of_mem_remaining hfound)
  · split <;> rfl

end Calculator
