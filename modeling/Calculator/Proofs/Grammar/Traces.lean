import Calculator.Proofs.Grammar.Balance
import Calculator.Proofs.Grammar.Reads
import Mathlib.Data.List.Forall2

/-!
# `Calculator.Proofs.Grammar.Traces`: leaves against tokens

A reading consumes tokens and gives a tree, and the leaves of the tree
account for every token consumed. `Traces` says how, one leaf at a time: a
leaf is the next token, or it was made up where another token stands, or
it was made up for a group that was passed over. Every leaf that was made
up has its diagnostic, in the same order. The theorem

* `Reads.traces`: the leaves of what is read trace the tokens consumed

is an induction over the derivation of the reading. What follows from a
trace alone is proved by induction on the trace:

* `Traces.eq_append`: without diagnostics the leaves are the tokens.
* `Traces.pieces`: in general they are the tokens once every made-up leaf
  is replaced by what it stands for.
* `Traces.exists_position`: every leaf stands where some token does.
* `Traces.positions`: the positions of the leaves never decrease.
* `Traces.suffix`: the end of the line is never consumed.
-/

set_option autoImplicit false

namespace Calculator

namespace Grammar

/-- The leaves account for the tokens from `input` down to `behind`, with
the diagnostics of those that were made up. -/
inductive Traces (grammar : Grammar) :
    List Token → List Token → List Diagnostic → List Token → Prop where
  -- No leaf accounts for no token.
  | done {input : List Token} : Traces grammar input [] [] input
  -- A leaf is the next token.
  | taken {token : Token} {rest leaves behind : List Token}
    {diagnostics : List Diagnostic} (kind : token.kind ≠ .endOfFile)
    (tail : Traces grammar rest leaves diagnostics behind) :
    Traces grammar (token :: rest) (token :: leaves) diagnostics behind
  -- A leaf was made up where a token of another kind stands.
  | madeUp {kind : Kind} {input leaves behind : List Token}
    {diagnostics : List Diagnostic} (hne : (grammar.current input).kind ≠ kind)
    (noGroup : kind = .number → (grammar.current input).kind ≠ .openParenthesis)
    (tail : Traces grammar input leaves diagnostics behind) :
    Traces grammar input (.missing kind (grammar.current input).position :: leaves)
      (.unexpectedToken (grammar.current input).kind kind :: diagnostics) behind
  -- A leaf was made up for a group that was passed over.
  | skipped {opening : Token} {rest leaves behind : List Token}
    {diagnostics : List Diagnostic} (kind : opening.kind = .openParenthesis)
    (tail : Traces grammar (dropGroup 1 rest) leaves diagnostics behind) :
    Traces grammar (opening :: rest) (.missing .number opening.position :: leaves)
      (.tooDeep grammar.maxDepth :: diagnostics) behind

/-- The leaves of an expression that was there before, if there was one. What is read adds leaves
behind them. -/
def Part.leaves (part : Part) : List Token :=
  (part.left?.map Expr.leaves).getD []

variable {grammar : Grammar} {input leaves behind : List Token}
  {diagnostics : List Diagnostic}

/-- One trace after another is a trace, which is how the parts of an expression are put
together. -/
theorem Traces.append {middle first second : List Token} {found more : List Diagnostic}
    (h : Traces grammar input first found middle)
    (hmore : Traces grammar middle second more behind) :
    Traces grammar input (first ++ second) (found ++ more) behind := by
  induction h with
  | done => exact hmore
  | taken kind _ ih => exact .taken kind (ih hmore)
  | madeUp hne noGroup _ ih => exact .madeUp hne noGroup (ih hmore)
  | skipped kind _ ih => exact .skipped kind (ih hmore)

/-- A token that is required is the next one, or it is made up and reported. A group where a
number is required is another matter. -/
theorem traces_require {kind : Kind}
    (ends : grammar.endOfFile.kind = .endOfFile) (hkind : kind ≠ .endOfFile)
    (noGroup : kind = .number → (grammar.current input).kind ≠ .openParenthesis) :
    Traces grammar input [(grammar.require kind input).token]
      (grammar.require kind input).diagnostics (grammar.require kind input).rest := by
  unfold require
  dsimp only
  by_cases h : (grammar.current input).kind = kind
  · rw [if_pos h]
    cases input with
    | nil =>
      -- Behind all tokens stands the end of the line, which is not what is required.
      exact absurd (h.symm.trans ends) hkind
    | cons token rest =>
      have htoken : token.kind = kind := h
      exact .taken (by rwa [htoken]) .done
  · rw [if_neg h]
    exact .madeUp h noGroup .done

/-- The leaves of what is read trace the tokens consumed: those that were added behind the operand
it started from. -/
theorem Reads.traces (ends : grammar.endOfFile.kind = .endOfFile) {depth : Nat}
    {part : Part} {reading : Reading}
    (h : Reads grammar depth part input reading) :
    ∃ added, reading.expr.leaves = part.leaves ++ added ∧
      Traces grammar input added reading.diagnostics reading.rest := by
  induction h with
  | @number depth input head =>
    -- No group opens here, so a number that is made up stands for nothing.
    refine ⟨[(grammar.require .number input).token], rfl,
      traces_require ends (by decide) fun _ => ?_⟩
    exact current_of_head (p := fun token => token.kind ≠ .openParenthesis) (by simp [ends]) head
  | @tooDeep depth opening rest kind deep =>
    exact ⟨[.missing .number opening.position], rfl, .skipped kind .done⟩
  | @group depth opening rest inner kind shallow _ ih =>
    obtain ⟨added, hadded, htraces⟩ := ih
    have inside : inner.expr.leaves = added := hadded
    refine ⟨opening :: (added ++ [(grammar.require .closeParenthesis inner.rest).token]),
      by simp [closeGroup, Expr.leaves, Part.leaves, Part.left?, inside],
      .taken (by simp [kind]) (htraces.append (traces_require ends (by decide) ?_))⟩
    exact fun h => absurd h (by decide)
  | operands hne _ _ ihFirst ihBehind =>
    obtain ⟨first, hfirst, tracesFirst⟩ := ihFirst
    obtain ⟨added, hadded, tracesBehind⟩ := ihBehind
    refine ⟨first ++ added, ?_, tracesFirst.append tracesBehind⟩
    rw [hadded]
    simpa [Part.leaves, Part.left?] using hfirst
  | stop head => exact ⟨[], by simp [Part.leaves, Part.left?], .done⟩
  | @operator depth level left token rest right whole joins _ _ ihRight ihBehind =>
    obtain ⟨second, hsecond, tracesRight⟩ := ihRight
    obtain ⟨added, hadded, tracesBehind⟩ := ihBehind
    -- The end of the line joins no operands.
    have hkind : token.kind ≠ .endOfFile := by
      intro h
      simp [h] at joins
    refine ⟨token :: (second ++ added), ?_,
      .taken hkind (tracesRight.append tracesBehind)⟩
    have hright : right.expr.leaves = second := hsecond
    rw [hadded]
    simp [Part.leaves, Part.left?, Expr.leaves, hright]

/-! ### What follows from a trace -/

/-- A trace consumes tokens from the front, and never the end of the line, so it leaves an end of
the tokens. -/
theorem Traces.suffix (h : Traces grammar input leaves diagnostics behind) :
    ∃ front, input = front ++ behind ∧ ∀ token ∈ front, token.kind ≠ .endOfFile := by
  induction h with
  | done => exact ⟨[], rfl, by simp⟩
  | @taken token rest leaves behind diagnostics kind _ ih =>
    obtain ⟨front, rfl, hfront⟩ := ih
    exact ⟨token :: front, rfl, by simpa using ⟨kind, hfront⟩⟩
  | madeUp _ _ _ ih => exact ih
  | @skipped opening rest leaves behind diagnostics kind _ ih =>
    obtain ⟨front, hbehind, hfront⟩ := ih
    -- A group that is skipped is dropped as a whole, and it ends before the end of the line.
    obtain ⟨dropped, hrest, hcloses⟩ := closes_dropGroup 1 (by decide) rest
    refine ⟨opening :: (dropped ++ front), ?_, ?_⟩
    · rw [List.cons_append, List.append_assoc, ← hbehind, ← hrest]
    · intro token htoken
      rcases List.mem_cons.mp htoken with rfl | htoken
      · simp [kind]
      · exact (List.mem_append.mp htoken).elim (hcloses.noEnd token) (hfront token)

/-- Requiring a token takes one token or none, so it leaves an end of the tokens. -/
theorem require_suffix (grammar : Grammar) (kind : Kind) (input : List Token) :
    (grammar.require kind input).rest <:+ input := by
  unfold require
  dsimp only
  split
  · exact List.tail_suffix input
  · exact List.suffix_rfl

/-- A reading leaves an end of the tokens that it was given, so it can be cut into what it
consumed and the rest. -/
theorem Reads.suffix (ends : grammar.endOfFile.kind = .endOfFile) {depth : Nat}
    {part : Part} {reading : Reading} (h : Reads grammar depth part input reading) :
    reading.rest <:+ input := by
  obtain ⟨added, -, htraces⟩ := h.traces ends
  obtain ⟨front, hfront, -⟩ := htraces.suffix
  exact ⟨front, hfront.symm⟩

/-- At the end of the line a trace consumes nothing, so all leaves that are read there were made
up. -/
theorem Traces.eq_of_atEnd (h : Traces grammar input leaves diagnostics behind)
    (hend : AtEnd input) : behind = input := by
  induction h with
  | done => rfl
  | taken kind _ _ => exact absurd (hend _ rfl) kind
  | madeUp _ _ _ ih => exact ih hend
  | skipped kind _ _ => exact absurd (kind.symm.trans (hend _ rfl)) (by decide)

/-- Without diagnostics nothing was made up, so the leaves are the tokens
themselves. -/
theorem Traces.eq_append (h : Traces grammar input leaves [] behind) :
    input = leaves ++ behind := by
  -- The induction needs the diagnostics as a variable.
  generalize hdiagnostics : ([] : List Diagnostic) = diagnostics at h
  induction h with
  | done => rfl
  | @taken token rest leaves behind diagnostics _ _ ih =>
    exact congrArg (token :: ·) (ih hdiagnostics)
  | madeUp => exact absurd hdiagnostics (by simp)
  | skipped => exact absurd hdiagnostics (by simp)

end Grammar

/-! ### What leaves stand for -/

/-- What a leaf stands for among the tokens of a line. A group may be left
unclosed only if the line `ended` there. -/
inductive Token.StandsFor (ended : Prop) : Token → List Token → Prop where
  -- A token that was not made up stands for itself.
  | itself {token : Token} (real : token.isMissing = false) :
    StandsFor ended token [token]
  -- A token that was made up for a missing one stands for nothing.
  | nothing {kind : Kind} {position : Nat} :
    StandsFor ended (.missing kind position) []
  -- A number that was made up for a group stands for the whole group.
  | group {opening : Token} {rest : List Token} (group : IsGroup ended (opening :: rest)) :
    StandsFor ended (.missing .number opening.position) (opening :: rest)

/-- What a leaf stands for stays the same if groups may be left unclosed
for a weaker reason. -/
theorem Token.StandsFor.imp {ended other : Prop} {leaf : Token} {piece : List Token}
    (h : leaf.StandsFor ended piece) (hended : ended → other) :
    leaf.StandsFor other piece := by
  cases h with
  | itself real => exact .itself real
  | nothing => exact .nothing
  | group group => exact .group (group.imp hended)

namespace Grammar

variable {grammar : Grammar} {input leaves behind : List Token}
  {diagnostics : List Diagnostic}

/-- The leaves of a trace, each replaced by what it stands for, are the
tokens consumed. -/
theorem Traces.pieces (h : Traces grammar input leaves diagnostics behind)
    (real : ∀ token ∈ input, token.isMissing = false) :
    ∃ pieces, List.Forall₂ (Token.StandsFor (AtEnd behind)) leaves pieces ∧
      input = pieces.flatten ++ behind := by
  induction h with
  | done => exact ⟨[], .nil, rfl⟩
  | @taken token rest leaves behind diagnostics kind _ ih =>
    obtain ⟨pieces, hpieces, hrest⟩ := ih fun t ht => real t (List.mem_cons_of_mem _ ht)
    exact ⟨[token] :: pieces, .cons (.itself (real token List.mem_cons_self)) hpieces,
      congrArg (token :: ·) hrest⟩
  | madeUp _ _ _ ih =>
    obtain ⟨pieces, hpieces, hinput⟩ := ih real
    exact ⟨[] :: pieces, .cons .nothing hpieces, hinput⟩
  | @skipped opening rest leaves behind diagnostics kind htail ih =>
    obtain ⟨dropped, hrest, hcloses⟩ := closes_dropGroup 1 (by decide) rest
    obtain ⟨pieces, hpieces, hbehind⟩ := ih fun t ht => real t (by
      rw [hrest]
      exact List.mem_cons_of_mem _ (List.mem_append_right _ ht))
    -- A group that is not closed reaches to the end, and nothing is consumed behind it.
    have group : IsGroup (AtEnd behind) (opening :: dropped) :=
      (hcloses.isGroup kind).imp fun hend => by rwa [htail.eq_of_atEnd hend]
    refine ⟨(opening :: dropped) :: pieces, .cons (.group group) hpieces, ?_⟩
    rw [List.flatten_cons, List.append_assoc, ← hbehind, List.cons_append, ← hrest]

/-! ### The order of positions -/

/-- The current token is one of those that are left, or the end of the line behind them. -/
theorem current_mem (grammar : Grammar) (input : List Token) :
    grammar.current input ∈ input ++ [grammar.endOfFile] := by
  cases input with
  | nil => exact List.mem_singleton.mpr rfl
  | cons token rest => exact List.mem_cons_self

/-- A token that is required stands where the current one does, also if it is
made up. -/
theorem position_require (grammar : Grammar) (kind : Kind) (input : List Token) :
    (grammar.require kind input).token.position = (grammar.current input).position := by
  unfold require
  dsimp only
  split <;> rfl

/-- Every leaf of a trace stands where one of the tokens does, as a token that is made up stands
at the place of the next one. -/
theorem Traces.exists_position (h : Traces grammar input leaves diagnostics behind) :
    ∀ leaf ∈ leaves, ∃ token ∈ input ++ [grammar.endOfFile], token.position = leaf.position := by
  induction h with
  | done => exact fun _ hnone => absurd hnone List.not_mem_nil
  | @taken token rest leaves behind diagnostics kind _ ih =>
    refine List.forall_mem_cons.mpr ⟨⟨token, List.mem_cons_self, rfl⟩, fun leaf hleaf => ?_⟩
    obtain ⟨found, hfound, hposition⟩ := ih leaf hleaf
    exact ⟨found, List.mem_cons_of_mem _ hfound, hposition⟩
  | @madeUp kind input leaves behind diagnostics _ _ _ ih =>
    exact List.forall_mem_cons.mpr
      ⟨⟨grammar.current input, current_mem grammar input, rfl⟩, ih⟩
  | @skipped opening rest leaves behind diagnostics kind _ ih =>
    obtain ⟨dropped, hrest, -⟩ := closes_dropGroup 1 Nat.one_pos rest
    refine List.forall_mem_cons.mpr ⟨⟨opening, List.mem_cons_self, rfl⟩, fun leaf hleaf => ?_⟩
    obtain ⟨found, hfound, hposition⟩ := ih leaf hleaf
    refine ⟨found, ?_, hposition⟩
    -- What is found behind the group is found behind its parenthesis.
    rw [hrest, ← List.cons_append, List.append_assoc]
    exact List.mem_append_right _ hfound

/-- Whether the positions of the tokens that are left, the end of the line
included, never decrease. -/
def InOrder (grammar : Grammar) (input : List Token) : Prop :=
  (input ++ [grammar.endOfFile]).Pairwise fun a b => a.position ≤ b.position

/-- The first token that is left stands before all others, the end of the line among them. -/
theorem InOrder.head_le {token : Token} {rest : List Token}
    (h : grammar.InOrder (token :: rest)) :
    ∀ later ∈ rest ++ [grammar.endOfFile], token.position ≤ later.position :=
  (List.pairwise_cons.mp h).1

/-- What is left behind some tokens is in order if all of it is, so order is kept wherever reading
goes on. -/
theorem InOrder.of_append (front : List Token)
    (h : grammar.InOrder (front ++ behind)) : grammar.InOrder behind := by
  rw [InOrder, List.append_assoc] at h
  exact (List.pairwise_append.mp h).2.1

/-- The positions of the leaves of a trace never decrease, and they start
at the current token or behind it. -/
theorem Traces.positions (h : Traces grammar input leaves diagnostics behind)
    (ordered : grammar.InOrder input) :
    (∀ leaf ∈ leaves, (grammar.current input).position ≤ leaf.position) ∧
      leaves.Pairwise fun a b => a.position ≤ b.position := by
  induction h with
  | done => exact ⟨by simp, .nil⟩
  | @taken token rest leaves behind diagnostics kind _ ih =>
    have rest_inOrder : grammar.InOrder rest := ordered.of_append [token]
    obtain ⟨hleaves, hpairwise⟩ := ih rest_inOrder
    have later : ∀ leaf ∈ leaves, token.position ≤ leaf.position := fun leaf hleaf =>
      Nat.le_trans (ordered.head_le _ (current_mem grammar rest)) (hleaves leaf hleaf)
    refine ⟨?_, .cons later hpairwise⟩
    simpa [current] using later
  | madeUp _ _ _ ih =>
    obtain ⟨hleaves, hpairwise⟩ := ih ordered
    exact ⟨by simpa [Token.missing] using hleaves, .cons hleaves hpairwise⟩
  | @skipped opening rest leaves behind diagnostics kind _ ih =>
    obtain ⟨dropped, hdropped, _⟩ := closes_dropGroup 1 (by decide) rest
    -- The leaves behind start behind the group, which starts with `opening`.
    have before := ordered.head_le
    rw [hdropped] at ordered before
    obtain ⟨hleaves, hpairwise⟩ := ih (ordered.of_append (opening :: dropped))
    have later : ∀ leaf ∈ leaves, opening.position ≤ leaf.position := by
      intro leaf hleaf
      refine Nat.le_trans (before _ ?_) (hleaves leaf hleaf)
      rw [List.append_assoc]
      exact List.mem_append_right _ (current_mem grammar (dropGroup 1 rest))
    refine ⟨?_, .cons later hpairwise⟩
    simpa [current, Token.missing] using later

end Grammar

end Calculator
