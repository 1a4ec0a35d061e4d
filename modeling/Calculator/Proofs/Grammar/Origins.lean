import Calculator.Proofs.Grammar.Traces

/-!
# `Calculator.Proofs.Grammar.Origins`: where the tokens of a tree come from

A reading takes its operators and opening parentheses from the tokens that
it reads, and it never makes one up. Numbers and closing parentheses may be
made up, and then they have neither text nor value. `Expr.TakenFrom` says this
of an expression, place by place, and `Reads.takenFrom` says that it holds of
whatever is read.
-/

set_option autoImplicit false

namespace Calculator

/-- The tokens of an expression are among `tokens`, but for numbers and
closing parentheses that were made up. -/
def Expr.TakenFrom (tokens : List Token) : Expr → Prop
  | number literal => literal ∈ tokens ∨ ∃ position, literal = .missing .number position
  | binary left operator right => left.TakenFrom tokens ∧ operator ∈ tokens ∧ right.TakenFrom tokens
  | parenthesized opening inner closing =>
    opening ∈ tokens ∧ inner.TakenFrom tokens ∧
      (closing ∈ tokens ∨ ∃ position, closing = .missing .closeParenthesis position)

/-- A leaf of an expression that is taken from some tokens is one of these tokens, or it was made
up. -/
theorem Expr.TakenFrom.mem_or_missing {tokens : List Token} {expr : Expr}
    (h : expr.TakenFrom tokens) :
    ∀ leaf ∈ expr.leaves, leaf ∈ tokens ∨ ∃ kind position, leaf = .missing kind position := by
  induction expr with
  | number literal =>
    intro leaf hleaf
    obtain rfl := List.mem_singleton.mp hleaf
    exact h.imp_right fun madeUp => ⟨.number, madeUp⟩
  | binary left operator right ihLeft ihRight =>
    obtain ⟨takenLeft, hoperator, takenRight⟩ := h
    simp only [leaves, List.forall_mem_append, List.forall_mem_cons]
    exact ⟨ihLeft takenLeft, Or.inl hoperator, ihRight takenRight⟩
  | parenthesized opening inner closing ih =>
    obtain ⟨hopening, takenInner, hclosing⟩ := h
    simp only [leaves, List.forall_mem_append, List.forall_mem_cons]
    exact ⟨Or.inl hopening, ih takenInner,
      hclosing.imp_right fun madeUp => ⟨.closeParenthesis, madeUp⟩, List.forall_mem_nil _⟩

namespace Grammar

variable {grammar : Grammar} {depth : Nat} {part : Part} {input tokens : List Token}
  {reading : Reading}

/-- A token that is required is one of those that are left, or it is made up with the kind that
was required. -/
theorem require_mem_or_missing (ends : grammar.endOfFile.kind = .endOfFile) {kind : Kind}
    (hkind : kind ≠ .endOfFile) (input : List Token) :
    (grammar.require kind input).token ∈ input ∨
      ∃ position, (grammar.require kind input).token = .missing kind position := by
  unfold require
  dsimp only
  split
  · next found =>
    cases input with
    | nil => exact absurd (found.symm.trans ends) hkind
    | cons token rest => exact Or.inl List.mem_cons_self
  · exact Or.inr ⟨_, rfl⟩

/-- What is read comes from the tokens that it is read from, if that holds of the operand that it
starts with. The induction is on the derivation. -/
theorem Reads.takenFrom (ends : grammar.endOfFile.kind = .endOfFile)
    (h : Reads grammar depth part input reading)
    (hinput : ∀ token ∈ input, token ∈ tokens)
    (hleft : ∀ left ∈ part.left?, left.TakenFrom tokens) : reading.expr.TakenFrom tokens := by
  -- A token that the grammar requires is the next one or is made up. The end is never required
  -- here.
  have required : ∀ {kind : Kind} {input : List Token}, kind ≠ .endOfFile →
      (∀ token ∈ input, token ∈ tokens) → (grammar.require kind input).token ∈ tokens ∨
        ∃ position, (grammar.require kind input).token = .missing kind position := by
    intro kind input hkind hinput
    exact (require_mem_or_missing ends hkind input).imp_left (hinput _)
  induction h with
  | number head => exact required (by decide) hinput
  | @tooDeep depth opening rest kind deep => exact Or.inr ⟨opening.position, rfl⟩
  | group kind shallow readsInner ih =>
    obtain ⟨hopening, hrest⟩ := List.forall_mem_cons.mp hinput
    refine ⟨hopening, ih hrest (by simp [Part.left?]), required (by decide) ?_⟩
    intro token htoken
    exact hrest token ((readsInner.suffix ends).subset htoken)
  | operands hne readsFirst _ ihFirst ihBehind =>
    have first := ihFirst hinput (by simp [Part.left?])
    refine ihBehind ?_ (by simpa [Part.left?] using first)
    intro token htoken
    exact hinput token ((readsFirst.suffix ends).subset htoken)
  | stop head => exact hleft _ rfl
  | operator joins readsRight _ ihRight ihBehind =>
    obtain ⟨htoken, hrest⟩ := List.forall_mem_cons.mp hinput
    have right := ihRight hrest (by simp [Part.left?])
    refine ihBehind ?_ (by simpa [Part.left?] using ⟨hleft _ rfl, htoken, right⟩)
    intro token htoken
    exact hrest token ((readsRight.suffix ends).subset htoken)

end Grammar

end Calculator
