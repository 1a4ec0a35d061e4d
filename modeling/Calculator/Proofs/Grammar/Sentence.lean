import Calculator.Proofs.Grammar.Balance
import Calculator.Proofs.Grammar.Pruning

/-!
# `Calculator.Proofs.Grammar.Sentence`: the sentences of the grammar

`Derives` is the grammar of `Calculator.Grammar` as it is written down
there, on the kinds of tokens and without trees, readings or limits. The
trees that fit a level are its derivations:

* `derives_map_kind_iff`: the kinds of some tokens are derivable exactly
  if the tokens are the leaves of an expression that fits.

No sentence is refused. `read_leaves_term` says that the leaves of a
fitting expression are read back as that very expression, without a
diagnostic and whatever follows them, provided that its groups are not too
deep. Since a reading is determined by the tokens, two fitting expressions
with the same leaves are equal (`eq_of_leaves_eq`), so the grammar is
unambiguous.
-/

set_option autoImplicit false

namespace Calculator.Grammar

/-! ### Derivable kinds -/

/-- The kinds of tokens that make up an expression of a level. This is the grammar as it is
written down, without a parser. -/
inductive Derives : Level → List Kind → Prop where
  -- A number is a primary expression.
  | number : Derives .primary [.number]
  -- So is a term in parentheses.
  | group {inner : List Kind} (derivesInner : Derives .term inner) :
    Derives .primary (.openParenthesis :: (inner ++ [.closeParenthesis]))
  -- A term or factor starts with one operand.
  | operand {level : Level} {kinds : List Kind} (hne : level ≠ .primary)
    (derivesOperand : Derives level.operand kinds) : Derives level kinds
  -- It goes on with an operator of its level and one more operand, any
  -- number of times.
  | chain {level : Level} {first second : List Kind} {operator : Kind}
    (joins : level.joins operator = true) (derivesFirst : Derives level first)
    (derivesSecond : Derives level.operand second) :
    Derives level (first ++ operator :: second)

/-- The kinds of a fitting expression are derivable, by the rules that its nodes are made of. -/
theorem derives_kinds {level : Level} {expr : Expr} (h : Expr.Fits level expr) :
    Derives level expr.kinds := by
  induction h with
  | number kind =>
    simp only [Expr.kinds, Expr.leaves, List.map_cons, List.map_nil, kind]
    exact .number
  | group openingKind _ closingKind ih =>
    simp only [Expr.kinds, Expr.leaves, List.map_cons, List.map_append, List.map_nil,
      openingKind, closingKind]
    exact .group ih
  | operand hne _ ih => exact .operand hne ih
  | chain joins _ _ ihLeft ihRight =>
    simp only [Expr.kinds, Expr.leaves, List.map_cons, List.map_append]
    exact .chain joins ihLeft ihRight

/-- Tokens of derivable kinds are the leaves of a fitting expression, so kinds are all that
decides about a sentence. -/
theorem Derives.exists_fits {level : Level} {kinds : List Kind} (h : Derives level kinds)
    {tokens : List Token} (htokens : tokens.map Token.kind = kinds) :
    ∃ expr, Expr.Fits level expr ∧ expr.leaves = tokens := by
  induction h generalizing tokens with
  | number =>
    obtain ⟨literal, rest, rfl, kind, hrest⟩ := List.map_eq_cons_iff.mp htokens
    rw [List.map_eq_nil_iff.mp hrest]
    exact ⟨.number literal, .number kind, rfl⟩
  | group _ ih =>
    -- The tokens come apart where the kinds do.
    obtain ⟨opening, rest, rfl, openingKind, hrest⟩ := List.map_eq_cons_iff.mp htokens
    obtain ⟨inside, tail, rfl, hinside, htail⟩ := List.map_eq_append_iff.mp hrest
    obtain ⟨closing, nothing, rfl, closingKind, hnothing⟩ := List.map_eq_cons_iff.mp htail
    rw [List.map_eq_nil_iff.mp hnothing]
    obtain ⟨inner, innerFits, hleaves⟩ := ih hinside
    exact ⟨.parenthesized opening inner closing, .group openingKind innerFits closingKind,
      by rw [Expr.leaves, hleaves]⟩
  | operand hne _ ih =>
    obtain ⟨expr, fits, hleaves⟩ := ih htokens
    exact ⟨expr, .operand hne fits, hleaves⟩
  | chain joins _ _ ihFirst ihSecond =>
    obtain ⟨front, rest, rfl, hfront, hrest⟩ := List.map_eq_append_iff.mp htokens
    obtain ⟨operator, behind, rfl, operatorKind, hbehind⟩ := List.map_eq_cons_iff.mp hrest
    obtain ⟨left, leftFits, hleft⟩ := ihFirst hfront
    obtain ⟨right, rightFits, hright⟩ := ihSecond hbehind
    exact ⟨.binary left operator right, .chain (by rwa [operatorKind]) leftFits rightFits,
      by rw [Expr.leaves, hleft, hright]⟩

/-- The fitting expressions with some leaves are the derivations of their kinds, so a line is a
sentence exactly if it has a tree. -/
theorem derives_map_kind_iff (level : Level) (tokens : List Token) :
    Derives level (tokens.map Token.kind) ↔
      ∃ expr, Expr.Fits level expr ∧ expr.leaves = tokens := by
  constructor
  · intro h
    exact h.exists_fits rfl
  · rintro ⟨expr, fits, rfl⟩
    exact derives_kinds fits

/-! ### Reading leaves back -/

/-- A whole term is read back up to a token that goes on with no chain. It
is pruned to the room that is left, and each group replaced is reported. -/
theorem read_leaves_term_pruned {grammar : Grammar} {expr : Expr} (h : Expr.Fits .term expr)
    (depth : Nat) {rest : List Token}
    (head : ∀ token ∈ rest.head?, token.kind.isOperator = false) :
    grammar.read depth .term (expr.leaves ++ rest) =
      ⟨expr.pruned (grammar.room depth),
        List.replicate (expr.groupsAt (grammar.room depth)) (.tooDeep grammar.maxDepth),
        rest⟩ := by
  have noJoin : ∀ token ∈ rest.head?, ∀ level : Level, level.joins token.kind = false := by
    intro token htoken level
    have noOperator := head token htoken
    cases level <;> cases hkind : token.kind <;> simp_all [Kind.isOperator, Level.joins]
  rw [read_leaves_pruned h fun token htoken => noJoin token htoken _,
    extend_of_not_joins grammar depth .term _ fun token htoken => noJoin token htoken _]
  simp

/-- If its groups have room, a fitting expression is read back from its leaves as it is, up to a
token that is no operator. -/
theorem read_leaves_term {grammar : Grammar} {expr : Expr} (h : Expr.Fits .term expr)
    {depth : Nat} {rest : List Token} (shallow : expr.nesting ≤ grammar.room depth)
    (head : ∀ token ∈ rest.head?, token.kind.isOperator = false) :
    grammar.read depth .term (expr.leaves ++ rest) = ⟨expr, [], rest⟩ := by
  obtain ⟨hpruned, hgroups⟩ := Expr.pruned_of_nesting_le shallow
  rw [read_leaves_term_pruned h depth head, hpruned, hgroups, List.replicate_zero]

/-- No two fitting expressions have the same leaves, as both of them are what is read from these
leaves. -/
theorem eq_of_leaves_eq {expr other : Expr} (h : Expr.Fits .term expr)
    (hother : Expr.Fits .term other) (hleaves : other.leaves = expr.leaves) :
    other = expr := by
  -- Both are what is read from those leaves where both have room.
  let grammar : Grammar := ⟨expr.nesting + other.nesting, .endOfFile 0⟩
  have room : grammar.room 0 = expr.nesting + other.nesting := Int.toNat_natCast _
  have first : grammar.read 0 .term (expr.leaves ++ []) = ⟨expr, [], []⟩ :=
    read_leaves_term h (by rw [room]; omega) (by simp)
  have second : grammar.read 0 .term (other.leaves ++ []) = ⟨other, [], []⟩ :=
    read_leaves_term hother (by rw [room]; omega) (by simp)
  rw [hleaves, first] at second
  exact (congrArg Reading.expr second).symm

end Calculator.Grammar
