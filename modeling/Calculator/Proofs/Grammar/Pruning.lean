import Calculator.Proofs.Grammar.Reads

/-!
# `Calculator.Proofs.Grammar.Pruning`: what the limit on groups does

A group that lies inside too many others is passed over, and a number is
made up for it. `Expr.pruned` does the same to an expression that was read
without a limit, and `Expr.groupsAt` counts the groups that are replaced.
Two things are said about the limit.

* `read_leaves_pruned`: the leaves of a fitting expression are read back as
  the expression pruned to the room that is left below the limit. The
  tokens passed over are those of the group and no others, because
  `dropGroup` counts parentheses and those of a placed expression are
  balanced (`dropGroup_leaves`).
* `Reads.of_maxDepth_le`: if no group was passed over, then a larger limit
  changes nothing, whatever the tokens are.
-/

set_option autoImplicit false

namespace Calculator

namespace Expr

/-- The expression with every group inside exactly `room` others replaced
by a number that is made up at its opening parenthesis. -/
def pruned : Nat → Expr → Expr
  | _, number literal => number literal
  | room, binary left operator right =>
    binary (left.pruned room) operator (right.pruned room)
  | 0, parenthesized opening _ _ => number (.missing .number opening.position)
  | room + 1, parenthesized opening inner closing =>
    parenthesized opening (inner.pruned room) closing

/-- The number of groups that lie inside exactly `room` others. These are the groups that a limit
cuts off, and each of them is reported once. -/
def groupsAt : Nat → Expr → Nat
  | _, number _ => 0
  | room, binary left _ right => left.groupsAt room + right.groupsAt room
  | 0, parenthesized _ _ _ => 1
  | room + 1, parenthesized _ inner _ => inner.groupsAt room

/-- An expression whose groups have room is left as it is, and it has no group that would be cut
off. -/
theorem pruned_of_nesting_le {expr : Expr} {room : Nat} (h : expr.nesting ≤ room) :
    expr.pruned room = expr ∧ expr.groupsAt room = 0 := by
  induction expr generalizing room with
  | number literal => exact ⟨rfl, rfl⟩
  | binary left operator right ihLeft ihRight =>
    rw [nesting, Nat.max_le] at h
    obtain ⟨prunedLeft, groupsLeft⟩ := ihLeft h.1
    obtain ⟨prunedRight, groupsRight⟩ := ihRight h.2
    rw [pruned, groupsAt, prunedLeft, prunedRight, groupsLeft, groupsRight]
    exact ⟨rfl, rfl⟩
  | parenthesized opening inner closing ih =>
    rw [nesting] at h
    cases room with
    -- A group has no room at all only if it is too deep.
    | zero => exact absurd h (Nat.not_succ_le_zero _)
    | succ room =>
      obtain ⟨prunedInner, groupsInner⟩ := ih (Nat.le_of_succ_le_succ h)
      rw [pruned, groupsAt, prunedInner, groupsInner]
      exact ⟨rfl, rfl⟩

end Expr

namespace Grammar

/-! ### Passing over a group -/

/-- A token that is no parenthesis is dropped with the group around it, and the groups that are
open stay open. -/
theorem dropGroup_cons {token : Token} (opened : Nat) (rest : List Token)
    (noEnd : token.kind ≠ .endOfFile) (noOpening : token.kind ≠ .openParenthesis)
    (noClosing : token.kind ≠ .closeParenthesis) :
    dropGroup opened (token :: rest) = dropGroup opened rest := by
  rw [dropGroup]
  split <;> first | contradiction | rfl

/-- The leaves of a placed expression are dropped as a whole, because all
groups in them are closed. -/
theorem dropGroup_leaves {expr : Expr} (h : expr.Placed) {opened : Nat} (hopened : 0 < opened)
    (rest : List Token) :
    dropGroup opened (expr.leaves ++ rest) = dropGroup opened rest := by
  induction expr generalizing opened rest with
  | number literal =>
    have kind : literal.kind = .number := h
    exact dropGroup_cons opened rest (by simp [kind]) (by simp [kind]) (by simp [kind])
  | binary left operator right ihLeft ihRight =>
    obtain ⟨placedLeft, operation, placedRight⟩ := h
    have noParenthesis : ∀ kind : Kind, kind.isOperator = false → operator.kind ≠ kind := by
      rintro kind none rfl
      exact Bool.false_ne_true (none.symm.trans operation)
    rw [Expr.leaves, List.append_assoc, ihLeft placedLeft hopened, List.cons_append,
      dropGroup_cons _ _ (noParenthesis _ rfl) (noParenthesis _ rfl) (noParenthesis _ rfl),
      ihRight placedRight hopened]
  | parenthesized opening inner closing ih =>
    obtain ⟨openingKind, placedInner, closingKind⟩ := h
    have more : ¬ opened + 1 ≤ 1 := by omega
    simp only [Expr.leaves, List.cons_append, List.append_assoc, List.nil_append]
    -- The group inside opens and closes, so behind it as many are open as before.
    rw [dropGroup, openingKind]
    show dropGroup (opened + 1) (inner.leaves ++ closing :: rest) = _
    rw [ih placedInner (Nat.succ_pos opened), dropGroup, closingKind]
    exact if_neg more

/-- Passing over the rest of a group drops the tokens up to the parenthesis that closes
it, and nothing behind. -/
theorem dropGroup_inner {inner : Expr} {closing : Token} (placed : inner.Placed)
    (kind : closing.kind = .closeParenthesis) (rest : List Token) :
    dropGroup 1 (inner.leaves ++ closing :: rest) = rest := by
  rw [dropGroup_leaves placed Nat.one_pos, dropGroup, kind]
  rfl

/-! ### Reading leaves back -/

/-- There is no operator two levels below any level, as there are only two levels of operators. -/
theorem joins_operand_operand (level : Level) (kind : Kind) :
    level.operand.operand.joins kind = false := by
  cases level <;> exact Level.joins_primary kind

/-- The room that groups have inside `depth` others, which is nothing where the limit is reached
or passed. -/
def room (grammar : Grammar) (depth : Nat) : Nat :=
  (grammar.maxDepth - depth).toNat

/-- The leaves of a fitting expression are read back as its first operands,
pruned to the room that is left, and reading goes on with whatever follows
them. Each group that is replaced is reported. No operator of a tighter
level may follow. -/
theorem read_leaves_pruned {grammar : Grammar} {level : Level} {expr : Expr}
    (h : Expr.Fits level expr) {depth : Nat} {rest : List Token}
    (head : ∀ token ∈ rest.head?, level.operand.joins token.kind = false) :
    grammar.read depth level (expr.leaves ++ rest) =
      let whole := grammar.extend depth level (expr.pruned (grammar.room depth)) rest
      ⟨whole.expr,
        List.replicate (expr.groupsAt (grammar.room depth)) (.tooDeep grammar.maxDepth) ++
          whole.diagnostics,
        whole.rest⟩ := by
  induction h generalizing depth rest with
  | @number literal kind =>
    rw [extend_of_not_joins grammar depth .primary _ (by simp), read_primary]
    simp [Expr.leaves, Expr.pruned, Expr.groupsAt, readNumber, require, current, kind]
  | @group opening closing inner openingKind innerFits closingKind ih =>
    rw [extend_of_not_joins grammar depth .primary _ (by simp), read_primary]
    simp only [Expr.leaves, List.cons_append, List.append_assoc, List.nil_append,
      if_pos openingKind]
    cases hroom : grammar.room depth with
    | zero =>
      -- There is no room, so the group is passed over.
      have deep : grammar.maxDepth ≤ depth := by
        rw [room] at hroom
        omega
      rw [if_pos deep, skipGroup, dropGroup_inner innerFits.placed_stratified.1 closingKind]
      rfl
    | succ less =>
      have shallow : ¬ grammar.maxDepth ≤ depth := by
        rw [room] at hroom
        omega
      have inside : grammar.room (depth + 1) = less := by
        rw [room] at hroom ⊢
        omega
      -- The closing token goes on with no chain, so the group is read back as a whole.
      have hinner := @ih (depth + 1) (closing :: rest)
        (by simp [closingKind, Level.operand, Level.joins])
      rw [inside, extend_of_not_joins grammar _ .term _
        (by simp [closingKind, Level.joins])] at hinner
      rw [if_neg shallow, hinner]
      simp [closeGroup, require, current, closingKind, Expr.pruned, Expr.groupsAt]
  | @operand level expr hne _ ih =>
    have first := @ih depth rest fun token _ => joins_operand_operand level token.kind
    rw [extend_of_not_joins grammar depth level.operand _ head] at first
    rw [read_eq_extend grammar depth hne, first]
    simp
  | @chain level left right operator joins _ _ ihLeft ihRight =>
    have second := @ihRight depth rest fun token _ => joins_operand_operand level token.kind
    rw [extend_of_not_joins grammar depth level.operand _ head] at second
    -- The first operands are read up to the operator, which goes on with the chain.
    have tighter : level.operand.joins operator.kind = false :=
      Level.not_joins_of_joins joins (Level.operand_ne joins)
    have first := @ihLeft depth (operator :: (right.leaves ++ rest)) (by simpa using tighter)
    rw [Expr.leaves, List.append_assoc, List.cons_append, first, extend_cons, if_pos joins,
      second]
    simp [Expr.pruned, Expr.groupsAt, ← List.replicate_append_replicate]

/-! ### Larger limits -/

/-- Where no group was passed over, a larger limit changes nothing, as the limit is looked at for
groups only. -/
theorem Reads.of_maxDepth_le {grammar : Grammar} {depth : Nat} {part : Part}
    {input : List Token} {reading : Reading} (h : Reads grammar depth part input reading)
    {larger : Int} (hle : grammar.maxDepth ≤ larger)
    (nothing : .tooDeep grammar.maxDepth ∉ reading.diagnostics) :
    Reads { grammar with maxDepth := larger } depth part input reading := by
  induction h with
  | number head => exact .number head
  | tooDeep kind deep => exact absurd (List.mem_singleton.mpr rfl) nothing
  | group kind shallow _ ih =>
    refine .group kind (Int.lt_of_lt_of_le shallow hle) (ih fun hmem => nothing ?_)
    exact List.mem_append_left _ hmem
  | operands hne _ _ ihFirst ihBehind =>
    rw [List.mem_append, not_or] at nothing
    exact .operands hne (ihFirst nothing.1) (ihBehind nothing.2)
  | stop head => exact .stop head
  | operator joins _ _ ihRight ihBehind =>
    rw [List.mem_append, not_or] at nothing
    exact .operator joins (ihRight nothing.1) (ihBehind nothing.2)

end Grammar

end Calculator
