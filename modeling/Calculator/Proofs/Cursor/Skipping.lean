import Calculator.Proofs.Cursor.Invariant
import Calculator.Proofs.Cursor.Parse
import Mathlib.Order.Bounds.Basic

/-!
# `Calculator.Proofs.Cursor.Skipping`: where a skipped group ends

A group that lies inside too many others is skipped: one diagnostic is written
down, the tokens of the group are passed over, and a made-up number stands for
it. `Cursor.skipGroup` is this as an operation of a cursor, and
`OnLine.read_primary_eq_skipGroup` says that a reading does just that.

Where the group ends is said by indices. `Balanced tokens start stop` means
that the tokens from `start` up to `stop` close as many groups as they open.
What is skipped is one group (`OnLine.exists_group`), so

* `IsGroup.isLeast_balanced`: if it is closed, its last token has the least
  index at which the tokens are balanced;
* `IsGroup.not_balanced`: if it is not closed, there is no such index, and the
  group reaches to the end of the line.

`skipGroup_spec` puts this together for every state that a reading can be in.
-/

set_option autoImplicit false

namespace Calculator

/-! ### Indices at which groups are closed -/

/-- The tokens from one index up to another close as many groups as they open, both ends included.
This knows nothing of how groups are skipped. -/
def Balanced (tokens : List Token) (start stop : Nat) : Prop :=
  start ≤ stop ∧ stop < tokens.length ∧
    let kinds := ((tokens.drop start).take (stop + 1 - start)).map Token.kind
    kinds.count .closeParenthesis = kinds.count .openParenthesis

variable {tokens : List Token} {start stop : Nat}

instance : Decidable (Balanced tokens start stop) :=
  inferInstanceAs (Decidable (_ ∧ _ ∧ _))

/-- Tokens that are balanced are some of those from the first index on, and at least one. So an
index is as good as a front of the tokens that are left. -/
theorem Balanced.exists_prefix (h : Balanced tokens start stop) :
    ∃ front, front <+: tokens.drop start ∧ front.length = stop + 1 - start ∧ front ≠ [] ∧
      openGroups (front.map Token.kind) = 0 := by
  obtain ⟨forward, inBounds, counts⟩ := h
  have length : ((tokens.drop start).take (stop + 1 - start)).length = stop + 1 - start := by
    rw [List.length_take, List.length_drop]
    omega
  refine ⟨_, List.take_prefix _ _, length, List.ne_nil_of_length_pos (by omega), ?_⟩
  rw [openGroups, counts, Int.sub_self]

/-- Some of the tokens from an index on are balanced if they leave no group open. This is the
other direction of `Balanced.exists_prefix`. -/
theorem balanced_of_prefix {front : List Token} (hfront : front <+: tokens.drop start)
    (hne : front ≠ []) (closed : openGroups (front.map Token.kind) = 0) :
    Balanced tokens start (start + front.length - 1) := by
  have some : 0 < front.length := List.length_pos_iff.mpr hne
  have fits : front.length ≤ tokens.length - start := by
    simpa using hfront.length_le
  have width : start + front.length - 1 + 1 - start = front.length := by omega
  refine ⟨by omega, by omega, ?_⟩
  rw [width, ← List.prefix_iff_eq_take.mp hfront]
  simp only [openGroups] at closed
  omega

variable {ended : Prop} {group behind : List Token}

/-- No part of a group is balanced, so any balanced front of the tokens that are left is at least
as long as the group. -/
theorem IsGroup.length_le (h : IsGroup ended group) {front : List Token}
    (hfront : front <+: group ++ behind) (hne : front ≠ [])
    (balanced : openGroups (front.map Token.kind) = 0) : group.length ≤ front.length := by
  by_contra shorter
  have part : front <+: group :=
    List.prefix_of_prefix_length_le hfront (List.prefix_append _ _) (Nat.le_of_not_le shorter)
  have other : front ≠ group := by
    rintro rfl
    exact shorter (Nat.le_refl _)
  exact absurd balanced (Int.ne_of_gt (h.inside front part hne other))

/-- A group has some tokens, its opening parenthesis at least. -/
theorem IsGroup.ne_nil (h : IsGroup ended group) : group ≠ [] := by
  rintro rfl
  cases h.opening

/-- The first index at which the tokens are balanced is that of the
parenthesis which closes the group. -/
theorem IsGroup.isLeast_balanced (h : IsGroup ended group)
    (hdrop : tokens.drop start = group ++ behind)
    (closed : openGroups (group.map Token.kind) = 0) :
    IsLeast {stop | Balanced tokens start stop} (start + group.length - 1) := by
  constructor
  · exact balanced_of_prefix (hdrop ▸ List.prefix_append _ _) h.ne_nil closed
  · intro stop (balanced : Balanced tokens start stop)
    obtain ⟨front, hfront, length, hne, none⟩ := balanced.exists_prefix
    have shortest := h.length_le (hdrop ▸ hfront) hne none
    have forward := balanced.1
    omega

/-- A group that is not closed before the end of the line is closed nowhere, as no index behind
the end has a token. -/
theorem IsGroup.not_balanced (h : IsGroup ended group) {last : Token}
    (hdrop : tokens.drop start = group ++ [last]) (kind : last.kind = .endOfFile)
    (unclosed : openGroups (group.map Token.kind) ≠ 0) (stop : Nat) :
    ¬Balanced tokens start stop := by
  intro balanced
  obtain ⟨front, hfront, -, hne, none⟩ := balanced.exists_prefix
  rw [hdrop] at hfront
  -- The end of the line neither opens nor closes a group.
  have flat : openGroups [Kind.endOfFile] = 0 := rfl
  rcases List.prefix_concat_iff.mp hfront with rfl | part
  · rw [List.map_append, openGroups_append, List.map_singleton, kind, flat] at none
    omega
  · have whole : front = group :=
      part.eq_of_length_le (h.length_le (part.trans (List.prefix_append group [])) hne none)
    exact unclosed (whole ▸ none)

/-! ### Skipping a group -/

namespace Cursor

/-- Skips the group that the next token opens, and makes up a number for it. This is what the
parser does with a group that is too deep, taken by itself. -/
def skipGroup (cursor : Cursor) : Expr × Cursor :=
  let skipped := cursor.grammar.skipGroup cursor.current cursor.remaining.tail
  (skipped.expr, cursor.after skipped.rest skipped.diagnostics)

variable {cursor : Cursor} {last : Token}

/-- What is skipped is all that closes the group, as the grammar drops it, and the only thing
reported is that the group is too deep. -/
theorem skipGroup_eq {rest : List Token} (hremaining : cursor.remaining = cursor.current :: rest) :
    cursor.skipGroup = (.number (.missing .number cursor.current.position),
      cursor.after (Grammar.dropGroup 1 rest) [.tooDeep cursor.maxDepth]) := by
  rw [skipGroup, hremaining]
  rfl

/-- At an opening parenthesis the tokens that are left start with it, so the cursor does not stand
behind the end. -/
theorem OnLine.exists_remaining (h : cursor.OnLine tokens last)
    (opens : cursor.current.kind = .openParenthesis) :
    ∃ rest, cursor.remaining = cursor.current :: rest := by
  cases hremaining : cursor.remaining with
  | nil =>
    rw [current_eq, hremaining] at opens
    rw [show (cursor.grammar.current []).kind = .endOfFile from h.kind_endOfFile] at opens
    cases opens
  | cons token rest => exact ⟨rest, by rw [current_of_remaining hremaining]⟩

/-- A primary expression that is a group inside too many others is skipped, so skipping is what
reading does there. -/
theorem OnLine.read_primary_eq_skipGroup (h : cursor.OnLine tokens last)
    (opens : cursor.current.kind = .openParenthesis) (deep : cursor.maxDepth ≤ cursor.depth) :
    cursor.read .primary = cursor.skipGroup := by
  obtain ⟨rest, hremaining⟩ := h.exists_remaining opens
  have reading : cursor.reading .primary = cursor.grammar.skipGroup cursor.current rest := by
    rw [reading, Grammar.read_primary, hremaining]
    simp only [if_pos opens]
    exact if_pos deep
  show ((cursor.reading .primary).expr,
    cursor.after (cursor.reading .primary).rest (cursor.reading .primary).diagnostics) = _
  rw [reading, skipGroup_eq hremaining]
  rfl

/-- A group that is too deep is skipped token by token, and the steps of this end where
`Cursor.skipGroup` does. -/
theorem OnLine.steps_skipGroup (h : cursor.OnLine tokens last)
    (opens : cursor.current.kind = .openParenthesis) (waiting : List Descent.Frame) :
    Descent.Steps ⟨cursor.report (.tooDeep cursor.maxDepth), .skip cursor.current 0, waiting⟩
      ⟨cursor.skipGroup.2, .give cursor.skipGroup.1, waiting⟩ := by
  obtain ⟨rest, hremaining⟩ := h.exists_remaining opens
  rw [skipGroup_eq hremaining]
  exact Descent.steps_group h hremaining opens waiting

/-- What is skipped is the group that opens there, whatever is left behind it. The group is told
from the tokens, and may be one that the line leaves unclosed. -/
theorem OnLine.exists_group (h : cursor.OnLine tokens last)
    (opens : cursor.current.kind = .openParenthesis) :
    ∃ group behind, cursor.remaining = group ++ behind ∧ IsGroup (AtEnd behind) group ∧
      cursor.skipGroup = (.number (.missing .number cursor.current.position),
        cursor.after behind [.tooDeep cursor.maxDepth]) := by
  obtain ⟨rest, hremaining⟩ := h.exists_remaining opens
  obtain ⟨dropped, hrest, closes⟩ := closes_dropGroup 1 Nat.one_pos rest
  refine ⟨cursor.current :: dropped, Grammar.dropGroup 1 rest, ?_, closes.isGroup opens,
    skipGroup_eq hremaining⟩
  rw [hremaining, List.cons_append, ← hrest]

/-- A group behind which the line ends takes up all tokens but the last, which is the end of the
line and the only token behind it. -/
theorem OnLine.eq_of_atEnd (h : cursor.OnLine tokens last) {group behind : List Token}
    (hremaining : cursor.remaining = group ++ behind)
    (noEnd : ∀ token ∈ group, token.kind ≠ .endOfFile)
    (inside : cursor.position ≤ tokens.length) (ended : AtEnd behind) :
    cursor.position + group.length = tokens.length ∧ behind = [last] := by
  have before : cursor.tokens.take cursor.position = tokens.take cursor.position := by
    rw [h.tokens_eq, List.take_append_of_le_length inside]
  have whole : tokens ++ [last] = (tokens.take cursor.position ++ group) ++ behind := by
    rw [List.append_assoc, ← hremaining, ← before, remaining, List.take_append_drop, h.tokens_eq]
  obtain ⟨all, only⟩ := h.eq_of_current whole
    (List.forall_mem_append.mpr
      ⟨fun token htoken => h.isLine.noEnd token (List.mem_of_mem_take htoken), noEnd⟩)
    (Grammar.current_of_head h.kind_endOfFile ended)
  refine ⟨?_, only⟩
  rw [← all, List.length_append, List.length_take, Nat.min_eq_left inside]

/-- A line does not end with a group, as its last token is left behind the group. So there is
always a current token behind a group. -/
theorem OnLine.behind_ne_nil (h : cursor.OnLine tokens last) {group behind : List Token}
    (hremaining : cursor.remaining = group ++ behind)
    (noEnd : ∀ token ∈ group, token.kind ≠ .endOfFile)
    (inside : cursor.position ≤ tokens.length) : behind ≠ [] := by
  rintro rfl
  cases (h.eq_of_atEnd hremaining noEnd inside (by simp [AtEnd])).2

/-- The place behind some tokens is as much further on as they are many, so the length of a group
decides where the cursor stands. -/
theorem position_after {group behind : List Token} (hremaining : cursor.remaining = group ++ behind)
    (found : List Diagnostic) :
    (cursor.after behind found).position = cursor.position + group.length := by
  rw [after, hremaining, List.length_append, Nat.add_sub_cancel]

/-- The place behind a group follows the first index at which the tokens are
balanced. -/
theorem OnLine.eq_of_isLeast (h : cursor.OnLine tokens last) {group behind : List Token}
    (hremaining : cursor.remaining = group ++ behind) (isGroup : IsGroup (AtEnd behind) group)
    (inside : cursor.position ≤ tokens.length)
    (least : IsLeast {stop | Balanced cursor.tokens cursor.position stop} stop) :
    cursor.position + group.length = stop + 1 := by
  by_cases closed : openGroups (group.map Token.kind) = 0
  · have last := least.unique (isGroup.isLeast_balanced hremaining closed)
    have some : 0 < group.length := List.length_pos_iff.mpr isGroup.ne_nil
    omega
  · -- An unclosed group is balanced nowhere.
    have ended : AtEnd behind := isGroup.closed.resolve_left closed
    obtain ⟨-, rfl⟩ := h.eq_of_atEnd hremaining isGroup.noEnd inside ended
    exact absurd least.1 (isGroup.not_balanced hremaining h.isLine.ends closed stop)

/-- The place behind a group that no index balances is that of the end of the line, as such a
group is not closed. -/
theorem OnLine.eq_of_not_balanced (h : cursor.OnLine tokens last) {group behind : List Token}
    (hremaining : cursor.remaining = group ++ behind) (isGroup : IsGroup (AtEnd behind) group)
    (inside : cursor.position ≤ tokens.length)
    (none : ∀ stop, ¬Balanced cursor.tokens cursor.position stop) :
    cursor.position + group.length = tokens.length ∧ behind = [last] := by
  have unclosed : openGroups (group.map Token.kind) ≠ 0 := fun closed =>
    none _ (isGroup.isLeast_balanced hremaining closed).1
  exact h.eq_of_atEnd hremaining isGroup.noEnd inside (isGroup.closed.resolve_left unclosed)

end Cursor

open Cursor in
/-- What skipping a group does, in every state that a reading can be in on any line,
after any operations. If the next token is an opening parenthesis, the place behind the
group follows the least index at which as many groups are closed as opened from there
on, and it is that of the last token, which is the end of the line, if there is no such
index. At least one token is skipped, and never the end of the line. One diagnostic is
written down, and everything else of the cursor stays the same. The number that is made
up stands where the group opens.

A reading skips the group if it lies inside too many others, and it does so token by
token. -/
theorem skipGroup_spec (line : String) (largest maxDepth : Int) (operations : List Operation)
    (level : Level) (state : Descent.State)
    (reached : Descent.Steps ⟨(ofLine line largest maxDepth).perform operations, .read level, []⟩
      state)
    (opens : state.cursor.current.kind = .openParenthesis) :
    let cursor := state.cursor
    let start := cursor.position
    let (number, after) := cursor.skipGroup
    (∀ stop, IsLeast {stop | Balanced cursor.tokens start stop} stop →
      after.position = stop + 1) ∧
    ((∀ stop, ¬Balanced cursor.tokens start stop) →
      after.position + 1 = cursor.tokens.length ∧ after.current.kind = .endOfFile) ∧
    (start < after.position ∧ after.position < cursor.tokens.length ∧
      ∀ token ∈ (cursor.tokens.drop start).take (after.position - start),
        token.kind ≠ .endOfFile) ∧
    after = { cursor with
      position := after.position
      diagnostics := cursor.diagnostics ++ [.tooDeep cursor.maxDepth] } ∧
    (∃ opening, cursor.tokens[start]? = some opening ∧
      number = .number (.missing .number opening.position)) ∧
    (cursor.maxDepth ≤ cursor.depth → cursor.read .primary = (number, after)) ∧
    ∀ waiting, Descent.Steps
      ⟨cursor.report (.tooDeep cursor.maxDepth), .skip cursor.current 0, waiting⟩
      ⟨after, .give number, waiting⟩ := by
  obtain ⟨cursor, task, calls⟩ := state
  dsimp only at reached opens ⊢
  obtain ⟨tokens, onStart⟩ := onLine_ofLine line largest maxDepth
  -- All cursors of a run have the tokens of the line, so the group is found in those.
  have onBefore := onLine_perform onStart operations
  have h : cursor.OnLine tokens _ :=
    onBefore.of_tokens_eq (Descent.keeps_of_steps onBefore level reached).tokens_eq
  have length : cursor.tokens.length = tokens.length + 1 := by
    rw [h.tokens_eq, List.length_append, List.length_singleton]
  have inside : cursor.position < tokens.length := by
    have before := h.position_lt (by simp [opens])
    omega
  obtain ⟨rest, hremaining⟩ := h.exists_remaining opens
  -- The tokens that are left are the group and what stands behind it.
  obtain ⟨group, behind, hgroup, isGroup, hskip⟩ := h.exists_group opens
  have taken : group.length + behind.length = cursor.tokens.length - cursor.position := by
    rw [← List.length_append, ← hgroup, remaining, List.length_drop]
  have position := position_after hgroup [.tooDeep cursor.maxDepth]
  -- The group has its opening parenthesis at least, and the end of the line is not in it.
  have some : 0 < group.length := List.length_pos_iff.mpr isGroup.ne_nil
  have more : 0 < behind.length :=
    List.length_pos_iff.mpr (h.behind_ne_nil hgroup isGroup.noEnd (Nat.le_of_lt inside))
  have steps := h.steps_skipGroup opens
  have reads := h.read_primary_eq_skipGroup opens
  rw [hskip] at steps reads ⊢
  dsimp only at steps ⊢
  refine ⟨fun stop least => ?_, fun none => ?_, ⟨?_, ?_, ?_⟩, rfl, ⟨cursor.current, ?_, rfl⟩,
    reads, steps⟩
  · rw [position]
    exact h.eq_of_isLeast hgroup isGroup (Nat.le_of_lt inside) least
  · obtain ⟨reaches, rfl⟩ := h.eq_of_not_balanced hgroup isGroup (Nat.le_of_lt inside) none
    refine ⟨by omega, ?_⟩
    rw [current_of_remaining (remaining_after ⟨group, hgroup.symm⟩ _)]
    exact h.isLine.ends
  · omega
  · omega
  · rw [position, Nat.add_sub_cancel_left, show cursor.tokens.drop cursor.position = _ from hgroup,
      List.take_left]
    exact isGroup.noEnd
  · rw [← List.head?_drop]
    exact congrArg List.head? hremaining

open Cursor in
/-- Two lines whose first group is read and whose second one, inside of the first, is too
deep. On the one line it is closed behind a third group, and on the other not at all. -/
theorem skipGroup_spec_closed_and_unclosed :
    let closed := Cursor.ofLine "(((1)*2)/3" 9 1
    let unclosed := Cursor.ofLine "(((1)*2" 9 1
    let inClosed := (Descent.read closed closed.current [] .primary).cursor
    let inUnclosed := (Descent.read unclosed unclosed.current [] .primary).cursor
    inClosed.position = 1 ∧ IsLeast {stop | Balanced inClosed.tokens 1 stop} 7 ∧
      inClosed.skipGroup.2.position = 8 ∧
      inClosed.read .primary = inClosed.skipGroup ∧
      inUnclosed.position = 1 ∧ (∀ stop, ¬Balanced inUnclosed.tokens 1 stop) ∧
      inUnclosed.skipGroup.2.position + 1 = inUnclosed.tokens.length := by
  intro closed unclosed inClosed inUnclosed
  obtain ⟨tokens, onClosed⟩ := onLine_ofLine "(((1)*2)/3" 9 1
  obtain ⟨others, onUnclosed⟩ := onLine_ofLine "(((1)*2" 9 1
  have place : inClosed.position = 1 := by decide +kernel
  have otherPlace : inUnclosed.position = 1 := by decide +kernel
  have least : IsLeast {stop | Balanced inClosed.tokens inClosed.position stop} 7 := by
    have none : ∀ stop < 7, ¬Balanced inClosed.tokens inClosed.position stop := by decide +kernel
    exact ⟨by decide +kernel, fun stop balanced => Nat.le_of_not_lt fun less =>
      none stop less balanced⟩
  -- Only the places inside of the line have to be looked at.
  have never : ∀ stop, ¬Balanced inUnclosed.tokens inUnclosed.position stop := by
    have none : ∀ stop < inUnclosed.tokens.length,
        ¬Balanced inUnclosed.tokens inUnclosed.position stop := by decide +kernel
    exact fun stop balanced => none stop balanced.2.1 balanced
  obtain ⟨behind, -, -, -, -, reads, -⟩ := skipGroup_spec "(((1)*2)/3" 9 1 [] .primary _
    (.single (Descent.step_read onClosed .primary [])) (by decide +kernel)
  obtain ⟨-, reaches, -⟩ := skipGroup_spec "(((1)*2" 9 1 [] .primary _
    (.single (Descent.step_read onUnclosed .primary [])) (by decide +kernel)
  refine ⟨place, place ▸ least, behind 7 least, reads (by decide +kernel), otherPlace,
    otherPlace ▸ never, (reaches never).1⟩

end Calculator
