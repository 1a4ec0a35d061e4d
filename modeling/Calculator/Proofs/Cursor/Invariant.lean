import Calculator.Proofs.Cursor.Descent
import Calculator.Proofs.Cursor.Operation

/-!
# `Calculator.Proofs.Cursor.Invariant`: what every operation on a cursor keeps

`Cursor.Keeps start groups cursor` says what holds of a cursor that was led
on from `start`, while `groups` of the groups opened on the way are still
open. There is one law for each thing that a step of a reading does to the
cursor: `Keeps.report`, `Keeps.advance`, `Keeps.require`, `Keeps.enter` and
`Keeps.leave`. Together they give `keeps_of_step`, and by induction
`keeps_of_steps`: it holds at every step on the way.

`perform_invariant` puts this together with what holds of runs of
operations. The operations can come in any order, also behind the end of
the line.
-/

set_option autoImplicit false

namespace Calculator

namespace Cursor

/-- What holds of a cursor that was led on from `start`, with `groups` more
groups open. -/
structure Keeps (start : Cursor) (groups : Nat) (cursor : Cursor) : Prop where
  tokens_eq : cursor.tokens = start.tokens
  maxDepth_eq : cursor.maxDepth = start.maxDepth
  -- What is counted are the groups that are open.
  depth_eq : cursor.depth = start.depth + groups
  depth_le : (cursor.depth : Int) ≤ max (start.depth : Int) start.maxDepth
  position_ge : start.position ≤ cursor.position
  -- The end of the line is not taken.
  position_le : cursor.position ≤ max start.position (start.tokens.length - 1)
  diagnostics : start.diagnostics <+: cursor.diagnostics

variable {start cursor : Cursor} {groups : Nat} {tokens : List Token} {last : Token}

/-- A cursor keeps to its start before anything is done, with no group open. -/
theorem Keeps.refl (start : Cursor) : start.Keeps 0 start where
  tokens_eq := rfl
  maxDepth_eq := rfl
  depth_eq := rfl
  depth_le := Int.le_max_left _ _
  position_ge := Nat.le_refl _
  position_le := Nat.le_max_left _ _
  diagnostics := List.prefix_rfl

/-- A token in front of the end of the line has an index in front of the last, so taking it does
not lead behind the end. -/
theorem OnLine.position_lt (h : cursor.OnLine tokens last)
    (hkind : cursor.current.kind ≠ .endOfFile) : cursor.position < cursor.tokens.length - 1 := by
  by_contra hbehind
  rw [Nat.not_lt, h.tokens_eq, List.length_append, List.length_singleton,
    Nat.add_sub_cancel] at hbehind
  -- Behind the other tokens there is only the last one.
  refine hkind ?_
  rw [current_eq, remaining, h.tokens_eq, List.drop_append, List.drop_eq_nil_of_le hbehind,
    List.nil_append]
  cases cursor.position - tokens.length with
  | zero => exact h.isLine.ends
  | succ n =>
    rw [List.drop_succ_cons, List.drop_nil]
    exact h.kind_endOfFile

/-- Taking a token in front of the end of the line keeps the invariant, as the cursor does not
move behind the end. -/
theorem Keeps.advance (h : start.Keeps groups cursor) (hline : start.OnLine tokens last)
    (hkind : cursor.current.kind ≠ .endOfFile) : start.Keeps groups cursor.advance.2 := by
  have before := (hline.of_tokens_eq h.tokens_eq).position_lt hkind
  rw [h.tokens_eq] at before
  exact { h with
    position_ge := Nat.le_succ_of_le h.position_ge
    position_le := Nat.le_trans before (Nat.le_max_right _ _) }

/-- Writing down what is wrong keeps the invariant, as the diagnostics may grow. -/
theorem Keeps.report (h : start.Keeps groups cursor) (diagnostic : Diagnostic) :
    start.Keeps groups (cursor.report diagnostic) :=
  { h with diagnostics := h.diagnostics.trans (List.prefix_append _ _) }

/-- Requiring a token that is not the end of the line keeps the invariant, whether the token is
taken or reported as missing. -/
theorem Keeps.require (h : start.Keeps groups cursor) (hline : start.OnLine tokens last)
    {kind : Kind} (hkind : kind ≠ .endOfFile) :
    start.Keeps groups (cursor.require kind).2 := by
  by_cases found : cursor.current.kind = kind
  · rw [Cursor.require, if_pos found]
    exact h.advance hline (found ▸ hkind)
  · rw [Cursor.require, if_neg found]
    exact h.report _

/-- Counting a group for which there is room keeps the invariant, with one more group open than
before. -/
theorem Keeps.enter (h : start.Keeps groups cursor) (shallow : ¬ cursor.maxDepth ≤ cursor.depth) :
    start.Keeps (groups + 1) cursor.enter where
  __ := h
  depth_eq := congrArg (· + 1) h.depth_eq
  depth_le := by
    show ((cursor.depth + 1 : Nat) : Int) ≤ _
    rw [h.maxDepth_eq] at shallow
    omega

/-- Counting a group no longer keeps the invariant, with one group open less than before. -/
theorem Keeps.leave (h : start.Keeps (groups + 1) cursor) : start.Keeps groups cursor.leave where
  __ := h
  depth_eq := by
    show cursor.depth - 1 = _
    rw [h.depth_eq]
    rfl
  depth_le := by
    show ((cursor.depth - 1 : Nat) : Int) ≤ _
    have := h.depth_le
    omega

end Cursor

namespace Descent

/-- The groups that are open among the calls that wait. Their number is what the depth of the
cursor is above that at the start. -/
def groups : List Frame → Nat
  | [] => 0
  | .group _ :: waiting => groups waiting + 1
  | _ :: waiting => groups waiting

variable {start cursor : Cursor} {tokens : List Token} {last : Token} {waiting : List Frame}

/-! ### One step -/

/-- Starting to read an expression keeps the invariant. A group is entered only if there is room
for it, and reported if not. -/
theorem keeps_read (hline : start.OnLine tokens last) (h : start.Keeps (groups waiting) cursor)
    (level : Level) :
    let next := read cursor cursor.current waiting level
    start.Keeps (groups next.waiting) next.cursor := by
  cases level with
  | primary =>
    simp only [read]
    by_cases kind : cursor.current.kind = .openParenthesis
    · rw [if_pos kind]
      by_cases deep : cursor.maxDepth ≤ cursor.depth
      · rw [if_pos deep]
        exact h.report _
      · rw [if_neg deep]
        exact (h.advance hline (by simp [kind])).enter deep
    · rw [if_neg kind]
      exact h.require hline (by decide)
  | _ => exact h

/-- Passing over a token of a group keeps the invariant, up to the end of the line, which is not
passed over. -/
theorem keeps_skip (hline : start.OnLine tokens last) (h : start.Keeps (groups waiting) cursor)
    (opening : Token) (opened : Int) :
    let next := skip cursor cursor.current waiting opening opened
    start.Keeps (groups next.waiting) next.cursor := by
  intro next
  cases kind : cursor.current.kind with
  | endOfFile => simpa only [next, skip, kind] using h
  | closeParenthesis =>
    have advanced := h.advance hline (by simp [kind])
    simp only [next, skip, kind]
    split <;> exact advanced
  | _ => simpa only [next, skip, kind] using h.advance hline (by simp [kind])

/-- Going on with the innermost call keeps the invariant, for each sort of call. A group is the
only one that is counted, and it is left here. -/
theorem keeps_resume (hline : start.OnLine tokens last) (frame : Frame)
    (h : start.Keeps (groups (frame :: waiting)) cursor) (expr : Expr) :
    let next := resume cursor cursor.current expr waiting frame
    start.Keeps (groups next.waiting) next.cursor := by
  intro next
  cases frame with
  | chain level =>
    by_cases joins : level.joins cursor.current.kind = true
    · have hkind : cursor.current.kind ≠ .endOfFile := by
        intro hend
        simp [hend] at joins
      simp only [next, resume, if_pos joins]
      exact h.advance hline hkind
    · simp only [next, resume, if_neg joins]
      exact h
  | operand level left operator => exact h
  | group opening => exact h.leave.require hline (by decide)

/-- A step keeps everything, whichever of the three tasks it works on. This is what all runs are
built on. -/
theorem keeps_of_step (hline : start.OnLine tokens last) {state next : State}
    (h : start.Keeps (groups state.waiting) state.cursor) (hstep : step state = .goesOn next) :
    start.Keeps (groups next.waiting) next.cursor := by
  obtain ⟨cursor, task, waiting⟩ := state
  have onLine : cursor.OnLine tokens last := hline.of_tokens_eq h.tokens_eq
  cases task with
  | read level =>
    rw [step_read onLine, Turn.goesOn.injEq] at hstep
    exact hstep ▸ keeps_read hline h level
  | skip opening opened =>
    rw [step_skip onLine, Turn.goesOn.injEq] at hstep
    exact hstep ▸ keeps_skip hline h opening opened
  | give expr =>
    cases waiting with
    | nil => simp [step, onLine.current?_eq] at hstep
    | cons frame waiting =>
      rw [step_give onLine, Turn.goesOn.injEq] at hstep
      exact hstep ▸ keeps_resume hline frame h expr

/-! ### All steps -/

/-- A cursor keeps to the start of a reading after any number of steps, and the groups
counted are those that are waited for. -/
theorem keeps_of_steps (hline : start.OnLine tokens last) {state : State} (level : Level)
    (steps : Steps ⟨start, .read level, []⟩ state) :
    start.Keeps (groups state.waiting) state.cursor := by
  induction steps with
  | refl => exact .refl start
  | tail _ hstep ih => exact keeps_of_step hline ih hstep

end Descent

/-! ### Looking ahead -/

namespace Cursor

variable {cursor : Cursor} {tokens : List Token} {last : Token}

/-- There is a token at every offset but those that lie before the first
token, counted from the end. -/
theorem peek_eq_none_iff (cursor : Cursor) (offset : Int) :
    cursor.peek offset = none ↔
      cursor.position + offset < -(cursor.tokens.length : Int) := by
  unfold peek
  dsimp only
  split_ifs with behind inside counted
  · simp only [false_iff]
    omega
  · rw [List.getElem?_eq_none_iff]
    omega
  · rw [List.getElem?_eq_none_iff]
    omega
  · simp only [true_iff]
    omega

/-- On a line the last token is one of the line, so it can be looked at behind the end. -/
theorem OnLine.last_mem (h : cursor.OnLine tokens last) : cursor.last ∈ cursor.tokens := by
  rw [show cursor.last = last from h.endOfFile_grammar, h.tokens_eq]
  exact List.mem_append_right _ List.mem_cons_self

/-- On a line the token at an offset is one of the line, however far the offset leads in either
direction. -/
theorem OnLine.mem_of_peek (h : cursor.OnLine tokens last) {offset : Int} {token : Token}
    (hpeek : cursor.peek offset = some token) : token ∈ cursor.tokens := by
  unfold peek at hpeek
  dsimp only at hpeek
  split_ifs at hpeek with behind inside counted
  · exact Option.some.inj hpeek ▸ h.last_mem
  · exact List.mem_of_getElem? hpeek
  · exact List.mem_of_getElem? hpeek

/-- The next token is the one at offset zero, so looking ahead by nothing is looking at the
current token. -/
theorem peek_zero (cursor : Cursor) : cursor.peek 0 = some cursor.current := by
  unfold peek current
  dsimp only
  split_ifs with behind inside
  · rw [List.getElem?_eq_none (by omega), Option.getD_none]
  · have inBounds : cursor.position < cursor.tokens.length := by omega
    simp [inBounds]
  all_goals omega

end Cursor

/-! ### Runs of operations -/

open Descent in
/-- What holds of every operation, done after any others with a cursor of any
line. The tokens stay the same, no group is counted, the place never moves
back, and what was found wrong before stays in front. Looking ahead changes
nothing. It gives a token of the line, and fails only at an offset that lies
before the first token counted from the end. The next token is the one at
offset zero. Groups are read by recursion, and how deep the interpreter lets a
recursion go is no part of the model: every reading comes to its end here, under
any limit on groups.

The steps of a reading end where the reading does, with its expression. On
the way no step is stuck, the tokens stay the same, and the groups counted
are those that are open, which are never more than the limit. The place
never passes the last token, unless it had already. -/
theorem perform_invariant (line : String) (largest maxDepth : Int)
    (operations : List Cursor.Operation) (operation : Cursor.Operation) :
    let start := Cursor.ofLine line largest maxDepth
    let before := start.perform operations
    let after := operation.apply before
    (after.tokens = start.tokens ∧ after.depth = 0 ∧ before.position ≤ after.position ∧
      before.diagnostics <+: after.diagnostics) ∧
    (operation = .current → after = before) ∧ before.peek 0 = some before.current ∧
    (∀ offset : Int,
      (operation = .peek offset → after = before) ∧
      (before.peek offset = none ↔
        before.position + offset < -(before.tokens.length : Int)) ∧
      ∀ token ∈ before.peek offset, token ∈ start.tokens) ∧
    ∀ level : Level,
      let (expr, reached) := before.read level
      Steps ⟨before, .read level, []⟩ ⟨reached, .give expr, []⟩ ∧
      step ⟨reached, .give expr, []⟩ = .done expr ∧
      reached.position ≤ max before.position (before.tokens.length - 1) ∧
      ∀ state : State, Steps ⟨before, .read level, []⟩ state →
        step state ≠ .stuck ∧ state.cursor.tokens = start.tokens ∧
          state.cursor.depth = groups state.waiting ∧
          (state.cursor.depth : Int) ≤ max maxDepth 0 := by
  intro start before after
  obtain ⟨tokens, onStart⟩ := Cursor.onLine_ofLine line largest maxDepth
  have led : start.LeadsTo before := start.leadsTo_perform operations
  have ledOn : before.LeadsTo after := Cursor.leadsTo_apply operation before
  have onLine : before.OnLine tokens _ := onStart.of_tokens_eq led.tokens_eq
  have noGroup : before.depth = 0 := led.depth_eq
  refine ⟨⟨(led.trans ledOn).tokens_eq, (led.trans ledOn).depth_eq, ledOn.position_le,
    ledOn.diagnostics⟩, ?_, before.peek_zero, ?_, ?_⟩
  · rintro rfl
    rfl
  · intro offset
    refine ⟨?_, before.peek_eq_none_iff offset, fun token hpeek => ?_⟩
    · rintro rfl
      rfl
    · rw [← led.tokens_eq]
      exact onLine.mem_of_peek hpeek
  · intro level
    -- What holds at a step is counted from the depth before, at which no group was open.
    obtain ⟨steps, done⟩ := steps_read onLine level
    refine ⟨steps, done, (keeps_of_steps onLine level steps).position_le, ?_⟩
    intro state hstate
    have keeps := keeps_of_steps onLine level hstate
    have depth_le := keeps.depth_le
    rw [noGroup, led.maxDepth_eq] at depth_le
    refine ⟨step_ne_stuck (onLine.of_tokens_eq keeps.tokens_eq),
      keeps.tokens_eq.trans led.tokens_eq, ?_, ?_⟩
    · rw [keeps.depth_eq, noGroup, Nat.zero_add]
    · rw [Int.max_comm]
      exact depth_le

end Calculator
