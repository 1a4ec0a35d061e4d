import Calculator.Proofs.Cursor.Remaining
import Mathlib.Logic.Relation

/-!
# `Calculator.Proofs.Cursor.Descent`: a reading, call by call

`Cursor.read` says at once where a reading leads. On the way the cursor
changes bit by bit: tokens are taken one at a time, a group is counted when
it opens and no longer counted when it closes, and what is wrong is written
down as it is found. `Descent.step` is one such bit. Between two of them
stands a cursor with the calls that wait for their operands, and a step
that finds no current token is stuck.

* `steps_reads`: the steps of a part of the grammar lead where its
  derivation says, whatever calls wait. `steps_read` is the case of a whole
  reading, and says that the steps end where `Cursor.read` does.
* `step_ne_stuck`: on a line no step is stuck.
-/

set_option autoImplicit false

namespace Calculator

/-! ### The steps -/

namespace Cursor

/-- The next token, or the last one behind the end, if there are any tokens at all. A cursor
without tokens is stuck, which no line leads to. -/
def current? (cursor : Cursor) : Option Token :=
  cursor.tokens[cursor.position]?.or cursor.tokens.getLast?

/-- Writes down what is wrong, behind all that was written down before. Nothing else of the cursor
changes. -/
def report (cursor : Cursor) (diagnostic : Diagnostic) : Cursor :=
  { cursor with diagnostics := cursor.diagnostics ++ [diagnostic] }

/-- Counts one more open group. This happens before the group is read, so the count is above the
starting one within the call. -/
def enter (cursor : Cursor) : Cursor :=
  { cursor with depth := cursor.depth + 1 }

/-- Counts one open group less, when its parenthesis was read or made up. -/
def leave (cursor : Cursor) : Cursor :=
  { cursor with depth := cursor.depth - 1 }

end Cursor

namespace Descent

/-- A call that waits for an expression, with what it has read so far. The frames of a state are
the calls inside which the parser is, the innermost first. -/
inductive Frame where
  /-- A chain, for the operands in front of its next operator. -/
  | chain (level : Level)
  /-- An operator of a chain, for its right operand. -/
  | operand (level : Level) (left : Expr) (operator : Token)
  /-- A group, for what is inside. -/
  | group (opening : Token)
  deriving Repr

/-- What is to be done next. -/
inductive Task where
  /-- To read an expression of a level. -/
  | read (level : Level)
  /-- To pass over a group that is too deep, inside of which `opened`
  groups are open. -/
  | skip (opening : Token) (opened : Int)
  /-- To give an expression to the call that waits for it. -/
  | give (expr : Expr)
  deriving Repr

/-- What there is between two steps. -/
structure State where
  /-- The place reached. -/
  cursor : Cursor
  /-- What is to be done there. -/
  task : Task
  /-- The calls that wait, the innermost first. -/
  waiting : List Frame

/-- What a step leads to. -/
inductive Turn where
  /-- Another state. -/
  | goesOn (state : State)
  /-- An expression that no call waits for. -/
  | done (expr : Expr)
  /-- Nothing, because there is no current token. -/
  | stuck

/-- Starts to read an expression of a level, of which `token` is the
first. -/
def read (cursor : Cursor) (token : Token) (waiting : List Frame) : Level → State
  | .primary =>
    if token.kind = .openParenthesis then
      if cursor.maxDepth ≤ cursor.depth then
        ⟨cursor.report (.tooDeep cursor.maxDepth), .skip token 0, waiting⟩
      else
        ⟨cursor.advance.2.enter, .read .term, .group token :: waiting⟩
    else
      let number := cursor.require .number
      ⟨number.2, .give (.number number.1), waiting⟩
  | level => ⟨cursor, .read level.operand, .chain level :: waiting⟩

/-- Passes over one token of a group, until no group is open or the line ends. The group is
replaced by a number that is made up. -/
def skip (cursor : Cursor) (token : Token) (waiting : List Frame) (opening : Token)
    (opened : Int) : State :=
  let number : Expr := .number (.missing .number opening.position)
  match token.kind with
  | .endOfFile => ⟨cursor, .give number, waiting⟩
  | .openParenthesis => ⟨cursor.advance.2, .skip opening (opened + 1), waiting⟩
  | .closeParenthesis =>
    if opened - 1 = 0 then ⟨cursor.advance.2, .give number, waiting⟩
    else ⟨cursor.advance.2, .skip opening (opened - 1), waiting⟩
  | _ => ⟨cursor.advance.2, .skip opening opened, waiting⟩

/-- Goes on with the call that waits for `expr`, behind which `token` stands. What happens next
depends on the kind of call, and that is all that has to be known of it. -/
def resume (cursor : Cursor) (token : Token) (expr : Expr) (waiting : List Frame) :
    Frame → State
  | .chain level =>
    if level.joins token.kind then
      ⟨cursor.advance.2, .read level.operand, .operand level expr token :: waiting⟩
    else
      ⟨cursor, .give expr, waiting⟩
  | .operand level left operator =>
    ⟨cursor, .give (.binary left operator expr), .chain level :: waiting⟩
  | .group opening =>
    let closing := cursor.leave.require .closeParenthesis
    ⟨closing.2, .give (.parenthesized opening expr closing.1), waiting⟩

/-- One step of the parser, as it is seen from inside of its calls. It goes on, it is done with
the whole expression, or it is stuck for want of tokens. -/
def step (state : State) : Turn :=
  match state.cursor.current? with
  | none => .stuck
  | some token =>
    match state.task, state.waiting with
    | .read level, waiting => .goesOn (read state.cursor token waiting level)
    | .skip opening opened, waiting =>
      .goesOn (skip state.cursor token waiting opening opened)
    | .give expr, frame :: waiting =>
      .goesOn (resume state.cursor token expr waiting frame)
    | .give expr, [] => .done expr

/-- One state leads to the other in some steps. What holds at each of them holds inside of the
calls, and not only behind them. -/
abbrev Steps : State → State → Prop :=
  Relation.ReflTransGen fun state next => step state = .goesOn next

end Descent

/-- On a line there is a current token wherever the cursor stands, as a line has at least its
end. -/
theorem Cursor.OnLine.current?_eq {cursor : Cursor} {tokens : List Token} {last : Token}
    (h : cursor.OnLine tokens last) : cursor.current? = some cursor.current := by
  have hlast : cursor.tokens.getLast? = some cursor.last := by
    rw [Cursor.last, h.tokens_eq, List.getLast?_concat]
    rfl
  rw [current?, current, hlast]
  cases cursor.tokens[cursor.position]? <;> rfl

namespace Descent

variable {cursor : Cursor} {tokens : List Token} {last : Token}

/-! ### Where the steps lead -/

/-- A step at the current token, which is there on a line, so reading does start. -/
theorem step_read (h : cursor.OnLine tokens last) (level : Level) (waiting : List Frame) :
    step ⟨cursor, .read level, waiting⟩ =
      .goesOn (read cursor cursor.current waiting level) := by
  simp only [step, h.current?_eq]

theorem step_skip (h : cursor.OnLine tokens last) (opening : Token) (opened : Int)
    (waiting : List Frame) :
    step ⟨cursor, .skip opening opened, waiting⟩ =
      .goesOn (skip cursor cursor.current waiting opening opened) := by
  simp only [step, h.current?_eq]

theorem step_give (h : cursor.OnLine tokens last) (expr : Expr) (frame : Frame)
    (waiting : List Frame) :
    step ⟨cursor, .give expr, frame :: waiting⟩ =
      .goesOn (resume cursor cursor.current expr waiting frame) := by
  simp only [step, h.current?_eq]

/-- A group is passed over up to where `Grammar.dropGroup` says, and then a number is made up
where the group starts. The induction is on the tokens that are left. -/
theorem steps_skip (h : cursor.OnLine tokens last) (opening : Token) {opened : Nat}
    (hopened : 0 < opened) (waiting : List Frame) :
    Steps ⟨cursor, .skip opening opened, waiting⟩
      ⟨cursor.after (Grammar.dropGroup opened cursor.remaining) [],
        .give (.number (.missing .number opening.position)), waiting⟩ := by
  generalize hremaining : cursor.remaining = input
  induction input generalizing cursor opened with
  | nil =>
    have kind : cursor.current.kind = .endOfFile := by
      rw [Cursor.current_eq, hremaining]
      exact h.kind_endOfFile
    rw [Grammar.dropGroup, Cursor.after_self hremaining]
    exact .single (by rw [step_skip h, skip, kind])
  | cons token rest ih =>
    have current := Cursor.current_of_remaining hremaining
    have advanced := Cursor.advance_snd_eq hremaining
    have isSuffix : rest <:+ cursor.remaining := Cursor.suffix_of_remaining hremaining
    -- A token behind which some group is still open is passed over like the rest.
    have goesOn : ∀ next : Nat, 0 < next →
        skip cursor token waiting opening opened =
          ⟨cursor.advance.2, .skip opening next, waiting⟩ →
        Grammar.dropGroup opened (token :: rest) = Grammar.dropGroup next rest →
        Steps ⟨cursor, .skip opening opened, waiting⟩
          ⟨cursor.after (Grammar.dropGroup opened (token :: rest)) [],
            .give (.number (.missing .number opening.position)), waiting⟩ := by
      intro next hnext hskip hdrop
      have later := ih (h.further rest []) hnext (Cursor.remaining_after isSuffix [])
      obtain ⟨dropped, hdropped, -⟩ := closes_dropGroup next hnext rest
      rw [Cursor.after_after isSuffix ⟨dropped, hdropped.symm⟩, ← hdrop] at later
      exact .head (by rw [step_skip h, current, hskip, advanced]) later
    cases hkind : token.kind with
    | endOfFile =>
      have hdrop : Grammar.dropGroup opened (token :: rest) = token :: rest := by
        simp [Grammar.dropGroup, hkind]
      rw [hdrop, Cursor.after_self hremaining]
      exact .single (by rw [step_skip h, current, skip, hkind])
    | openParenthesis =>
      exact goesOn (opened + 1) (Nat.succ_pos opened) (by rw [skip, hkind]; rfl)
        (by simp [Grammar.dropGroup, hkind])
    | closeParenthesis =>
      by_cases hlast : opened ≤ 1
      · -- The parenthesis closes the last open group.
        have hdrop : Grammar.dropGroup opened (token :: rest) = rest := by
          simp [Grammar.dropGroup, hkind, hlast]
        have none : (opened : Int) - 1 = 0 := by omega
        rw [hdrop, ← advanced]
        exact .single (by simp only [step_skip h, current, skip, hkind, if_pos none])
      · have some : ¬ (opened : Int) - 1 = 0 := by omega
        have less : ((opened - 1 : Nat) : Int) = opened - 1 := by omega
        exact goesOn (opened - 1) (by omega) (by simp only [skip, hkind, if_neg some, less])
          (by simp [Grammar.dropGroup, hkind, hlast])
    | _ =>
      exact goesOn opened hopened (by rw [skip, hkind]) (by simp [Grammar.dropGroup, hkind])

/-- Once a group is reported, it is passed over from its first token on, which is its own
parenthesis and opens the count. -/
theorem steps_group (h : cursor.OnLine tokens last) {opening : Token} {rest : List Token}
    (hremaining : cursor.remaining = opening :: rest) (kind : opening.kind = .openParenthesis)
    (waiting : List Frame) :
    Steps ⟨cursor.report (.tooDeep cursor.maxDepth), .skip opening 0, waiting⟩
      ⟨cursor.after (Grammar.dropGroup 1 rest) [.tooDeep cursor.maxDepth],
        .give (.number (.missing .number opening.position)), waiting⟩ := by
  have current := Cursor.current_of_remaining hremaining
  have isSuffix : rest <:+ cursor.remaining := Cursor.suffix_of_remaining hremaining
  obtain ⟨dropped, hdropped, -⟩ := closes_dropGroup 1 Nat.one_pos rest
  have onLine : (cursor.report (.tooDeep cursor.maxDepth)).OnLine tokens last :=
    h.of_tokens_eq rfl
  have advanced : (cursor.report (.tooDeep cursor.maxDepth)).advance.2 =
      cursor.after rest [.tooDeep cursor.maxDepth] := by
    rw [Cursor.after, hremaining, List.length_cons, Nat.add_sub_cancel_left]
    rfl
  -- The first token of the group is passed over by the loop, like the others.
  have first : step ⟨cursor.report (.tooDeep cursor.maxDepth), .skip opening 0, waiting⟩ =
      .goesOn ⟨cursor.after rest [.tooDeep cursor.maxDepth], .skip opening 1, waiting⟩ := by
    rw [step_skip onLine, show (cursor.report _).current = opening from current, skip, kind,
      ← advanced]
    rfl
  have others := steps_skip (h.further rest [.tooDeep cursor.maxDepth]) opening Nat.one_pos waiting
  rw [Cursor.remaining_after isSuffix,
    Cursor.after_after isSuffix ⟨dropped, hdropped.symm⟩] at others
  exact .head first others

/-- A group that is too deep is reported and passed over, and nothing of it is read. -/
theorem steps_tooDeep (h : cursor.OnLine tokens last) {opening : Token} {rest : List Token}
    (hremaining : cursor.remaining = opening :: rest) (kind : opening.kind = .openParenthesis)
    (deep : cursor.maxDepth ≤ cursor.depth) (waiting : List Frame) :
    Steps ⟨cursor, .read .primary, waiting⟩
      ⟨cursor.after (Grammar.dropGroup 1 rest) [.tooDeep cursor.maxDepth],
        .give (.number (.missing .number opening.position)), waiting⟩ := by
  have enter : step ⟨cursor, .read .primary, waiting⟩ =
      .goesOn ⟨cursor.report (.tooDeep cursor.maxDepth), .skip opening 0, waiting⟩ := by
    rw [step_read h, Cursor.current_of_remaining hremaining]
    simp only [read, if_pos kind, if_pos deep]
  exact .head enter (steps_group h hremaining kind waiting)

/-- A group is closed where its parenthesis was counted, and counted no longer, whether the
closing one is there or made up. -/
theorem step_close (h : cursor.OnLine tokens last) (opening : Token) (inner : Expr)
    (waiting : List Frame) :
    let closing := cursor.grammar.require .closeParenthesis cursor.remaining
    step ⟨cursor.enter, .give inner, .group opening :: waiting⟩ =
      .goesOn ⟨cursor.after closing.rest closing.diagnostics,
        .give (.parenthesized opening inner closing.token), waiting⟩ := by
  intro closing
  have onLine : cursor.enter.OnLine tokens last := h.of_tokens_eq rfl
  have required : cursor.enter.leave.require .closeParenthesis =
      (closing.token, cursor.after closing.rest closing.diagnostics) :=
    h.require_eq_after (by decide)
  rw [step_give onLine]
  simp only [resume, required]

/-- The state in which a part is about to be read. There is one for each sort of part that the
grammar has, and the calls that wait stay as they are. -/
def begin (cursor : Cursor) (waiting : List Frame) : Grammar.Part → State
  | .whole level => ⟨cursor, .read level, waiting⟩
  | .behind level left => ⟨cursor, .give left, .chain level :: waiting⟩

/-- The steps lead where the grammar says, whatever calls wait. The groups
that were counted on the way no longer are. -/
theorem steps_reads (h : cursor.OnLine tokens last) {part : Grammar.Part} {reading : Reading}
    (derivation : cursor.grammar.Reads cursor.depth part cursor.remaining reading)
    (waiting : List Frame) :
    Steps (begin cursor waiting part)
      ⟨cursor.after reading.rest reading.diagnostics, .give reading.expr, waiting⟩ := by
  -- The induction needs what the cursor holds as variables.
  generalize hgrammar : cursor.grammar = grammar at derivation
  generalize hdepth : cursor.depth = depth at derivation
  generalize hremaining : cursor.remaining = input at derivation
  induction derivation generalizing cursor waiting with
  | @number depth input head =>
    subst hgrammar hremaining
    have noGroup : cursor.current.kind ≠ .openParenthesis := by
      rw [Cursor.current_eq]
      exact Grammar.current_of_head (p := fun token => token.kind ≠ .openParenthesis)
        (by simp [h.kind_endOfFile]) head
    have number := h.require_eq_after (show Kind.number ≠ .endOfFile by decide)
    exact .single (by simp only [begin, step_read h, read, if_neg noGroup, number]; rfl)
  | @tooDeep depth opening rest kind deep =>
    subst hgrammar hdepth
    exact steps_tooDeep h hremaining kind deep waiting
  | @group depth opening rest inner kind shallow readsInner ih =>
    subst hgrammar hdepth
    have current := Cursor.current_of_remaining hremaining
    have isSuffix : rest <:+ cursor.remaining := Cursor.suffix_of_remaining hremaining
    have inner_suffix := readsInner.suffix h.kind_endOfFile
    have advanced := Cursor.advance_snd_eq hremaining
    have enter : step ⟨cursor, .read .primary, waiting⟩ =
        .goesOn ⟨(cursor.after rest []).enter, .read .term, .group opening :: waiting⟩ := by
      rw [step_read h, current]
      simp only [read, if_pos kind, advanced,
        if_neg (show ¬ cursor.maxDepth ≤ cursor.depth from Int.not_le.mpr shallow)]
    have inside := ih (h.of_tokens_eq rfl : (cursor.after rest []).enter.OnLine tokens last)
      (.group opening :: waiting) rfl rfl (Cursor.remaining_after isSuffix [])
    -- Behind what is inside, the group is still counted.
    have counted : (cursor.after rest []).enter.after inner.rest inner.diagnostics =
        (cursor.after inner.rest inner.diagnostics).enter :=
      congrArg Cursor.enter (Cursor.after_after isSuffix inner_suffix [] inner.diagnostics)
    have closed := step_close (h.further inner.rest inner.diagnostics) opening inner.expr waiting
    simp only [Cursor.remaining_after (inner_suffix.trans isSuffix),
      Cursor.after_after (inner_suffix.trans isSuffix)
        (Grammar.require_suffix _ .closeParenthesis inner.rest)] at closed
    rw [counted] at inside
    exact .head enter (inside.tail closed)
  | @operands depth level input first whole hne readsFirst readsBehind ihFirst ihBehind =>
    subst hgrammar hdepth hremaining
    have first_suffix := readsFirst.suffix h.kind_endOfFile
    have whole_suffix := readsBehind.suffix h.kind_endOfFile
    have enter : step ⟨cursor, .read level, waiting⟩ =
        .goesOn ⟨cursor, .read level.operand, .chain level :: waiting⟩ := by
      rw [step_read h]
      cases level with
      | primary => exact absurd rfl hne
      | _ => rfl
    have stepsFirst := ihFirst h (.chain level :: waiting) rfl rfl rfl
    have stepsBehind := ihBehind (h.further first.rest first.diagnostics) waiting rfl rfl
      (Cursor.remaining_after first_suffix first.diagnostics)
    rw [Cursor.after_after first_suffix whole_suffix] at stepsBehind
    exact .head enter (stepsFirst.trans stepsBehind)
  | @stop depth level left input head =>
    subst hgrammar
    have stops : level.joins cursor.current.kind = false := by
      rw [Cursor.current_eq, hremaining]
      exact Grammar.current_of_head (p := fun token => level.joins token.kind = false)
        (by simp [h.kind_endOfFile]) head
    rw [Cursor.after_self hremaining]
    exact .single (by simp [begin, step_give h, resume, stops])
  | @operator depth level left token rest right whole joins readsRight readsBehind ihRight
      ihBehind =>
    subst hgrammar hdepth
    have current := Cursor.current_of_remaining hremaining
    have isSuffix : rest <:+ cursor.remaining := Cursor.suffix_of_remaining hremaining
    have right_suffix := readsRight.suffix h.kind_endOfFile
    have whole_suffix := readsBehind.suffix h.kind_endOfFile
    have advanced := Cursor.advance_snd_eq hremaining
    have operator : step ⟨cursor, .give left, .chain level :: waiting⟩ =
        .goesOn ⟨cursor.after rest [], .read level.operand,
          .operand level left token :: waiting⟩ := by
      rw [step_give h, current]
      simp only [resume, if_pos joins, advanced]
    have stepsRight := ihRight (h.further rest []) (.operand level left token :: waiting) rfl rfl
      (Cursor.remaining_after isSuffix [])
    rw [Cursor.after_after isSuffix right_suffix, List.nil_append] at stepsRight
    have onRight := h.further right.rest right.diagnostics
    have stepsBehind := ihBehind onRight waiting rfl rfl
      (Cursor.remaining_after (right_suffix.trans isSuffix) right.diagnostics)
    rw [Cursor.after_after (right_suffix.trans isSuffix) whole_suffix] at stepsBehind
    exact .head operator (stepsRight.trans (.head (step_give onRight ..) stepsBehind))

/-- The steps that start a reading end with the expression and at the place that
`Cursor.read` gives, and there they are done. -/
theorem steps_read (h : cursor.OnLine tokens last) (level : Level) :
    Steps ⟨cursor, .read level, []⟩
        ⟨(cursor.read level).2, .give (cursor.read level).1, []⟩ ∧
      step ⟨(cursor.read level).2, .give (cursor.read level).1, []⟩ =
        .done (cursor.read level).1 := by
  refine ⟨steps_reads h (cursor.reads_reading level) [], ?_⟩
  simp only [step, (h.read level).current?_eq]

/-- On a line no step is stuck, as there is always a current token. So the machine only stops when
it is done. -/
theorem step_ne_stuck {state : State} (h : state.cursor.OnLine tokens last) :
    step state ≠ .stuck := by
  obtain ⟨cursor, task, waiting⟩ := state
  simp only [step, h.current?_eq]
  cases task with
  | read level => exact Turn.noConfusion
  | skip opening opened => exact Turn.noConfusion
  | give expr => cases waiting <;> exact Turn.noConfusion

end Descent

end Calculator
