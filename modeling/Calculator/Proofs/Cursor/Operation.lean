import Calculator.Proofs.Cursor.Remaining

/-!
# `Calculator.Proofs.Cursor.Operation`: runs of operations on a cursor

Whoever holds a cursor can look ahead, take or require single tokens, and
read expressions or the rest of the line, in any order and any number of
times. `Operation` lists these operations as data and `Cursor.perform`
carries them out one after the other.

`Cursor.LeadsTo` says what no operation undoes: the tokens, the limit and
the count of groups are the same, the place never moves back, and what was
written down stays. It holds of one operation (`leadsTo_apply`), so it holds
of all runs (`leadsTo_perform`), and with it the cursor stays on the line
that it was made for (`onLine_perform`).
-/

set_option autoImplicit false

namespace Calculator.Cursor

/-- Something that can be done with a cursor: looking ahead, taking or requiring a token, reading
an expression of some level, and parsing all that is left. -/
inductive Operation where
  | peek (offset : Int)
  | current
  | advance
  | require (kind : Kind)
  | read (level : Level)
  | parse
  deriving Repr

/-- The cursor after an operation. Looking ahead leaves it as it is, and the token that was seen
is of no matter here. -/
def Operation.apply (operation : Operation) (cursor : Cursor) : Cursor :=
  match operation with
  | peek _ | current => cursor
  | advance => cursor.advance.2
  | require kind => (cursor.require kind).2
  | read level => (cursor.read level).2
  | parse => cursor.parse.2

/-- The cursor after some operations, one after the other. Any use of a parser is such a run. -/
def perform (cursor : Cursor) (operations : List Operation) : Cursor :=
  operations.foldl (fun cursor operation => operation.apply cursor) cursor

/-- What is the same and what only grows from one cursor to a later one. This is what every
operation keeps, and it can be put together. -/
structure LeadsTo (before after : Cursor) : Prop where
  tokens_eq : after.tokens = before.tokens
  maxDepth_eq : after.maxDepth = before.maxDepth
  depth_eq : after.depth = before.depth
  position_le : before.position ≤ after.position
  diagnostics : before.diagnostics <+: after.diagnostics

/-- A cursor that is left as it is, to which looking ahead leads. -/
theorem LeadsTo.refl (cursor : Cursor) : cursor.LeadsTo cursor :=
  ⟨rfl, rfl, rfl, Nat.le_refl _, List.prefix_rfl⟩

/-- A cursor that is led on twice is led on, as all its parts grow or stay the same. -/
theorem LeadsTo.trans {before between after : Cursor} (h : before.LeadsTo between)
    (hafter : between.LeadsTo after) : before.LeadsTo after where
  tokens_eq := hafter.tokens_eq.trans h.tokens_eq
  maxDepth_eq := hafter.maxDepth_eq.trans h.maxDepth_eq
  depth_eq := hafter.depth_eq.trans h.depth_eq
  position_le := Nat.le_trans h.position_le hafter.position_le
  diagnostics := h.diagnostics.trans hafter.diagnostics

/-- A cursor that took some tokens and found something wrong. Every operation is a case of
this. -/
theorem leadsTo_update (cursor : Cursor) (taken : Nat) (found : List Diagnostic) :
    cursor.LeadsTo { cursor with
      position := cursor.position + taken
      diagnostics := cursor.diagnostics ++ found } :=
  ⟨rfl, rfl, rfl, Nat.le_add_right _ _, List.prefix_append _ _⟩

/-- Taking a token leads on, also at the end of the line, behind which the cursor then stands. -/
theorem leadsTo_advance (cursor : Cursor) : cursor.LeadsTo cursor.advance.2 :=
  ⟨rfl, rfl, rfl, Nat.le_succ _, List.prefix_rfl⟩

/-- Requiring a token either takes it or finds something wrong, and leads on in both cases. -/
theorem leadsTo_require (cursor : Cursor) (kind : Kind) :
    cursor.LeadsTo (cursor.require kind).2 := by
  unfold require
  dsimp only
  split
  · exact cursor.leadsTo_advance
  · exact cursor.leadsTo_update 0 [.unexpectedToken cursor.current.kind kind]

/-- Every operation leads on, a reading among them, which takes many tokens at once. -/
theorem leadsTo_apply (operation : Operation) (cursor : Cursor) :
    cursor.LeadsTo (operation.apply cursor) := by
  cases operation with
  | peek offset => exact .refl cursor
  | current => exact .refl cursor
  | advance => exact cursor.leadsTo_advance
  | require kind => exact cursor.leadsTo_require kind
  | read level => exact cursor.leadsTo_update _ _
  | parse =>
    exact .trans (cursor.leadsTo_update _ _) ((cursor.read .term).2.leadsTo_require .endOfFile)

/-- A cursor leads to the one behind any run of operations, by induction on the run. -/
theorem leadsTo_perform (cursor : Cursor) (operations : List Operation) :
    cursor.LeadsTo (cursor.perform operations) := by
  induction operations generalizing cursor with
  | nil => exact .refl cursor
  | cons operation operations ih => exact (leadsTo_apply operation cursor).trans (ih _)

/-- A cursor stays on its line whatever is done with it, so no run of operations changes the
tokens. -/
theorem onLine_perform {cursor : Cursor} {tokens : List Token} {last : Token}
    (h : cursor.OnLine tokens last) (operations : List Operation) :
    (cursor.perform operations).OnLine tokens last :=
  h.of_tokens_eq (cursor.leadsTo_perform operations).tokens_eq

end Calculator.Cursor
