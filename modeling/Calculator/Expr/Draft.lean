import Calculator.Expr
import Calculator.FieldError

/-!
# `Calculator.Expr.Draft`: expressions put together by hand

A draft describes a tree whose tokens were not checked: a kind may be any
text and a position any integer. Building it checks the tokens and the
operators from left to right, operands before their operation, and the
first part that fails decides. A binary operation may be built without the
check of its operator, so that evaluation meets operators of other kinds.

The program declares what is checked: the kinds that there are, the least
position, and the kinds of operators. A library checks it, and `TokenDraft.build`
is what this library is documented to do with the declaration of a token: all
fields are checked, and all that are refused are reported. A part that is refused
is not built, so nothing is built around it.

* `TokenDraft.build`: the token of a draft, or every field that is wrong.
* `Draft.build`: the expression of a draft.
-/

set_option autoImplicit false

namespace Calculator

/-- A token that is not checked yet. -/
structure TokenDraft where
  /-- The name of the kind. -/
  kind : String
  /-- The position. -/
  position : Int
  /-- The text, if any. -/
  text : Option String
  /-- The value, if any. -/
  value : Option Int
  deriving Repr, DecidableEq

/-- The token of a draft, as the library that checks it is documented to build it. Its
kind must be known and its position must not be negative, and both faults are
reported if both are there. -/
def TokenDraft.build (draft : TokenDraft) : Except (List FieldError) Token :=
  let negative : List FieldError :=
    if draft.position < 0 then [⟨"position", .tooSmall 0⟩] else []
  match Kind.ofName? draft.kind with
  | none => .error (⟨"kind", .unknownKind⟩ :: negative)
  | some kind =>
    if negative.isEmpty then
      .ok ⟨kind, draft.position.toNat, draft.text, draft.value⟩
    else
      .error negative

/-- An expression that is not checked yet. Its parts are drafts themselves, and are built before
it. -/
inductive Draft where
  /-- A literal. -/
  | number (literal : TokenDraft)
  /-- A binary operation, whose operator is to be checked or not. -/
  | binary (left : Draft) (operator : TokenDraft) (right : Draft) (checked : Bool)
  /-- A group in parentheses. -/
  | parenthesized (opening : TokenDraft) (inner : Draft) (closing : TokenDraft)
  deriving Repr

namespace Draft

/-- A binary operation of parts that are in order by themselves. -/
def join (checked : Bool) (left : Expr) (operator : Token) (right : Expr) :
    Except (List FieldError) Expr :=
  if checked && !operator.kind.isOperator then
    .error [⟨"operator_token", .notAnOperator operator.kind⟩]
  else
    .ok (.binary left operator right)

/-- The expression of a draft, or what is wrong with the first part that
fails. -/
def build : Draft → Except (List FieldError) Expr
  | number literal => do
    return .number (← literal.build)
  | binary left operator right checked => do
    let left ← left.build
    let operator ← operator.build
    let right ← right.build
    join checked left operator right
  | parenthesized opening inner closing => do
    let opening ← opening.build
    let inner ← inner.build
    let closing ← closing.build
    return .parenthesized opening inner closing

end Draft

/-- A node that is not checked yet. -/
inductive NodeDraft where
  /-- A leaf. -/
  | token (leaf : TokenDraft)
  /-- An inner node. -/
  | expr (inner : Draft)
  deriving Repr

/-- The node of a draft, which may be a token by itself. -/
def NodeDraft.build : NodeDraft → Except (List FieldError) Node
  | token leaf => return .token (← leaf.build)
  | expr inner => return .expr (← inner.build)

end Calculator
