import Calculator.Token
import Calculator.Expr

/-!
# `Calculator.Grammar`: reading expressions from tokens

The grammar has three levels. Operators of one level bind alike and to the
left, and the operands of a level are the expressions of the next:

```text
term     = factor  (("+" | "-") factor)*
factor   = primary (("*" | "/") primary)*
primary  = "(" term ")" | number
```

Reading always gives an expression. Where a number or a closing
parenthesis is missing, a token is made up at the position of the token
that stands there instead, and that token stays unread. A group that lies
inside too many others is passed over as a whole, and a number is made up
for it.

* `Grammar.read`: reads an expression of a level.
* `Grammar.extend`: goes on with the operators of a level, once the first
  operand is read.
* `read_primary`, `read_eq_extend`, `extend_cons`, `extend_nil`: what the
  two do, in terms of each other.
* `length_rest_read_le`: reading never lengthens what is left.
-/

set_option autoImplicit false

namespace Calculator

/-- The levels of the grammar, from the loosest to the tightest. -/
inductive Level where
  | term
  | factor
  | primary
  deriving Repr, DecidableEq

namespace Level

/-- The level of the operands, which binds tighter by one. The tightest level has no operands. -/
def operand : Level → Level
  | term => factor
  | factor | primary => primary

/-- Whether tokens of a kind join the operands of a level. Primary expressions are joined by
none. -/
def joins : Level → Kind → Bool
  | term, .plus | term, .minus => true
  | factor, .star | factor, .slash => true
  | _, _ => false

/-- The number of levels below a level. With the number of tokens it decreases from call to
call. -/
def rank : Level → Nat
  | term => 2
  | factor => 1
  | primary => 0

/-- Two levels lie below the loosest one. -/
theorem rank_le_two (level : Level) : level.rank ≤ 2 := by
  cases level <;> decide

/-- Some level lies below every level but the lowest. -/
theorem rank_pos {level : Level} (h : level ≠ primary) : 0 < level.rank := by
  cases level with
  | term => decide
  | factor => decide
  | primary => exact absurd rfl h

/-- Operands lie one level lower, except at the lowest. -/
theorem rank_operand_lt {level : Level} (h : level ≠ primary) :
    level.operand.rank < level.rank := by
  cases level with
  | term => decide
  | factor => decide
  | primary => exact absurd rfl h

end Level

/-- What reading depends on besides the tokens: the limit on groups, and the token at which a line
ends. -/
structure Grammar where
  /-- The number of groups that may lie inside each other. -/
  maxDepth : Int
  /-- The token that stands behind all others. -/
  endOfFile : Token
  deriving Repr

/-- An expression read from the front of some tokens. There always is one, as missing tokens are
made up. -/
structure Reading where
  /-- The expression. -/
  expr : Expr
  /-- What was found wrong while it was read. -/
  diagnostics : List Diagnostic
  /-- The tokens behind it. -/
  rest : List Token
  deriving Repr

/-- A token of a required kind, read from the front of some tokens or made
up. -/
structure Required where
  /-- The token. -/
  token : Token
  /-- What was found wrong, if the token was made up. -/
  diagnostics : List Diagnostic
  /-- The tokens behind it. -/
  rest : List Token
  deriving Repr

namespace Grammar

/-- The first token. -/
def current (grammar : Grammar) (input : List Token) : Token :=
  input.headD grammar.endOfFile

/-- Reads a token of a kind, or makes one up and leaves the tokens as they
are. -/
def require (grammar : Grammar) (kind : Kind) (input : List Token) : Required :=
  let found := grammar.current input
  if found.kind = kind then
    ⟨found, [], input.tail⟩
  else
    ⟨.missing kind found.position, [.unexpectedToken found.kind kind], input⟩

/-- Requiring a token never lengthens what is left. -/
theorem length_rest_require_le (grammar : Grammar) (kind : Kind) (input : List Token) :
    (grammar.require kind input).rest.length ≤ input.length := by
  unfold require
  dsimp only
  split
  · simp
  · exact Nat.le_refl _

/-- The tokens behind the parenthesis that closes the outermost of some
open groups, or the end-of-file token if it is never closed. -/
def dropGroup (opened : Nat) : (input : List Token) → List Token
  | [] => []
  | token :: rest =>
    match token.kind with
    | .endOfFile => token :: rest
    | .openParenthesis => dropGroup (opened + 1) rest
    | .closeParenthesis => if opened ≤ 1 then rest else dropGroup (opened - 1) rest
    | _ => dropGroup opened rest

/-- Dropping a group never lengthens what is left. -/
theorem length_dropGroup_le (opened : Nat) (input : List Token) :
    (dropGroup opened input).length ≤ input.length := by
  induction input generalizing opened with
  | nil => exact Nat.le_refl _
  | cons token rest ih =>
    unfold dropGroup
    split
    · exact Nat.le_refl _
    · exact Nat.le_succ_of_le (ih _)
    · split
      · exact Nat.le_succ _
      · exact Nat.le_succ_of_le (ih _)
    · exact Nat.le_succ_of_le (ih _)

/-- Reads a number, or makes one up at the place of the token that stands there instead. -/
def readNumber (grammar : Grammar) (input : List Token) : Reading :=
  let number := grammar.require .number input
  ⟨.number number.token, number.diagnostics, number.rest⟩

/-- Passes over the group that `opening` opens and makes up a number for
it. -/
def skipGroup (grammar : Grammar) (opening : Token) (rest : List Token) : Reading :=
  ⟨.number (.missing .number opening.position), [.tooDeep grammar.maxDepth],
    dropGroup 1 rest⟩

/-- Closes the group that `opening` opens, with the next token or with a parenthesis that is made
up. -/
def closeGroup (grammar : Grammar) (opening : Token) (inner : Reading) : Reading :=
  let closing := grammar.require .closeParenthesis inner.rest
  ⟨.parenthesized opening inner.expr closing.token,
    inner.diagnostics ++ closing.diagnostics, closing.rest⟩

/-- Reading a number never lengthens what is left. -/
theorem length_rest_readNumber_le (grammar : Grammar) (input : List Token) :
    (grammar.readNumber input).rest.length ≤ input.length :=
  grammar.length_rest_require_le .number input

/-- Closing a group never lengthens what is left. -/
theorem length_rest_closeGroup_le (grammar : Grammar) (opening : Token)
    (inner : Reading) :
    (grammar.closeGroup opening inner).rest.length ≤ inner.rest.length :=
  grammar.length_rest_require_le .closeParenthesis inner.rest

/-- A reading that leaves no more tokens than there were. -/
abbrev ReadingOf (input : List Token) : Type :=
  { reading : Reading // reading.rest.length ≤ input.length }

mutual

/-- Reads an expression of a level inside `depth` open groups. -/
def readWithin (grammar : Grammar) (depth : Nat) (level : Level)
    (input : List Token) : ReadingOf input :=
  if _h : level = .primary then
    match input with
    | [] => ⟨grammar.readNumber [], grammar.length_rest_readNumber_le []⟩
    | token :: rest =>
      if token.kind = .openParenthesis then
        if grammar.maxDepth ≤ depth then
          ⟨grammar.skipGroup token rest,
            Nat.le_succ_of_le (length_dropGroup_le 1 rest)⟩
        else
          let inner := readWithin grammar (depth + 1) .term rest
          ⟨grammar.closeGroup token inner.val,
            Nat.le_succ_of_le
              (Nat.le_trans (grammar.length_rest_closeGroup_le token inner.val)
                inner.property)⟩
      else
        ⟨grammar.readNumber (token :: rest),
          grammar.length_rest_readNumber_le (token :: rest)⟩
  else
    let first := readWithin grammar depth level.operand input
    let whole := extendWithin grammar depth level first.val.expr first.val.rest
    ⟨⟨whole.val.expr, first.val.diagnostics ++ whole.val.diagnostics,
        whole.val.rest⟩,
      Nat.le_trans whole.property first.property⟩
termination_by 3 * input.length + level.rank
decreasing_by
  · simp only [List.length_cons, Level.rank]
    omega
  · exact Nat.add_lt_add_left (Level.rank_operand_lt _h) _
  · exact Nat.lt_of_le_of_lt (Nat.mul_le_mul_left 3 first.property)
      (Nat.lt_add_of_pos_right (Level.rank_pos _h))

/-- Goes on behind the operand `left` for as long as an operator of the
level follows. -/
def extendWithin (grammar : Grammar) (depth : Nat) (level : Level) (left : Expr)
    (input : List Token) : ReadingOf input :=
  match input with
  | [] => ⟨⟨left, [], []⟩, Nat.le_refl _⟩
  | token :: rest =>
    if level.joins token.kind then
      let right := readWithin grammar depth level.operand rest
      let whole :=
        extendWithin grammar depth level (.binary left token right.val.expr)
          right.val.rest
      ⟨⟨whole.val.expr, right.val.diagnostics ++ whole.val.diagnostics,
          whole.val.rest⟩,
        Nat.le_succ_of_le (Nat.le_trans whole.property right.property)⟩
    else
      ⟨⟨left, [], token :: rest⟩, Nat.le_refl _⟩
termination_by 3 * input.length
decreasing_by
  · have := Level.rank_le_two level.operand
    simp only [List.length_cons]
    omega
  · exact Nat.mul_lt_mul_of_pos_left (Nat.lt_succ_of_le right.property) (by decide)

end

/-- Reads an expression of a level inside `depth` open groups. -/
def read (grammar : Grammar) (depth : Nat) (level : Level) (input : List Token) :
    Reading :=
  (grammar.readWithin depth level input).val

/-- Goes on behind the operand `left` for as long as an operator of the
level follows. -/
def extend (grammar : Grammar) (depth : Nat) (level : Level) (left : Expr)
    (input : List Token) : Reading :=
  (grammar.extendWithin depth level left input).val

/-! ### What reading does -/

/-- Reading never lengthens what is left. -/
theorem length_rest_read_le (grammar : Grammar) (depth : Nat) (level : Level)
    (input : List Token) :
    (grammar.read depth level input).rest.length ≤ input.length :=
  (grammar.readWithin depth level input).property

/-- A primary expression is a group, if one opens, and else a number. -/
theorem read_primary (grammar : Grammar) (depth : Nat) (input : List Token) :
    grammar.read depth .primary input =
      match input with
      | [] => grammar.readNumber []
      | token :: rest =>
        if token.kind = .openParenthesis then
          if grammar.maxDepth ≤ depth then
            grammar.skipGroup token rest
          else
            grammar.closeGroup token (grammar.read (depth + 1) .term rest)
        else
          grammar.readNumber (token :: rest) := by
  unfold read
  rw [readWithin.eq_def, dif_pos rfl]
  cases input with
  | nil => rfl
  | cons token rest =>
    dsimp only
    split
    · split <;> rfl
    · rfl

/-- An expression of any other level is an operand, extended by the
operators of the level. -/
theorem read_eq_extend (grammar : Grammar) (depth : Nat) {level : Level}
    (h : level ≠ .primary) (input : List Token) :
    grammar.read depth level input =
      let first := grammar.read depth level.operand input
      let whole := grammar.extend depth level first.expr first.rest
      ⟨whole.expr, first.diagnostics ++ whole.diagnostics, whole.rest⟩ := by
  unfold read extend
  rw [readWithin.eq_def, dif_neg h]

/-- At the end of the tokens no operator follows, so an operand is the whole expression.
-/
theorem extend_nil (grammar : Grammar) (depth : Nat) (level : Level) (left : Expr) :
    grammar.extend depth level left [] = ⟨left, [], []⟩ := by
  unfold extend
  rw [extendWithin]

/-- An operator of the level extends an operand to its left, and any other
token ends the expression. -/
theorem extend_cons (grammar : Grammar) (depth : Nat) (level : Level) (left : Expr)
    (token : Token) (rest : List Token) :
    grammar.extend depth level left (token :: rest) =
      if level.joins token.kind then
        let right := grammar.read depth level.operand rest
        let whole :=
          grammar.extend depth level (.binary left token right.expr) right.rest
        ⟨whole.expr, right.diagnostics ++ whole.diagnostics, whole.rest⟩
      else
        ⟨left, [], token :: rest⟩ := by
  unfold extend read
  rw [extendWithin]
  split <;> rfl

end Grammar

end Calculator
