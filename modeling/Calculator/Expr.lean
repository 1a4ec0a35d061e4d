import Calculator.Token

/-!
# `Calculator.Expr`: expressions and the nodes of their trees

An expression keeps the tokens it was read from, those of operators and
parentheses included, so that the leaves of its tree are a stretch of the
line. The checks on token kinds are not part of the type: a tree put
together by hand may hold any tokens (`Calculator.Expr.Draft`).

* `Expr`: numbers, binary operations and parenthesized groups.
* `Node`: a node of a tree, which is an expression or a token.
* `Node.children`: the direct children of a node, from left to right.
* `Node.preorder`: all nodes of a tree, each before its children.
* `Tree`: what reading a line gives.
-/

set_option autoImplicit false

namespace Calculator

/-- An expression, with the tokens it is made of. Any tokens may stand in it, also such as no line
gives. -/
inductive Expr where
  /-- A literal. -/
  | number (literal : Token)
  /-- A binary operation. -/
  | binary (left : Expr) (operator : Token) (right : Expr)
  /-- A group in parentheses. -/
  | parenthesized (opening : Token) (inner : Expr) (closing : Token)
  deriving Repr, DecidableEq

/-- A node of a tree, which is one of its expressions or one of their tokens. -/
inductive Node where
  /-- A leaf. -/
  | token (leaf : Token)
  /-- An inner node. -/
  | expr (inner : Expr)
  deriving Repr, DecidableEq

namespace Expr

/-- The kind of an expression. -/
def kind : Expr → Kind
  | number _ => .numberExpression
  | binary _ _ _ => .binaryExpression
  | parenthesized _ _ _ => .parenthesizedExpression

/-- The number of nodes in the tree of an expression. -/
def size : Expr → Nat
  | number _ => 2
  | binary left _ right => left.size + right.size + 2
  | parenthesized _ inner _ => inner.size + 3

/-- The nodes of an expression's tree, each before its children, followed
by `later`. -/
def preorderOnto (later : List Node) : Expr → List Node
  | number literal => .expr (number literal) :: .token literal :: later
  | binary left operator right =>
    .expr (binary left operator right) ::
      left.preorderOnto (.token operator :: right.preorderOnto later)
  | parenthesized opening inner closing =>
    .expr (parenthesized opening inner closing) ::
      .token opening :: inner.preorderOnto (.token closing :: later)

end Expr

namespace Node

/-- The kind of a node. -/
def kind : Node → Kind
  | token leaf => leaf.kind
  | expr inner => inner.kind

/-- The direct children of a node, from left to right. -/
def children : Node → List Node
  | token _ => []
  | expr (.number literal) => [token literal]
  | expr (.binary left operator right) => [expr left, token operator, expr right]
  | expr (.parenthesized opening inner closing) =>
    [token opening, expr inner, token closing]

/-- The number of nodes in a tree. -/
def size : Node → Nat
  | token _ => 1
  | expr inner => inner.size

/-- All nodes of a tree, each before its children. -/
def preorder : Node → List Node
  | token leaf => [token leaf]
  | expr inner => inner.preorderOnto []

end Node

/-! ### The nodes of a tree -/

/-- What is to follow the nodes of an expression is listed behind them. -/
theorem Expr.preorderOnto_eq (later : List Node) (expr : Expr) :
    expr.preorderOnto later = (Node.expr expr).preorder ++ later := by
  induction expr generalizing later with
  | number literal => rfl
  | binary left operator right ihLeft ihRight =>
    simp only [Node.preorder, preorderOnto] at ihLeft ihRight ⊢
    rw [ihLeft, ihRight, ihLeft (.token operator :: right.preorderOnto [])]
    simp
  | parenthesized opening inner closing ih =>
    simp only [Node.preorder, preorderOnto] at ih ⊢
    rw [ih, ih [.token closing]]
    simp

/-- The nodes of a binary operation. -/
theorem Node.preorder_binary (left : Expr) (operator : Token) (right : Expr) :
    (expr (.binary left operator right)).preorder =
      expr (.binary left operator right) ::
        ((expr left).preorder ++ token operator :: (expr right).preorder) := by
  show _ :: left.preorderOnto (token operator :: right.preorderOnto []) = _
  rw [Expr.preorderOnto_eq, Expr.preorderOnto_eq [], List.append_nil]

/-- The nodes of a group. -/
theorem Node.preorder_parenthesized (opening : Token) (inner : Expr) (closing : Token) :
    (expr (.parenthesized opening inner closing)).preorder =
      expr (.parenthesized opening inner closing) ::
        token opening :: ((expr inner).preorder ++ [token closing]) := by
  show _ :: token opening :: inner.preorderOnto [token closing] = _
  rw [Expr.preorderOnto_eq]

/-- What reading a line gives: an expression, even for a malformed line,
and what was found wrong. -/
structure Tree (Complaint : Type) where
  /-- What was found wrong, in order. -/
  diagnostics : List Complaint
  /-- The expression. -/
  root : Expr
  /-- The token behind the expression. -/
  endOfFile : Token
  deriving Repr

/-- Whether anything was found wrong. Only a tree without errors is meant to be evaluated. -/
def Tree.hasErrors {Complaint : Type} (tree : Tree Complaint) : Bool :=
  !tree.diagnostics.isEmpty

end Calculator
