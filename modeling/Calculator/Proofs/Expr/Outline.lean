import Calculator.Expr.Drawing

/-!
# `Calculator.Proofs.Expr.Outline`: the drawing of a tree by recursion

`Node.drawing` goes through a list of branches that are still to be drawn,
each with the text of its indent. What is drawn is simpler to say by
recursion on the tree. `Node.outline` lists the places of the nodes, each
before those of its children. A place says whether its node is the last
child of its parent, and whether its ancestors are, and `Place.line` spells
the line from that alone. Neither of them borrows a definition of the
drawing.

* `Branch.draw_expr`: a pending branch is drawn as the outline of its node,
  whatever is pending behind it. This is the invariant of the list: the
  indent of a branch spells the ancestors of its place.
* `drawn_eq_outline`: so the drawing of every tree is its outline, with one
  line for each node.
-/

set_option autoImplicit false

namespace Calculator

/-! ### Places and their lines -/

/-- Where a node stands in a tree: for each of its ancestors and for itself, whether it is the
last of its siblings. -/
structure Place where
  /-- Whether each proper ancestor is the last child of its parent, from the
  root on. The root counts as a last child. -/
  ancestors : List Bool
  /-- Whether the node itself is. -/
  isLast : Bool
  /-- The node. -/
  node : Node
  deriving Repr

/-- A blank and the value, for a token that has one. -/
def Node.shownValue : Node → String
  | token leaf => (leaf.value.map fun value => " " ++ toString value).getD ""
  | expr _ => ""

namespace Place

/-- Three columns for each ancestor, with a bar below those that have later
siblings. -/
def indent (ancestors : List Bool) : String :=
  String.join (ancestors.map fun isLast => if isLast then "   " else "│  ")

/-- The line of a place, which depends on nothing else of the tree. -/
def line (place : Place) : String :=
  indent place.ancestors ++ (if place.isLast then "└──" else "├──") ++
    (place.node.kind.name ++ place.node.shownValue)

end Place

/-- The places of an expression's tree, whose root has the given ancestors,
each before those of its children. -/
def Expr.outline (ancestors : List Bool) (isLast : Bool) : Expr → List Place
  | number literal =>
    let below := ancestors ++ [isLast]
    [⟨ancestors, isLast, .expr (number literal)⟩, ⟨below, true, .token literal⟩]
  | binary left operator right =>
    let below := ancestors ++ [isLast]
    ⟨ancestors, isLast, .expr (binary left operator right)⟩ ::
      (left.outline below false ++ ⟨below, false, .token operator⟩ :: right.outline below true)
  | parenthesized opening inner closing =>
    let below := ancestors ++ [isLast]
    ⟨ancestors, isLast, .expr (parenthesized opening inner closing)⟩ ::
      ⟨below, false, .token opening⟩ ::
        (inner.outline below false ++ [⟨below, true, .token closing⟩])

/-- The places of a tree, from the root on. A token by itself has one place only. -/
def Node.outline : Node → List Place
  | token leaf => [⟨[], true, .token leaf⟩]
  | expr inner => inner.outline [] true

/-! ### The nodes of an outline -/

/-- The outline of an expression goes through the nodes of its tree, wherever the expression
stands. -/
theorem Expr.map_node_outline (ancestors : List Bool) (isLast : Bool) (expr : Expr) :
    (expr.outline ancestors isLast).map Place.node = (Node.expr expr).preorder := by
  induction expr generalizing ancestors isLast with
  | number literal => rfl
  | binary left operator right ihLeft ihRight =>
    rw [Node.preorder_binary]
    simp only [outline, List.map_cons, List.map_append, ihLeft, ihRight]
  | parenthesized opening inner closing ih =>
    rw [Node.preorder_parenthesized]
    simp only [outline, List.map_cons, List.map_append, List.map_nil, ih]

/-! ### Drawing an outline -/

namespace Branch

/-- The branch of a node in a place, as it is put on the stack of what is to be drawn. -/
def ofPlace (place : Place) : Branch :=
  ⟨place.node, Place.indent place.ancestors, place.isLast⟩

/-- The label of a node is its name, followed by the value of a token that has one. -/
theorem label_eq (node : Node) : label node = node.kind.name ++ node.shownValue := by
  cases node with
  | token leaf =>
    rw [label, Node.shownValue]
    cases leaf.value with
    | none => exact String.append_empty.symm
    | some value => exact String.append_assoc
  | expr inner => exact String.append_empty.symm

/-- The branch is drawn as the line of the place, with the text in front that its ancestors ask
for. -/
theorem line_ofPlace (place : Place) : (ofPlace place).line = place.line := by
  show Place.indent place.ancestors ++ marker place.isLast ++ label place.node = _
  rw [label_eq]
  rfl

/-- The branches below it have one ancestor more, and only the last of them is marked as last. -/
theorem below_ofPlace (place : Place) :
    (ofPlace place).below =
      siblings (Place.indent (place.ancestors ++ [place.isLast])) place.node.children := by
  have extended : Place.indent place.ancestors ++ extension place.isLast =
      Place.indent (place.ancestors ++ [place.isLast]) := by
    simp [Place.indent, extension, String.join_append]
  rw [← extended]
  rfl

/-- A token has no branches below it, so the next line drawn is that of what is pending. -/
theorem draw_token (ancestors : List Bool) (isLast : Bool) (leaf : Token)
    (pending : List Branch) :
    draw (ofPlace ⟨ancestors, isLast, .token leaf⟩ :: pending) =
      Place.line ⟨ancestors, isLast, .token leaf⟩ :: draw pending := by
  rw [draw, line_ofPlace, below_ofPlace]
  rfl

/-- An expression is drawn as its outline, whatever is pending behind it. This is what makes the
stack as good as a recursion. -/
theorem draw_expr (expr : Expr) (ancestors : List Bool) (isLast : Bool)
    (pending : List Branch) :
    draw (ofPlace ⟨ancestors, isLast, .expr expr⟩ :: pending) =
      (expr.outline ancestors isLast).map Place.line ++ draw pending := by
  -- The induction is for all that is pending, as the siblings are pending behind the first child.
  induction expr generalizing ancestors isLast pending with
  | number literal =>
    rw [draw, line_ofPlace, below_ofPlace]
    show _ :: draw (ofPlace ⟨ancestors ++ [isLast], true, .token literal⟩ :: pending) = _
    rw [draw_token]
    rfl
  | binary left operator right ihLeft ihRight =>
    rw [draw, line_ofPlace, below_ofPlace]
    show _ :: draw (ofPlace ⟨ancestors ++ [isLast], false, .expr left⟩ ::
      ofPlace ⟨ancestors ++ [isLast], false, .token operator⟩ ::
        ofPlace ⟨ancestors ++ [isLast], true, .expr right⟩ :: pending) = _
    rw [ihLeft, draw_token, ihRight]
    simp [Expr.outline]
  | parenthesized opening inner closing ih =>
    rw [draw, line_ofPlace, below_ofPlace]
    show _ :: draw (ofPlace ⟨ancestors ++ [isLast], false, .token opening⟩ ::
      ofPlace ⟨ancestors ++ [isLast], false, .expr inner⟩ ::
        ofPlace ⟨ancestors ++ [isLast], true, .token closing⟩ :: pending) = _
    rw [draw_token, ih, draw_token]
    simp [Expr.outline]

end Branch

/-- The drawing of a tree is its outline, line by line, and the outline goes
through the nodes of the tree, each before its children. -/
theorem drawn_eq_outline (node : Node) :
    node.drawn = "\n".intercalate (node.outline.map Place.line) ∧
      node.outline.map Place.node = node.preorder := by
  -- The root is drawn as an only child without ancestors, so nothing stands in front of it.
  have root : (⟨node, "", true⟩ : Branch) = Branch.ofPlace ⟨[], true, node⟩ := rfl
  have drawing : node.drawing = node.outline.map Place.line := by
    rw [Node.drawing, root]
    cases node with
    | token leaf =>
      rw [Branch.draw_token, Branch.draw]
      rfl
    | expr inner =>
      rw [Branch.draw_expr, Branch.draw, List.append_nil]
      rfl
  refine ⟨congrArg "\n".intercalate drawing, ?_⟩
  cases node with
  | token leaf => rfl
  | expr inner => exact inner.map_node_outline [] true

end Calculator
