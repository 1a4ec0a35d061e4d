import Calculator.Expr

/-!
# `Calculator.Expr.Drawing`: trees drawn with box characters

A drawing has one line per node, each node before its children. For `1+2`:

```text
└──BinaryExpression
   ├──NumberExpression
   │  └──NumberToken 1
   ├──PlusToken
   └──NumberExpression
      └──NumberToken 2
```

A node hangs on a marker, and its children are indented by the width of
that marker. Below a node that has later siblings the indent holds a bar,
which leads on to the next of them. As in `Calculator.Expr.Format`, the
branches that are still to be drawn are kept in a list.
-/

set_option autoImplicit false

namespace Calculator

/-- A subtree that is still to be drawn, with what depends on its place: the indent and the marker
of its first line. -/
structure Branch where
  /-- The node at its top. -/
  node : Node
  /-- What stands before the marker of the node. -/
  indent : String
  /-- Whether the node is the last child, or the root. -/
  isLast : Bool
  deriving Repr

namespace Branch

/-- What a node hangs on. The marker of the last child does not lead on to a sibling. -/
def marker (isLast : Bool) : String :=
  if isLast then "└──" else "├──"

/-- What the children of a node are indented by. It is as wide as a marker, whatever the node
is. -/
def extension (isLast : Bool) : String :=
  if isLast then "   " else "│  "

/-- The name of a node, with the value of a token that has one. -/
def label : Node → String
  | .token leaf =>
    match leaf.value with
    | some value => leaf.kind.name ++ " " ++ toString value
    | none => leaf.kind.name
  | .expr inner => inner.kind.name

/-- The line of the node at the top of a branch. The nodes below it come later. -/
def line (branch : Branch) : String :=
  branch.indent ++ marker branch.isLast ++ label branch.node

/-- Siblings as branches: only the last of them is marked as last. -/
def siblings (indent : String) : List Node → List Branch
  | [] => []
  | [node] => [⟨node, indent, true⟩]
  | node :: next :: nodes => ⟨node, indent, false⟩ :: siblings indent (next :: nodes)

/-- The branches below a branch, one for each child of the node at its top. -/
def below (branch : Branch) : List Branch :=
  siblings (branch.indent ++ extension branch.isLast) branch.node.children

/-- The number of lines that some branches take, which is what drawing them decreases. -/
def totalSize : List Branch → Nat
  | [] => 0
  | branch :: pending => branch.node.size + totalSize pending

/-- The lines of two lots of branches add up. -/
theorem totalSize_append (branches pending : List Branch) :
    totalSize (branches ++ pending) = totalSize branches + totalSize pending := by
  induction branches with
  | nil => simp [totalSize]
  | cons branch branches ih => simp [totalSize, ih, Nat.add_assoc]

/-- A node takes one line more than its children. -/
theorem totalSize_below (branch : Branch) :
    totalSize branch.below + 1 = branch.node.size := by
  obtain ⟨node, indent, isLast⟩ := branch
  cases node with
  | token leaf => rfl
  | expr inner =>
    cases inner <;>
      simp only [below, Node.children, siblings, totalSize, Node.size, Expr.size] <;>
      omega

/-- The lines of the pending branches, in order. The children of the first branch come in front of
the others, so each node is drawn before its siblings. -/
def draw : (pending : List Branch) → List String
  | [] => []
  | branch :: pending => branch.line :: draw (branch.below ++ pending)
termination_by pending => totalSize pending
decreasing_by
  have := totalSize_below branch
  simp only [totalSize_append, totalSize]
  omega

end Branch

/-- The drawing of a tree, line by line. -/
def Node.drawing (node : Node) : List String :=
  Branch.draw [⟨node, "", true⟩]

/-- The drawing of a tree as one text, without a newline at its end. -/
def Node.drawn (node : Node) : String :=
  "\n".intercalate node.drawing

end Calculator
