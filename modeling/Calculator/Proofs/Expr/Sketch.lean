import Mathlib.Data.List.Basic
import Calculator.Proofs.Expr.Lines

/-!
# `Calculator.Proofs.Expr.Sketch`: a drawing determines its tree

A drawing shows the kind of each node and the values of tokens, but neither the
texts nor the positions of tokens. `Node.sketch` is the ordered tree of what is
shown.

* `readLine?_line`: the kind and the value are read back from a line. A label starts
  with a letter, so it is behind all characters of the branches. A name has no blank
  in it, so what is behind the first blank is the value.
* `Expr.sketch_eq_of_entries`: the kinds and values of the nodes, each node before
  its children, are those of one tree only. The kind of an expression says how many
  children it has, so no tree goes on where another one ends. The induction is for
  trees with anything behind them.

`drawn_eq_iff_sketch` puts this together: two trees have the same drawing if and only
if they have the same sketch.
-/

set_option autoImplicit false

namespace Calculator

/-! ### Sketches -/

/-- An ordered tree of kinds and values, which is all that a drawing could show of a tree. -/
inductive Sketch where
  /-- A node with its kind, its value if it has one, and what is below it. -/
  | node (kind : Kind) (value : Option Int) (below : List Sketch)

/-- What is shown of a token. -/
def Token.sketch (token : Token) : Sketch :=
  .node token.kind token.value []

/-- What is shown of the tree of an expression: the kinds of its nodes, and the values of its
tokens. -/
def Expr.sketch : Expr → Sketch
  | number literal => .node .numberExpression none [literal.sketch]
  | binary left operator right =>
    .node .binaryExpression none [left.sketch, operator.sketch, right.sketch]
  | parenthesized opening inner closing =>
    .node .parenthesizedExpression none [opening.sketch, inner.sketch, closing.sketch]

/-- What is shown of a tree, whether it is a token by itself or an expression. -/
def Node.sketch : Node → Sketch
  | token leaf => leaf.sketch
  | expr inner => inner.sketch

/-- The sketch of a node has its kind and its value above the sketches of its
children. -/
theorem Node.sketch_eq (node : Node) :
    node.sketch = .node node.kind node.value? (node.children.map Node.sketch) := by
  cases node with
  | token leaf => rfl
  | expr inner => cases inner <;> rfl

/-- What is shown of a node in its own line, which is its kind and its value if it has one. -/
def Node.entry (node : Node) : Kind × Option Int :=
  (node.kind, node.value?)

/-! ### Reading a line -/

/-- Whether a character may stand in front of a label. No label starts with one of these. -/
def isFrame (c : Char) : Bool :=
  c == ' ' || c == '─' || Place.isBranch c

/-- The integer that some digits write, with or without a minus sign in front. This reads back
what a line shows. -/
def readInteger : (shown : List Char) → Int
  | '-' :: digits => -Nat.ofDigitChars 10 digits 0
  | digits => Nat.ofDigitChars 10 digits 0

/-- The value that is shown behind a blank, if there is one. Where the line ends, there is
none. -/
def readValue? : (shown : List Char) → Option Int
  | [] => none
  | _ :: shown => some (readInteger shown)

/-- The kind and the value that a line shows, read without knowing where in the tree the line
stands. -/
def readLine? (line : List Char) : Option (Kind × Option Int) :=
  let label := line.dropWhile isFrame
  (Kind.ofName? (String.ofList (label.takeWhile (· != ' ')))).map fun kind =>
    (kind, readValue? (label.dropWhile (· != ' ')))

/-- A kind is found by its name, so a line determines the kind of its node. -/
theorem Kind.ofName?_name (kind : Kind) : ofName? kind.name = some kind := by
  cases kind <;> decide

/-- Names are not empty, so every line has a label. -/
theorem Kind.toList_name_ne_nil (kind : Kind) : kind.name.toList ≠ [] := by
  cases kind <;> decide

/-- No letter stands in front of a label, so the label is where the first letter is. -/
theorem not_isFrame_of_isAlpha {c : Char} (hc : c.isAlpha = true) : ¬isFrame c = true := by
  intro h
  simp only [isFrame, Place.isBranch, Bool.or_eq_true, beq_iff_eq] at h
  rcases h with (rfl | rfl) | (rfl | rfl) | rfl <;> cases hc

/-- What is left of a line without the characters in front is its label, however deep the node
stands. -/
theorem dropWhile_isFrame_line (place : Place) :
    place.line.toList.dropWhile isFrame = place.label := by
  have cell : ∀ isLast : Bool, [if isLast then ' ' else '│', ' ', ' '].all isFrame = true := by
    decide
  have marker : ∀ isLast : Bool, isFrame (if isLast then '└' else '├') = true := by decide
  have dash : isFrame '─' = true := by decide
  rw [Place.toList_line, List.dropWhile_append_of_pos, List.dropWhile_cons_of_pos (marker _),
    List.dropWhile_cons_of_pos dash, List.dropWhile_cons_of_pos dash, Place.label]
  · obtain ⟨c, name, hname⟩ := List.exists_cons_of_ne_nil place.node.kind.toList_name_ne_nil
    have letter : c.isAlpha = true := Kind.isAlpha_of_mem_name (hname ▸ List.mem_cons_self)
    rw [hname, List.cons_append, List.dropWhile_cons_of_neg (not_isFrame_of_isAlpha letter)]
  · intro c hc
    obtain ⟨isLast, -, hc⟩ := List.mem_flatMap.mp hc
    exact List.all_eq_true.mp (cell isLast) c hc

/-- The text of an integer is read back as that integer, with its sign. -/
theorem readInteger_repr (value : Int) : readInteger value.repr.toList = value := by
  have digits : ∀ number : Nat, Nat.ofDigitChars 10 number.repr.toList 0 = number := by
    intro number
    rw [Nat.repr_eq_ofList_toDigits, String.toList_ofList]
    exact Nat.ofDigitChars_toDigits (by decide) (by decide)
  rw [Int.repr_eq_if]
  split
  · next nonneg =>
    -- No digit is a minus sign.
    rw [readInteger, digits, Int.toNat_of_nonneg nonneg]
    rintro more hmore
    have minus : '-' ∈ value.toNat.repr.toList := hmore ▸ List.mem_cons_self
    rw [Nat.repr_eq_ofList_toDigits, String.toList_ofList] at minus
    exact absurd (Nat.isDigit_of_mem_toDigits (by decide) (by decide) minus) (by decide)
  · next negative =>
    rw [String.toList_append, show "-".toList = ['-'] by decide, List.singleton_append,
      readInteger, digits]
    omega

/-- A shown value is read back, and where none is shown, none is read. -/
theorem readValue?_shownValue (node : Node) :
    readValue? node.shownValue.toList = node.value? := by
  rw [Node.toList_shownValue]
  cases node.value? with
  | none => rfl
  | some value => exact congrArg some (readInteger_repr value)

/-- A line is read back as the kind and the value of its node, whatever its place. -/
theorem readLine?_line (place : Place) : readLine? place.line.toList = some place.node.entry := by
  have inName : ∀ c ∈ place.node.kind.name.toList, (c != ' ') = true := fun c hc => by
    refine bne_iff_ne.mpr ?_
    rintro rfl
    exact absurd (Kind.isAlpha_of_mem_name hc) (by decide)
  have behindName : place.node.shownValue.toList.takeWhile (· != ' ') = [] ∧
      place.node.shownValue.toList.dropWhile (· != ' ') = place.node.shownValue.toList := by
    rw [Node.toList_shownValue]
    cases place.node.value? <;> exact ⟨rfl, rfl⟩
  rw [readLine?, dropWhile_isFrame_line, Place.label, List.takeWhile_append_of_pos inName,
    List.dropWhile_append_of_pos inName, behindName.1, behindName.2, readValue?_shownValue,
    List.append_nil, String.ofList_toList, Kind.ofName?_name]
  rfl

/-- The lines of a drawing are read back as the kinds and values of the nodes, from the root on.
What is left is to find the tree from this list. -/
theorem Node.map_readLine?_lines (node : Node) :
    (node.drawn.toList.splitOn '\n').map readLine? = (node.preorder.map entry).map some := by
  rw [lines_drawn, ← map_node_outline]
  simp only [List.map_map, Function.comp_def, readLine?_line]

/-! ### From the nodes to the tree -/

/-- What is shown of a token is shown in its line, as a token has no parts. -/
theorem Token.sketch_eq_of_entry {leaf twin : Token}
    (h : Node.entry (.token leaf) = Node.entry (.token twin)) : leaf.sketch = twin.sketch := by
  obtain ⟨hkind, hvalue⟩ := Prod.mk.inj h
  rw [sketch, sketch, show leaf.kind = twin.kind from hkind,
    show leaf.value = twin.value from hvalue]

namespace Expr

/-- If two lists of nodes that start with the trees of expressions show the same, the
trees have the same sketch, and what is behind them shows the same. -/
theorem sketch_eq_of_entries {expr other : Expr} {later after : List Node}
    (h : (expr.preorderOnto later).map Node.entry = (other.preorderOnto after).map Node.entry) :
    expr.sketch = other.sketch ∧ later.map Node.entry = after.map Node.entry := by
  -- The first nodes have the same kind, so the expressions are of the same form.
  induction expr generalizing other later after with
  | number literal =>
    cases other with
    | number twin =>
      simp only [preorderOnto, List.map_cons, List.cons.injEq] at h
      obtain ⟨-, hliteral, hlater⟩ := h
      exact ⟨by rw [sketch, Token.sketch_eq_of_entry hliteral, sketch], hlater⟩
    | binary | parenthesized => simp [preorderOnto, Node.entry, Node.kind, kind] at h
  | binary left operator right ihLeft ihRight =>
    cases other with
    | binary leftTwin operatorTwin rightTwin =>
      simp only [preorderOnto, List.map_cons, List.cons.injEq] at h
      obtain ⟨hleft, hbehind⟩ := ihLeft h.2
      obtain ⟨hoperator, hright⟩ := List.cons.inj hbehind
      obtain ⟨hright, hlater⟩ := ihRight hright
      exact ⟨by rw [sketch, hleft, Token.sketch_eq_of_entry hoperator, hright, sketch], hlater⟩
    | number | parenthesized => simp [preorderOnto, Node.entry, Node.kind, kind] at h
  | parenthesized opening inner closing ih =>
    cases other with
    | parenthesized openingTwin innerTwin closingTwin =>
      simp only [preorderOnto, List.map_cons, List.cons.injEq] at h
      obtain ⟨-, hopening, hinner⟩ := h
      obtain ⟨hinner, hbehind⟩ := ih hinner
      obtain ⟨hclosing, hlater⟩ := List.cons.inj hbehind
      exact ⟨by rw [sketch, Token.sketch_eq_of_entry hopening, hinner,
        Token.sketch_eq_of_entry hclosing, sketch], hlater⟩
    | number | binary => simp [preorderOnto, Node.entry, Node.kind, kind] at h

/-- The first node of an expression is its own, so its list of nodes is not empty. -/
theorem preorderOnto_ne_nil (later : List Node) (expr : Expr) : expr.preorderOnto later ≠ [] := by
  cases expr <;> exact List.cons_ne_nil _ _

/-- A token shows less than an expression, whatever its kind, as an expression has more than one
line. -/
theorem entries_ne_singleton (entry : Kind × Option Int) (expr : Expr) :
    (expr.preorderOnto []).map Node.entry ≠ [entry] := by
  intro h
  cases expr with
  | number | parenthesized => cases (List.cons.inj h).2
  | binary left operator right =>
    exact left.preorderOnto_ne_nil _ (List.map_eq_nil_iff.mp (List.cons.inj h).2)

end Expr

/-- Trees whose nodes show the same have the same sketch, as each kind says how many children
follow. This is the heart of the matter. -/
theorem Node.sketch_eq_of_entries {m n : Node}
    (h : m.preorder.map entry = n.preorder.map entry) : m.sketch = n.sketch := by
  cases m with
  | token leaf =>
    cases n with
    | token twin => exact Token.sketch_eq_of_entry (List.cons.inj h).1
    | expr other => exact absurd h.symm (other.entries_ne_singleton _)
  | expr inner =>
    cases n with
    | token twin => exact absurd h (inner.entries_ne_singleton _)
    | expr other => exact (Expr.sketch_eq_of_entries h).1

/-! ### From the sketch to the drawing -/

/-- In one place, nodes with the same sketch have the same line, as a line shows nothing that the
sketch lacks. -/
theorem Place.line_eq_of_sketch {m n : Node} (h : m.sketch = n.sketch)
    (ancestors : List Bool) (isLast : Bool) :
    line ⟨ancestors, isLast, m⟩ = line ⟨ancestors, isLast, n⟩ := by
  rw [Node.sketch_eq, Node.sketch_eq] at h
  obtain ⟨hkind, hvalue, -⟩ := Sketch.node.inj h
  simp only [line, Node.shownValue_eq, hkind, hvalue]

/-- In one place, expressions with the same sketch have the same lines, by induction on both of
them. -/
theorem Expr.map_line_outline_eq {expr other : Expr} (h : expr.sketch = other.sketch)
    (ancestors : List Bool) (isLast : Bool) :
    (expr.outline ancestors isLast).map Place.line =
      (other.outline ancestors isLast).map Place.line := by
  have token : ∀ {leaf twin : Token}, leaf.sketch = twin.sketch → ∀ ancestors isLast,
      Place.line ⟨ancestors, isLast, .token leaf⟩ = Place.line ⟨ancestors, isLast, .token twin⟩ :=
    fun {leaf twin} h => Place.line_eq_of_sketch (show (Node.token leaf).sketch = _ from h)
  have top : ∀ {expr other : Expr}, expr.sketch = other.sketch → ∀ ancestors isLast,
      Place.line ⟨ancestors, isLast, .expr expr⟩ = Place.line ⟨ancestors, isLast, .expr other⟩ :=
    fun {expr other} h => Place.line_eq_of_sketch (show (Node.expr expr).sketch = _ from h)
  -- The first line depends on the sketch alone, and so do those of the parts in their places.
  induction expr generalizing other ancestors isLast with
  | number literal =>
    cases other with
    | number twin =>
      have first := top h ancestors isLast
      simp only [sketch, Sketch.node.injEq, List.cons.injEq, true_and, and_true] at h
      simp only [outline, List.map_cons, List.map_nil, first, token h]
    | binary | parenthesized => simp [sketch] at h
  | binary left operator right ihLeft ihRight =>
    cases other with
    | binary leftTwin operatorTwin rightTwin =>
      have first := top h ancestors isLast
      simp only [sketch, Sketch.node.injEq, List.cons.injEq, true_and, and_true] at h
      simp only [outline, List.map_cons, List.map_append, first, ihLeft h.1, token h.2.1,
        ihRight h.2.2]
    | number | parenthesized => simp [sketch] at h
  | parenthesized opening inner closing ih =>
    cases other with
    | parenthesized openingTwin innerTwin closingTwin =>
      have first := top h ancestors isLast
      simp only [sketch, Sketch.node.injEq, List.cons.injEq, true_and, and_true] at h
      simp only [outline, List.map_cons, List.map_append, List.map_nil, first, token h.1,
        ih h.2.1, token h.2.2]
    | number | binary => simp [sketch] at h

/-- Trees with the same sketch have the same drawing, which is the easy direction. -/
theorem Node.drawing_eq_of_sketch {m n : Node} (h : m.sketch = n.sketch) :
    m.drawing = n.drawing := by
  rw [drawing_eq_map_line, drawing_eq_map_line]
  cases m with
  | token leaf =>
    cases n with
    | token twin => exact congrArg (fun line => [line]) (Place.line_eq_of_sketch h [] true)
    | expr other => cases other <;> simp [sketch, Token.sketch, Expr.sketch] at h
  | expr inner =>
    cases n with
    | token twin => cases inner <;> simp [sketch, Token.sketch, Expr.sketch] at h
    | expr other => exact Expr.map_line_outline_eq h [] true

/-- The drawing of a tree determines the ordered tree of its kinds and values: two
trees, whatever tokens they are made of, have the same drawing if and only if they
have the same shape, the same kind at every node and the same value, or none, at
every token. -/
theorem drawn_eq_iff_sketch (m n : Node) : m.drawn = n.drawn ↔ m.sketch = n.sketch := by
  constructor
  · intro h
    have entries : (m.preorder.map Node.entry).map some = (n.preorder.map Node.entry).map some := by
      rw [← Node.map_readLine?_lines, h, Node.map_readLine?_lines]
    exact Node.sketch_eq_of_entries
      (List.map_injective_iff.mpr (fun _ _ h => Option.some.inj h) entries)
  · intro h
    exact congrArg "\n".intercalate (Node.drawing_eq_of_sketch h)

end Calculator
