import Mathlib.Data.List.Chain
import Calculator.Proofs.Expr.Lines

/-!
# `Calculator.Proofs.Expr.Connected`: the branches of a drawing are connected

`├` and `│` lead on to a line below, and `├` and `└` hang from the line above. Which
of these characters a line has, and where, is said by its `Place.trail`: the levels
from the root to the node, each marked as last among its siblings or not.

* `Place.Above`: how two neighbouring lines are related. The lower one is the first
  child of the upper one, or a later sibling of the node whose subtree the upper one
  ends.
* `Node.isChain_outline`: all neighbouring lines of an outline are so related. The
  subtrees in between can be of any depth, so the induction also says where the last
  line of an outline stands (`Expr.getLast?_outline`).

`drawn_connected` says what follows for the text of a drawing.
-/

set_option autoImplicit false

namespace Calculator

namespace Place

/-- The levels of a line, from the root to the node itself, each marked as last among
its siblings or not. -/
def trail (place : Place) : List Bool :=
  place.ancestors ++ [place.isLast]

/-- One line is that of the first child of the node of another line, so it hangs one level further
to the right. -/
def IsFirstChild (child parent : Place) : Prop :=
  child.ancestors = parent.trail ∧ parent.node.children.head? = some child.node

/-- How a line is related to the line below it: a first child stands below its parent, and any
other node below the last line of its sibling. -/
inductive Above : Place → Place → Prop where
  /-- The first child stands below its parent. -/
  | child {parent child : Place} (first : child.IsFirstChild parent) : Above parent child
  /-- Below the end of a subtree stands the next sibling of the node at its top. The
  end is the last of its siblings on each level below that node. -/
  | sibling {last next : Place} (depth : Nat)
    (closes : last.trail = next.ancestors ++ false :: List.replicate depth true) :
    Above last next

/-! ### The branches of a line -/

/-- A line leads on from the levels on which more siblings follow. -/
theorem leadsOn_iff (place : Place) (level : Nat) :
    place.branches[level]? = some '├' ∨ place.branches[level]? = some '│' ↔
      place.trail[level]? = some false := by
  grind [branches, trail]

/-- A line hangs from the level of its node, and all levels in front of that only lead on. -/
theorem hangs_iff (place : Place) (level : Nat) :
    place.branches[level]? = some '├' ∨ place.branches[level]? = some '└' ↔
      level = place.ancestors.length := by
  grind [branches]

/-- The columns of the characters that lead on to the next line: the first of the three columns of
each level that is not the last of its siblings. -/
theorem leadsOn_line_iff (place : Place) (column : Nat) :
    place.line.toList[column]? = some '├' ∨ place.line.toList[column]? = some '│' ↔
      ∃ level, column = 3 * level ∧ place.trail[level]? = some false := by
  rw [getElem?_line_iff place rfl, getElem?_line_iff place rfl, ← exists_or]
  simp only [← and_or_left, leadsOn_iff]

/-- The column of the character that a line hangs on, which is the first of the three columns of
its own level. -/
theorem hangs_line_iff (place : Place) (column : Nat) :
    place.line.toList[column]? = some '├' ∨ place.line.toList[column]? = some '└' ↔
      column = 3 * place.ancestors.length := by
  rw [getElem?_line_iff place rfl, getElem?_line_iff place rfl, ← exists_or]
  simp only [← and_or_left, hangs_iff, exists_eq_right]

/-- The label stands behind three columns for each level, the level of the node itself among
them. -/
theorem exists_front (place : Place) :
    ∃ front, place.line.toList = front ++ place.label ∧
      front.length = 3 * place.trail.length := by
  refine ⟨_, place.toList_line.trans (List.append_assoc _ [_, '─', '─'] _).symm, ?_⟩
  simp only [trail, List.length_append, List.length_flatMap, List.length_cons, List.length_nil,
    List.map_const', List.sum_replicate_nat]
  omega

/-! ### Neighbouring lines -/

/-- What leads on from a line is taken up by the line below, which leads on itself or hangs on
that level. -/
theorem Above.takenUp {above below : Place} (h : Above above below) {level : Nat}
    (leads : above.trail[level]? = some false) :
    below.trail[level]? = some false ∨ level = below.ancestors.length := by
  cases h with
  | child first =>
    -- The child has all levels of its parent, and one more.
    left
    rw [trail, first.1, List.getElem?_append_left (List.getElem?_eq_some_iff.mp leads).1]
    exact leads
  | sibling depth closes =>
    rw [closes] at leads
    rcases Nat.lt_trichotomy level below.ancestors.length with shared | own | deeper
    · rw [List.getElem?_append_left shared] at leads
      left
      rw [trail, List.getElem?_append_left shared]
      exact leads
    · exact Or.inr own
    · -- The subtree ends here, so nothing leads on from a deeper level.
      obtain ⟨further, rfl⟩ : ∃ further, level = below.ancestors.length + (further + 1) :=
        ⟨level - below.ancestors.length - 1, by omega⟩
      rw [List.getElem?_append_right (Nat.le_add_right _ _), Nat.add_sub_cancel_left,
        List.getElem?_cons_succ] at leads
      cases List.eq_of_mem_replicate (List.mem_of_getElem? leads)

/-- A line hangs on what leads on from the line above, or on the label of its parent
there. -/
theorem Above.hangs {above below : Place} (h : Above above below) :
    above.trail[below.ancestors.length]? = some false ∨ below.IsFirstChild above := by
  cases h with
  | child first => exact Or.inr first
  | sibling depth closes =>
    left
    rw [closes, List.getElem?_append_right (Nat.le_refl _), Nat.sub_self]
    rfl

end Place

/-! ### Outlines -/

namespace Expr

/-- The first line of an outline is that of the expression itself, above those of its parts. -/
theorem head?_outline (ancestors : List Bool) (isLast : Bool) (expr : Expr) :
    (expr.outline ancestors isLast).head? = some ⟨ancestors, isLast, .expr expr⟩ := by
  cases expr <;> rfl

/-- The last line of an outline is that of a node which is, like its ancestors up to
the expression, the last of its siblings. -/
theorem getLast?_outline (ancestors : List Bool) (isLast : Bool) (expr : Expr) :
    ∃ last depth, (expr.outline ancestors isLast).getLast? = some last ∧
      last.trail = ancestors ++ isLast :: List.replicate depth true := by
  induction expr generalizing ancestors isLast with
  | number literal => exact ⟨_, 1, rfl, by simp [Place.trail]⟩
  | binary left operator right _ ihRight =>
    obtain ⟨last, depth, hlast, trail⟩ := ihRight (ancestors ++ [isLast]) true
    refine ⟨last, depth + 1, ?_, ?_⟩
    · simp [outline, List.getLast?_cons, List.getLast?_append, hlast]
    · simp [trail, List.replicate_succ]
  | parenthesized opening inner closing _ =>
    refine ⟨⟨ancestors ++ [isLast], true, .token closing⟩, 1, ?_, by simp [Place.trail]⟩
    simp [outline, List.getLast?_cons, List.getLast?_append]

/-- The last line of an expression that has later siblings stands above the next of
them. -/
theorem above_sibling {ancestors : List Bool} {expr : Expr} {last next : Place}
    (hlast : last ∈ (expr.outline ancestors false).getLast?)
    (hnext : next.ancestors = ancestors) : Place.Above last next := by
  obtain ⟨place, depth, hplace, closes⟩ := getLast?_outline ancestors false expr
  obtain rfl : place = last := Option.some.inj (hplace.symm.trans hlast)
  exact .sibling depth (hnext ▸ closes)

/-- Neighbouring lines of the outline of an expression are a parent and its first child, or the end
of a subtree and the next sibling. -/
theorem isChain_outline (ancestors : List Bool) (isLast : Bool) (expr : Expr) :
    (expr.outline ancestors isLast).IsChain Place.Above := by
  induction expr generalizing ancestors isLast with
  | number literal => exact List.isChain_pair.mpr (.child ⟨rfl, rfl⟩)
  | binary left operator right ihLeft ihRight =>
    -- From the back: the operator and the outline of its right operand, then the left one in front.
    have fromOperator : (Place.mk (ancestors ++ [isLast]) false (.token operator) ::
        right.outline (ancestors ++ [isLast]) true).IsChain Place.Above := by
      refine List.isChain_cons.mpr ⟨fun next hnext => ?_, ihRight _ _⟩
      rw [head?_outline] at hnext
      cases hnext
      exact .sibling 0 rfl
    rw [outline]
    refine List.isChain_cons.mpr ⟨fun first hfirst => ?_,
      List.isChain_append.mpr ⟨ihLeft _ _, fromOperator, fun last hlast next hnext => ?_⟩⟩
    · rw [List.head?_append, head?_outline] at hfirst
      cases hfirst
      exact .child ⟨rfl, rfl⟩
    · -- The outline of the left operand ends somewhere inside it, and the operator is its next
      -- sibling.
      cases hnext
      exact above_sibling hlast rfl
  | parenthesized opening inner closing ih =>
    have fromInner : (inner.outline (ancestors ++ [isLast]) false ++
        [Place.mk (ancestors ++ [isLast]) true (.token closing)]).IsChain Place.Above := by
      refine List.isChain_append.mpr
        ⟨ih _ _, List.isChain_singleton _, fun last hlast next hnext => ?_⟩
      cases hnext
      exact above_sibling hlast rfl
    rw [outline]
    refine List.isChain_cons_cons.mpr
      ⟨.child ⟨rfl, rfl⟩, List.isChain_cons.mpr ⟨fun next hnext => ?_, fromInner⟩⟩
    rw [List.head?_append, head?_outline] at hnext
    cases hnext
    exact .sibling 0 rfl

end Expr

namespace Node

/-- Neighbouring lines of the outline of a node are related, as those of the expression are. The
outline of a token is a single line. -/
theorem isChain_outline (node : Node) : node.outline.IsChain Place.Above := by
  cases node with
  | token leaf => exact List.isChain_singleton _
  | expr inner => exact inner.isChain_outline [] true

/-- The last line of an outline is that of a node that is, like all of its ancestors,
the last of its siblings. -/
theorem getLast?_outline (node : Node) :
    ∃ last depth, node.outline.getLast? = some last ∧
      last.trail = List.replicate depth true := by
  cases node with
  | token leaf => exact ⟨_, 1, rfl, rfl⟩
  | expr inner =>
    obtain ⟨last, depth, hlast, trail⟩ := inner.getLast?_outline [] true
    exact ⟨last, depth + 1, hlast, trail⟩

/-- The line with the next number is the line below, so neighbours can be told by their
numbers. -/
theorem above_of_getElem? {node : Node} {i : Nat} {above below : Place}
    (habove : node.outline[i]? = some above) (hbelow : node.outline[i + 1]? = some below) :
    above.Above below := by
  obtain ⟨hi, rfl⟩ := List.getElem?_eq_some_iff.mp hbelow
  obtain ⟨_, rfl⟩ := List.getElem?_eq_some_iff.mp habove
  exact List.isChain_iff_getElem.mp node.isChain_outline i hi

/-- If anything leads on from a line, there is a line below, as the last line of a drawing leads
nowhere. -/
theorem exists_next {node : Node} {i : Nat} {place : Place}
    (hplace : node.outline[i]? = some place) {level : Nat}
    (leads : place.trail[level]? = some false) :
    ∃ next, node.outline[i + 1]? = some next := by
  by_contra none
  obtain ⟨last, depth, hlast, closes⟩ := node.getLast?_outline
  have hlength : node.outline.length ≤ i + 1 :=
    List.getElem?_eq_none_iff.mp (Option.eq_none_iff_forall_ne_some.mpr (not_exists.mp none))
  have hi : node.outline.length - 1 = i := by
    have := (List.getElem?_eq_some_iff.mp hplace).1
    omega
  rw [List.getLast?_eq_getElem?, hi, hplace] at hlast
  cases hlast
  rw [closes] at leads
  cases List.eq_of_mem_replicate (List.mem_of_getElem? leads)

end Node

/-! ### Drawings -/

/-- The branches of a drawing are connected. Below every `├` or `│` there is a line
which has `│`, `├` or `└` in the same column. Each line but the first has a single
`├` or `└`, and above it there is `│` or `├`, unless the line above is that of the
parent: then its label, which begins with the name of its kind, starts there. -/
theorem drawn_connected (node : Node) :
    let lines := node.drawn.toList.splitOn '\n'
    lines = node.outline.map (fun place => place.line.toList) ∧
    (∀ (i column : Nat) (row : List Char), lines[i]? = some row →
      row[column]? = some '├' ∨ row[column]? = some '│' →
      ∃ below, lines[i + 1]? = some below ∧
        (below[column]? = some '│' ∨ below[column]? = some '├' ∨ below[column]? = some '└')) ∧
    ∀ (i : Nat) (above row : List Char), lines[i]? = some above → lines[i + 1]? = some row →
      ∃ column, (∀ other, row[other]? = some '├' ∨ row[other]? = some '└' ↔ other = column) ∧
        (above[column]? = some '│' ∨ above[column]? = some '├' ∨
          ∃ parent child, node.outline[i]? = some parent ∧ node.outline[i + 1]? = some child ∧
            child.IsFirstChild parent ∧
            ∃ front, above = front ++ parent.label ∧ front.length = column) := by
  intro lines
  have hlines : lines = _ := node.lines_drawn
  have hline : ∀ (i : Nat) (row : List Char), lines[i]? = some row ↔
      ∃ place, node.outline[i]? = some place ∧ place.line.toList = row := by
    intro i row
    rw [hlines, List.getElem?_map, Option.map_eq_some_iff]
  refine ⟨hlines, fun i column row h leads => ?_, fun i above row h hnext => ?_⟩
  · obtain ⟨place, hplace, rfl⟩ := (hline i row).mp h
    obtain ⟨level, rfl, onward⟩ := (place.leadsOn_line_iff column).mp leads
    obtain ⟨next, hnext⟩ := Node.exists_next hplace onward
    refine ⟨_, (hline _ _).mpr ⟨next, hnext, rfl⟩, ?_⟩
    -- What leads on is passed through by the next line, or ends at it.
    rcases (Node.above_of_getElem? hplace hnext).takenUp onward with onward | rfl
    · have passes := (next.leadsOn_line_iff _).mpr ⟨level, rfl, onward⟩
      exact passes.elim (fun h => Or.inr (Or.inl h)) Or.inl
    · exact Or.inr ((next.hangs_line_iff _).mpr rfl)
  · obtain ⟨parent, hparent, rfl⟩ := (hline _ _).mp h
    obtain ⟨child, hchild, rfl⟩ := (hline _ _).mp hnext
    refine ⟨3 * child.ancestors.length, child.hangs_line_iff, ?_⟩
    -- A first child hangs from the label of its parent and not from a line.
    rcases (Node.above_of_getElem? hparent hchild).hangs with onward | first
    · have leads := (parent.leadsOn_line_iff _).mpr ⟨_, rfl, onward⟩
      exact leads.elim (fun h => Or.inr (Or.inl h)) Or.inl
    · obtain ⟨front, hfront, hlength⟩ := parent.exists_front
      exact Or.inr (Or.inr
        ⟨parent, child, hparent, hchild, first, front, hfront, by rw [hlength, first.1]⟩)

end Calculator
