import Calculator.Proofs.Expr.Outline

/-!
# `Calculator.Proofs.Expr.Lines`: the characters of a drawing

The outline of a tree says what its lines are made of. Here is what this means for
the characters of the drawing, which is a single text.

* `lines_drawn`: if the text is cut at its newlines, the pieces are the lines of
  the outline, because no line has a newline in it.
* `toList_line`: a line has three columns for each ancestor and for the node itself,
  and the label of the node behind them.
* `getElem?_line_iff`: the characters that connect lines stand in the first of these
  three columns only. `Place.branches` lists the first columns, level by level.
-/

set_option autoImplicit false

namespace Calculator

/-! ### Labels -/

/-- The names of kinds consist of letters, so a name ends where the line does or where a blank
follows. -/
theorem Kind.isAlpha_of_mem_name {kind : Kind} {c : Char} (h : c ∈ kind.name.toList) :
    c.isAlpha = true := by
  have all : kind.name.toList.all Char.isAlpha = true := by cases kind <;> decide
  exact List.all_eq_true.mp all c h

/-- The text of an integer consists of digits and a minus sign, so it has neither blanks nor
newlines. -/
theorem isDigit_or_eq_minus_of_mem_repr {value : Int} {c : Char} (h : c ∈ value.repr.toList) :
    c.isDigit = true ∨ c = '-' := by
  have digit : ∀ {number : Nat}, c ∈ number.repr.toList → c.isDigit = true := fun {number} h => by
    rw [Nat.repr_eq_ofList_toDigits, String.toList_ofList] at h
    exact Nat.isDigit_of_mem_toDigits (by decide) (by decide) h
  rw [Int.repr_eq_if] at h
  split at h
  · exact Or.inl (digit h)
  · rw [String.toList_append] at h
    rcases List.mem_append.mp h with h | h
    · exact Or.inr (List.mem_singleton.mp h)
    · exact Or.inl (digit h)

/-- The value of a node, if it is a token that has one. Expressions show no values in a
drawing. -/
def Node.value? : Node → Option Int
  | token leaf => leaf.value
  | expr _ => none

/-- What is shown of a value is nothing, or a blank and the value, so a value can be told from the
end of a name. -/
theorem Node.shownValue_eq (node : Node) :
    node.shownValue = node.value?.elim "" fun value => " " ++ value.repr := by
  cases node with
  | token leaf =>
    rw [shownValue, value?]
    cases leaf.value <;> rfl
  | expr => rfl

/-- The characters of a shown value, if there is one, behind a blank. -/
theorem Node.toList_shownValue (node : Node) :
    node.shownValue.toList = node.value?.elim [] fun value => ' ' :: value.repr.toList := by
  rw [shownValue_eq]
  cases node.value? with
  | none => rfl
  | some value =>
    rw [Option.elim_some, String.toList_append, show " ".toList = [' '] by decide]
    rfl

namespace Place

/-- What stands behind the branches of a line: the name of the kind, and the value if there is
one. -/
def label (place : Place) : List Char :=
  place.node.kind.name.toList ++ place.node.shownValue.toList

/-- Whether a character may stand in a label. None of these characters is one of those that draw
branches, but for the blank. -/
def isLabelChar (c : Char) : Bool :=
  c.isAlphanum || c == ' ' || c == '-'

/-- A label has letters, digits, blanks and minus signs, and nothing else. -/
theorem isLabelChar_of_mem_label {place : Place} {c : Char} (h : c ∈ place.label) :
    isLabelChar c = true := by
  rw [label, Node.toList_shownValue] at h
  rcases List.mem_append.mp h with h | h
  · simp [isLabelChar, Char.isAlphanum, Kind.isAlpha_of_mem_name h]
  · cases hvalue : place.node.value? with
    | none => simp [hvalue] at h
    | some value =>
      rw [hvalue, Option.elim_some] at h
      rcases List.mem_cons.mp h with rfl | h
      · rfl
      · rcases isDigit_or_eq_minus_of_mem_repr h with h | rfl
        · simp [isLabelChar, Char.isAlphanum, h]
        · rfl

/-! ### Columns -/

/-- The characters of a line, from left to right: three for each ancestor, three for the node
itself, and its label. -/
theorem toList_line (place : Place) :
    place.line.toList =
      (place.ancestors.flatMap fun isLast => [if isLast then ' ' else '│', ' ', ' ']) ++
        ((if place.isLast then '└' else '├') :: '─' :: '─' :: place.label) := by
  have cell : ∀ isLast : Bool, (if isLast then "   " else "│  ").toList =
      [if isLast then ' ' else '│', ' ', ' '] := by decide
  have marker : ∀ isLast : Bool, (if isLast then "└──" else "├──").toList =
      [if isLast then '└' else '├', '─', '─'] := by decide
  rw [line, String.toList_append, String.toList_append, marker, indent,
    String.toList_join, List.flatMap_map, String.toList_append]
  simp only [cell, label, List.append_assoc, List.cons_append, List.nil_append]

/-- No line has a newline in it, so a drawing has as many lines as it has nodes. -/
theorem newline_notMem_line (place : Place) : '\n' ∉ place.line.toList := by
  rw [toList_line]
  intro h
  rcases List.mem_append.mp h with h | h
  · obtain ⟨isLast, -, h⟩ := List.mem_flatMap.mp h
    cases isLast <;> simp at h
  · simp only [List.mem_cons] at h
    rcases h with h | h | h | h
    · split at h <;> cases h
    · cases h
    · cases h
    · exact absurd (isLabelChar_of_mem_label h) (by decide)

/-- Whether a character connects its line to another one, above, below or on the left. -/
def isBranch (c : Char) : Bool :=
  c == '│' || c == '├' || c == '└'

/-- The first of the three columns of each level, from the root to the node. All that connects a
line to others stands there. -/
def branches (place : Place) : List Char :=
  (place.ancestors.map fun isLast => if isLast then ' ' else '│') ++
    [if place.isLast then '└' else '├']

/-- If a character stands only in the first of three columns, this is still so with
three columns in front. -/
theorem getElem?_cell_iff {first fill c : Char} (hfill : fill ≠ c) {behind firsts : List Char}
    (h : ∀ column, behind[column]? = some c ↔
      ∃ level, column = 3 * level ∧ firsts[level]? = some c) (column : Nat) :
    (first :: fill :: fill :: behind)[column]? = some c ↔
      ∃ level, column = 3 * level ∧ (first :: firsts)[level]? = some c := by
  have noFill : ¬some fill = some c := fun h => hfill (Option.some.inj h)
  match column with
  | 0 =>
    refine ⟨fun h => ⟨0, rfl, h⟩, ?_⟩
    rintro ⟨level, hlevel, h⟩
    obtain rfl : level = 0 := by omega
    exact h
  | 1 | 2 => exact iff_of_false noFill (by rintro ⟨level, hlevel, -⟩; omega)
  -- Three columns further on it is the next level.
  | column + 3 =>
    refine (h column).trans ⟨?_, ?_⟩
    · rintro ⟨level, rfl, h⟩
      exact ⟨level + 1, rfl, h⟩
    · rintro ⟨level, hlevel, h⟩
      obtain ⟨level, rfl⟩ : ∃ before, level = before + 1 := ⟨level - 1, by omega⟩
      exact ⟨level, by omega, h⟩

/-- What connects a line to others stands in the first of three columns, so columns are as good as
levels. -/
theorem getElem?_line_iff (place : Place) {c : Char} (hc : isBranch c = true) (column : Nat) :
    place.line.toList[column]? = some c ↔
      ∃ level, column = 3 * level ∧ place.branches[level]? = some c := by
  have inLabel : ∀ column : Nat, place.label[column]? = some c ↔
      ∃ level, column = 3 * level ∧ ([] : List Char)[level]? = some c := fun column => by
    refine iff_of_false (fun h => ?_) (by simp)
    have label := isLabelChar_of_mem_label (List.mem_of_getElem? h)
    simp only [isBranch, Bool.or_eq_true, beq_iff_eq] at hc
    rcases hc with (rfl | rfl) | rfl <;> cases label
  have hblank : ' ' ≠ c := by rintro rfl; cases hc
  have hdash : '─' ≠ c := by rintro rfl; cases hc
  rw [toList_line, branches]
  induction place.ancestors generalizing column with
  | nil => exact getElem?_cell_iff hdash inLabel column
  | cons isLast ancestors ih => exact getElem?_cell_iff hblank ih column

end Place

/-! ### Lines -/

namespace Node

/-- A drawing has one line for each place of the outline, in the same order. -/
theorem drawing_eq_map_line (node : Node) : node.drawing = node.outline.map Place.line := by
  cases node with
  | token leaf =>
    show Branch.draw [Branch.ofPlace ⟨[], true, .token leaf⟩] = _
    rw [Branch.draw_token, Branch.draw]
    rfl
  | expr inner =>
    show Branch.draw [Branch.ofPlace ⟨[], true, .expr inner⟩] = _
    rw [Branch.draw_expr, Branch.draw, List.append_nil]
    rfl

/-- An outline goes through the nodes of the tree, each of them once and parents before
children. -/
theorem map_node_outline (node : Node) : node.outline.map Place.node = node.preorder := by
  cases node with
  | token leaf => rfl
  | expr inner => exact inner.map_node_outline [] true

/-- An outline has at least one place, which is that of the root, so a drawing is never empty. -/
theorem outline_ne_nil (node : Node) : node.outline ≠ [] := by
  cases node with
  | token leaf => exact List.cons_ne_nil _ _
  | expr inner => cases inner <;> exact List.cons_ne_nil _ _

/-- The text of a drawing, cut at its newlines, has the lines of the outline. So nothing is lost
by putting the lines into one text. -/
theorem lines_drawn (node : Node) :
    node.drawn.toList.splitOn '\n' = node.outline.map fun place => place.line.toList := by
  rw [drawn, String.toList_intercalate, drawing_eq_map_line, List.map_map]
  refine List.splitOn_intercalate '\n' ?_ (mt List.map_eq_nil_iff.mp node.outline_ne_nil)
  intro line hline
  obtain ⟨place, -, rfl⟩ := List.mem_map.mp hline
  exact place.newline_notMem_line

end Node

end Calculator
