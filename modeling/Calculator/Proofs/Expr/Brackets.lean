import Calculator.Proofs.Expr.Alike
import Calculator.Proofs.Expr.Spelling

/-!
# `Calculator.Proofs.Expr.Brackets`: the parentheses of a formatted expression

The text of an expression has a pair of parentheses for every operation and for
every group. `Paired count text` says that the parentheses of a text match, and that
there are `count` pairs. Apart from parentheses and blanks, the text has the texts of
numbers and operators, which are the leaves of the expression without its groups.

* `paired_spelled`: the text is paired, unless a token brings parentheses with it.
* `filter_spelled`: what is left without parentheses and blanks.

`format_brackets` says both of the text that `Expr.format` puts together.
-/

set_option autoImplicit false

namespace Calculator

/-! ### Matching parentheses -/

/-- Whether a character is a parenthesis, of either direction. -/
def isParenthesis (c : Char) : Bool :=
  c == '(' || c == ')'

/-- Whether a character is neither a parenthesis nor a blank, so that it belongs to a token's own
text. -/
def isWord (c : Char) : Bool :=
  !isParenthesis c && c != ' '

/-- The parentheses of a text match, and there are `count` pairs of them. This is said without
counting openings and closings apart. -/
inductive Paired : (count : Nat) → (text : List Char) → Prop where
  /-- The empty text has no parentheses. -/
  | nil : Paired 0 []
  /-- Other characters do not count. -/
  | other {count : Nat} {c : Char} {text : List Char} (plain : isParenthesis c = false)
    (behind : Paired count text) : Paired count (c :: text)
  /-- An opening parenthesis is closed behind a text in which all parentheses match. -/
  | pair {inner outer : Nat} {inside text : List Char} (within : Paired inner inside)
    (behind : Paired outer text) :
    Paired (inner + outer + 1) ('(' :: (inside ++ ')' :: text))

namespace Paired

/-- The pairs of two texts add up. -/
theorem append {m n : Nat} {front text : List Char} (h : Paired m front) (behind : Paired n text) :
    Paired (m + n) (front ++ text) := by
  induction h with
  | nil => rwa [Nat.zero_add]
  | other plain _ ih => exact ih.other plain
  | @pair inner outer inside rest within _ _ ih =>
    rw [List.cons_append, List.append_assoc, List.cons_append,
      show inner + outer + 1 + n = inner + (outer + n) + 1 by omega]
    exact pair within ih

/-- A text without parentheses has no pairs, and there is nothing in it that could fail to
match. -/
theorem of_plain {text : List Char} (plain : ∀ c ∈ text, isParenthesis c = false) :
    Paired 0 text := by
  induction text with
  | nil => exact nil
  | cons c text ih =>
    obtain ⟨hc, htext⟩ := List.forall_mem_cons.mp plain
    exact (ih htext).other hc

/-- A text in parentheses has one more pair, the one around it. -/
theorem enclosed {count : Nat} {text : List Char} (h : Paired count text) :
    Paired (count + 1) ('(' :: (text ++ [')'])) :=
  pair h nil

end Paired

namespace Expr

/-! ### The text of an expression -/

/-- The number of binary operations in an expression, each of which is written with parentheses
around it. -/
def operations : Expr → Nat
  | number _ => 0
  | binary left _ right => left.operations + right.operations + 1
  | parenthesized _ inner _ => inner.operations

/-- The number of groups in an expression, each of which is written with its own parentheses. -/
def groups : Expr → Nat
  | number _ => 0
  | binary left _ right => left.groups + right.groups
  | parenthesized _ inner _ => inner.groups + 1

/-- The characters of the text of an operation: its operands with the operator between two blanks,
all in parentheses. -/
theorem toList_spelled_binary (left : Expr) (operator : Token) (right : Expr) :
    (binary left operator right).spelled.toList =
      '(' :: ((left.spelled.toList ++ ' ' :: (operator.shown.toList ++
        ' ' :: right.spelled.toList)) ++ [')']) := by
  simp [spelled]

/-- The characters of the text of a group: what is inside, in parentheses. -/
theorem toList_spelled_parenthesized (opening : Token) (inner : Expr) (closing : Token) :
    (parenthesized opening inner closing).spelled.toList =
      '(' :: (inner.spelled.toList ++ [')']) := by
  simp [spelled]

/-- There is one pair of parentheses for each operation and for each group, and they match. The
induction is on the expression. -/
theorem paired_spelled {expr : Expr}
    (plain : ∀ leaf ∈ expr.ungrouped.leaves, ∀ c ∈ leaf.shown.toList, isParenthesis c = false) :
    Paired (expr.operations + expr.groups) expr.spelled.toList := by
  induction expr with
  | number literal => exact .of_plain (plain literal List.mem_cons_self)
  | binary left operator right ihLeft ihRight =>
    rw [ungrouped, leaves, List.forall_mem_append, List.forall_mem_cons] at plain
    have behindBlank : Paired 0 (' ' :: operator.shown.toList) :=
      (Paired.of_plain plain.2.1).other rfl
    have inside := (ihLeft plain.1).append
      (behindBlank.append ((ihRight plain.2.2).other (c := ' ') rfl))
    -- The pairs of the operands are counted apart, and the operation has one of its own.
    have count : left.operations + right.operations + 1 + (left.groups + right.groups) =
        left.operations + left.groups + (0 + (right.operations + right.groups)) + 1 := by
      omega
    rw [toList_spelled_binary, operations, groups, count]
    exact inside.enclosed
  | parenthesized opening inner closing ih =>
    rw [toList_spelled_parenthesized]
    exact (ih plain).enclosed

/-- Apart from parentheses and blanks, the text has what the numbers and operators
have. -/
theorem filter_spelled (expr : Expr) :
    expr.spelled.toList.filter isWord =
      expr.ungrouped.leaves.flatMap fun leaf => leaf.shown.toList.filter isWord := by
  have opening : isWord '(' = false := rfl
  have closing : isWord ')' = false := rfl
  have blank : isWord ' ' = false := rfl
  induction expr with
  | number literal => rw [spelled, ungrouped, leaves, List.flatMap_singleton]
  | binary left operator right ihLeft ihRight =>
    simp [toList_spelled_binary, ungrouped, leaves, opening, closing, blank, ihLeft, ihRight]
  | parenthesized _ inner _ ih =>
    simp [toList_spelled_parenthesized, ungrouped, opening, closing, ih]

/-- The text that is put together from pieces is the text by recursion, for every
expression, whatever tokens it is made of. If the texts of its numbers and operators
have no parentheses, the parentheses match, and there is one pair for each operation
and one for each group. If they have no blanks either, they are, in order, what is left
of the text without its parentheses and blanks. -/
theorem format_brackets (root : Expr) :
    root.format = root.spelled ∧
    ((∀ leaf ∈ root.ungrouped.leaves, ∀ c ∈ leaf.shown.toList, isParenthesis c = false) →
      Paired (root.operations + root.groups) root.format.toList) ∧
    ((∀ leaf ∈ root.ungrouped.leaves, ∀ c ∈ leaf.shown.toList, isWord c = true) →
      root.format.toList.filter isWord =
        root.ungrouped.leaves.flatMap fun leaf => leaf.shown.toList) := by
  rw [format_eq_spelled]
  refine ⟨rfl, paired_spelled, fun plain => ?_⟩
  rw [filter_spelled, List.flatMap_def, List.flatMap_def]
  exact congrArg List.flatten
    (List.map_congr_left fun leaf hleaf => List.filter_eq_self.mpr (plain leaf hleaf))

/-- A number that was made up has no text, but the group around it is written. So the count is
that of the tree and not of the line. -/
theorem format_brackets_of_missing :
    let root := binary (number ⟨.number, 0, some "1", some 1⟩) ⟨.plus, 1, some "+", none⟩
      (parenthesized ⟨.openParenthesis, 2, some "(", none⟩ (number (.missing .number 3))
        ⟨.closeParenthesis, 3, some ")", none⟩)
    (∀ leaf ∈ root.ungrouped.leaves, ∀ c ∈ leaf.shown.toList, isParenthesis c = false) ∧
    (∀ leaf ∈ root.ungrouped.leaves, ∀ c ∈ leaf.shown.toList, isWord c = true) ∧
    root.format = "(1 + ())" ∧ Paired 2 root.format.toList ∧
    root.format.toList.filter isWord = ['1', '+'] := by
  intro root
  have words : ∀ leaf ∈ root.ungrouped.leaves, ∀ c ∈ leaf.shown.toList, isWord c = true := by
    have all : root.ungrouped.leaves.all (fun leaf => leaf.shown.toList.all isWord) = true := by
      decide
    intro leaf hleaf
    exact List.all_eq_true.mp (List.all_eq_true.mp all leaf hleaf)
  have plain : ∀ leaf ∈ root.ungrouped.leaves, ∀ c ∈ leaf.shown.toList,
      isParenthesis c = false := fun leaf hleaf c hc =>
    Bool.not_eq_true' _ ▸ (Bool.and_eq_true_iff.mp (words leaf hleaf c hc)).1
  obtain ⟨spelling, paired, rest⟩ := format_brackets root
  exact ⟨plain, words, spelling.trans (by decide), paired plain, rest words⟩

end Expr

end Calculator
