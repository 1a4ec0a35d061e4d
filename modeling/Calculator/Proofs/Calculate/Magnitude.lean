import Calculator.Proofs.Calculate.Exact
import Calculator.Proofs.Calculate.Gate
import Calculator.Proofs.Token.Payload

/-!
# `Calculator.Proofs.Calculate.Magnitude`: how large a result can be

There is no bound on the numbers that a line calculates with, so a short line may
have a result of many digits. But no operation makes more digits than its two
operands have together. So a result has no more digits than its line
(`natAbs_lt_of_calculate`), whatever comes up in between.

* `Expr.value_of_closed` is the induction: what each operation takes from its
  operands to its result, where the sizes of operands add up, goes from the leaves
  of an expression to its value.
* `value_of_mem_leaves` is what is known of the leaves. They are numerals of the
  line, or they have no value.

Products come close to the bound, and `calculate_power` is about those of a factor
with itself.
-/

set_option autoImplicit false

namespace Calculator

open Text

/-! ### Operations -/

/-- A value is one of the four that the operations give, whichever operator token it was. -/
theorem Operator.eq_of_apply {operator : Token} {left right value : Int}
    (h : Operator.apply operator left right = .ok value) :
    value = left + right ∨ value = left - right ∨ value = left * right ∨
      value = left.tdiv right := by
  unfold Operator.apply at h
  split at h
  · exact Or.inl (Except.ok.inj h).symm
  · exact Or.inr (Or.inl (Except.ok.inj h).symm)
  · exact Or.inr (Or.inr (Or.inl (Except.ok.inj h).symm))
  · split at h
    · cases h
    · rw [Operator.quotient_eq_tdiv] at h
      exact Or.inr (Or.inr (Or.inr (Except.ok.inj h).symm))
  · cases h

/-- The result of an operation has no more digits than the operands together, as the largest
results are those of products. -/
theorem Operator.natAbs_lt_of_apply {operator : Token} {left right value : Int} {m n : Nat}
    (h : Operator.apply operator left right = .ok value) (hm : 0 < m) (hn : 0 < n)
    (hleft : left.natAbs < 10 ^ m) (hright : right.natAbs < 10 ^ n) :
    value.natAbs < 10 ^ (m + n) := by
  -- As both have a digit, sums are no larger than products may be.
  have two : ∀ {k : Nat}, 0 < k → 2 ≤ 10 ^ k := fun hk =>
    (show 2 ≤ 10 ^ 1 by decide).trans (Nat.pow_le_pow_right (by decide) hk)
  have sum : left.natAbs + right.natAbs < 10 ^ (m + n) :=
    calc left.natAbs + right.natAbs
        < 10 ^ m + 10 ^ n := Nat.add_lt_add hleft hright
      _ ≤ 10 ^ m * 10 ^ n := Nat.add_le_mul (two hm) (two hn)
      _ = 10 ^ (m + n) := (Nat.pow_add 10 m n).symm
  rcases Operator.eq_of_apply h with rfl | rfl | rfl | rfl
  · exact (Int.natAbs_add_le left right).trans_lt sum
  · exact (Int.natAbs_sub_le left right).trans_lt sum
  · rw [Int.natAbs_mul, Nat.pow_add]
    exact Nat.mul_lt_mul'' hleft hright
  · rw [Int.natAbs_tdiv]
    exact ((Nat.div_le_self _ _).trans (Nat.le_add_right _ _)).trans_lt sum

/-! ### Expressions -/

/-- How many digits the text of a token has, of any script. Of the tokens of a line, only numbers
have any. -/
def Token.digits (token : Token) : Nat :=
  token.chars.countP isDigit

/-- How many digits the leaves of an expression have, all of them together. -/
def Expr.digits (expr : Expr) : Nat :=
  (expr.leaves.flatMap Token.chars).countP isDigit

/-- An operation has the digits of its operands, and the operator adds none that are needed. -/
theorem Expr.digits_binary_le (left : Expr) (operator : Token) (right : Expr) :
    left.digits + right.digits ≤ (binary left operator right).digits := by
  simp only [digits, leaves, List.flatMap_append, List.flatMap_cons, List.countP_append]
  omega

/-- A group has the digits of what is inside, so a bound for the group is one for what is
inside. -/
theorem Expr.digits_parenthesized_le (opening : Token) (inner : Expr) (closing : Token) :
    inner.digits ≤ (parenthesized opening inner closing).digits := by
  simp only [digits, leaves, List.flatMap_append, List.flatMap_cons, List.countP_append]
  omega

/-- What holds of the values of all leaves, each with its number of digits, holds
of the value of the expression, if every operation keeps it. -/
theorem Expr.value_of_closed {P : Nat → Int → Prop}
    (more : ∀ {m n : Nat} {value : Int}, m ≤ n → P m value → P n value)
    (closed : ∀ {operator : Token} {left right value : Int} {m n : Nat},
      Operator.apply operator left right = .ok value → P m left → P n right → P (m + n) value)
    {expr : Expr} (hleaves : ∀ leaf ∈ expr.leaves, ∀ value ∈ leaf.value, P leaf.digits value)
    {value : Int} (h : expr.value = .ok value) : P expr.digits value := by
  -- By induction on the expression: digits add up, and `more` evens out what parentheses and
  -- operators would add.
  induction expr generalizing value with
  | number literal =>
    rw [Expr.value] at h
    cases hliteral : literal.value with
    | none =>
      rw [hliteral] at h
      cases h
    | some result =>
      rw [hliteral] at h
      obtain rfl := Except.ok.inj h
      have hdigits : (number literal).digits = literal.digits := by
        simp [digits, leaves, Token.digits]
      rw [hdigits]
      exact hleaves literal (List.mem_singleton_self literal) _ hliteral
  | binary left operator right ihLeft ihRight =>
    obtain ⟨leftValue, rightValue, hleft, hright, happly⟩ := exists_of_value_binary h
    simp only [leaves, List.forall_mem_append, List.forall_mem_cons] at hleaves
    obtain ⟨leavesLeft, -, leavesRight⟩ := hleaves
    exact more (digits_binary_le left operator right)
      (closed happly (ihLeft leavesLeft hleft) (ihRight leavesRight hright))
  | parenthesized opening inner closing ih =>
    simp only [leaves, List.forall_mem_append, List.forall_mem_cons] at hleaves
    exact more (digits_parenthesized_le opening inner closing) (ih hleaves.2.1 h)

/-- A value has no more digits than the expression, if the same holds of the
leaves. -/
theorem Expr.natAbs_value_lt {expr : Expr}
    (hleaves : ∀ leaf ∈ expr.leaves, ∀ value ∈ leaf.value,
      0 < leaf.digits ∧ value.natAbs < 10 ^ leaf.digits)
    {value : Int} (h : expr.value = .ok value) : value.natAbs < 10 ^ expr.digits := by
  refine (value_of_closed (P := fun n value => 0 < n ∧ value.natAbs < 10 ^ n) ?_ ?_ hleaves h).2
  · rintro m n value hle ⟨hm, hlt⟩
    exact ⟨hm.trans_le hle, hlt.trans_le (Nat.pow_le_pow_right (by decide) hle)⟩
  · rintro operator left right value m n happly ⟨hm, hleft⟩ ⟨hn, hright⟩
    exact ⟨Nat.add_pos_left hm n, Operator.natAbs_lt_of_apply happly hm hn hleft hright⟩

/-- Zero is the only value to be had from zeros, by any of the operations. The induction is on the
expression. -/
theorem Expr.value_eq_zero {expr : Expr}
    (hleaves : ∀ leaf ∈ expr.leaves, ∀ value ∈ leaf.value, value = 0)
    {value : Int} (h : expr.value = .ok value) : value = 0 := by
  refine value_of_closed (P := fun _ value => value = 0) (fun _ h => h) ?_ hleaves h
  rintro operator left right value m n happly rfl rfl
  rcases Operator.eq_of_apply happly with rfl | rfl | rfl | rfl <;> rfl

/-! ### Lines -/

/-- A value of a token is that of the numeral which is its text, so it has no more than 4300
digits and is not above the largest number. -/
theorem Lexeme.IsCut.numeral_of_value {line : String} {largest : Int} {lexeme : Lexeme}
    (h : IsCut line largest lexeme) {value : Int} (hvalue : lexeme.token.value = some value) :
    ∃ number : Nat, value = number ∧ lexeme.token.chars ≠ [] ∧
      IsNumeral lexeme.token.chars number ∧ lexeme.token.chars.length ≤ longestNumeral ∧
      (number : Int) ≤ largest := by
  have kind : lexeme.token.kind = .number :=
    h.kind_of_value fun none => Option.some_ne_none value (hvalue.symm.trans none)
  obtain ⟨run, number, hne, numeral, htext, hnumber⟩ := h.exists_numeral kind
  have hchars : lexeme.token.chars = run := by
    rw [Token.chars, Token.shown, htext]
    exact String.toList_ofList
  rw [hvalue] at hnumber
  split at hnumber
  · next accepted =>
    rw [hchars]
    exact ⟨number, Option.some.inj hnumber, hne, numeral, accepted⟩
  · cases hnumber

/-- Any leaf of the tree of a line with a value is the numeral that its text writes, as no leaf
that was made up has a value. -/
theorem value_of_mem_leaves {line : String} {largest maxDepth : Int} {leaf : Token}
    (hleaf : leaf ∈ (parse line largest maxDepth).root.leaves) {value : Int}
    (hvalue : leaf.value = some value) :
    ∃ number : Nat, value = number ∧ leaf.chars ≠ [] ∧ IsNumeral leaf.chars number ∧
      leaf.chars.length ≤ longestNumeral ∧ (number : Int) ≤ largest := by
  obtain ⟨tokens, h⟩ := Cursor.onLine_ofLine line largest maxDepth
  rcases h.placed_takenFrom.2.mem_or_missing leaf hleaf with hmem | ⟨kind, position, rfl⟩
  · obtain ⟨lexeme, hlexeme, rfl⟩ := List.mem_map.mp (List.mem_of_mem_filter hmem)
    exact ((Lexeme.scans_readAll line largest 0 line.toList).isCut lexeme hlexeme).numeral_of_value
      hvalue
  · cases hvalue

/-- The tree of an accepted line has no more digits than the line, as its leaves are tokens of the
line, each of them once. -/
theorem digits_root_le {line : String} {largest maxDepth : Int}
    (accepted : (parse line largest maxDepth).diagnostics = []) :
    (parse line largest maxDepth).root.digits ≤ line.toList.countP isDigit := by
  obtain ⟨tokens, h⟩ := Cursor.onLine_ofLine line largest maxDepth
  obtain ⟨-, -, leaves, -⟩ := h.fits_of_accepted rfl accepted
  have hleaves : (parse line largest maxDepth).root.leaves = tokens := leaves
  have htokens : tokens.Sublist (lex line largest) := by
    have hcursor : (Cursor.ofLine line largest maxDepth).tokens.Sublist (lex line largest) :=
      List.filter_sublist
    rw [h.tokens_eq] at hcursor
    exact (List.sublist_append_left tokens _).trans hcursor
  -- The texts of all tokens of a line make up the line, so its digits are those of its tokens.
  have texts := (Lexeme.scans_readAll line largest 0 line.toList).segmentation.texts
  calc (parse line largest maxDepth).root.digits
      = (tokens.flatMap Token.chars).countP isDigit := by rw [Expr.digits, hleaves]
    _ ≤ ((lex line largest).flatMap Token.chars).countP isDigit :=
        (htokens.flatMap Token.chars).countP_le
    _ = line.toList.countP isDigit := congrArg (List.countP isDigit) texts

/-- The result of a line has no more digits than the line. So a result that is too long takes a
line that is as long. -/
theorem natAbs_lt_of_calculate {line : String} {largest value : Int}
    (h : calculate line largest = .ok value) :
    value.natAbs < 10 ^ line.toList.countP isDigit := by
  obtain ⟨accepted, hvalue⟩ := calculate_eq_ok_iff.mp h
  have hleaves : ∀ leaf ∈ (parse line largest defaultMaxDepth).root.leaves,
      ∀ value ∈ leaf.value, 0 < leaf.digits ∧ value.natAbs < 10 ^ leaf.digits := by
    intro leaf hleaf number hnumber
    obtain ⟨number, rfl, hne, numeral, -⟩ := value_of_mem_leaves hleaf hnumber
    -- All characters of a numeral are digits.
    have digits : leaf.digits = leaf.chars.length :=
      List.countP_eq_length.mpr ((isNumeral_iff _ _).mp numeral).1
    rw [digits]
    exact ⟨List.length_pos_iff.mpr hne, numeral.lt_pow⟩
  exact (Expr.natAbs_value_lt hleaves hvalue).trans_le
    (Nat.pow_le_pow_right (by decide) (digits_root_le accepted))

/-- If no number above zero is accepted, a line has no result but zero, however it is made up. -/
theorem eq_zero_of_calculate {line : String} {largest value : Int} (hlargest : largest ≤ 0)
    (h : calculate line largest = .ok value) : value = 0 := by
  refine Expr.value_eq_zero (fun leaf hleaf number hnumber => ?_) (calculate_eq_ok_iff.mp h).2
  obtain ⟨number, rfl, -, -, -, hle⟩ := value_of_mem_leaves hleaf hnumber
  omega

/-! ### Powers -/

/-- An expression that is written as a rendering has the outcome of the rendered
expression. -/
theorem Rendering.Writes.calculate_text {largest : Int} {rendering : Rendering} {arith : Arith}
    (writes : Writes largest rendering arith) (shallow : rendering.nesting ≤ 100) {value : Int}
    (h : arith.outcome = .ok value) :
    calculate (String.ofList rendering.text) largest = .ok value := by
  have parsed := writes.parse (List.forall_mem_nil _) (List.forall_mem_nil _) defaultMaxDepth
    shallow
  simp only [List.nil_append, List.append_nil] at parsed
  rw [calculate_eq, parsed]
  show (Expr.evaluate _).mapError Fault.failure = _
  rw [Expr.evaluate_eq_value, writes.value_tree, h]
  rfl

/-- A product of a factor with itself, which is multiplied `n` times, from the left to the
right. -/
def Arith.power (factor : Arith) : (n : Nat) → Arith
  | 0 => factor
  | n + 1 => .operation .multiply (factor.power n) factor

/-- How a product of a factor with itself is written, without blanks and without more
parentheses. -/
def Rendering.power (factor : Rendering) : (n : Nat) → Rendering
  | 0 => factor
  | n + 1 => .operation .multiply (factor.power n) [] [] factor

variable {largest : Int} {rendering : Rendering} {arith : Arith}

/-- The outcome of a product of a factor with itself is a power, one higher than there are
multiplications. -/
theorem Arith.outcome_power {value : Int} (h : arith.outcome = .ok value) (n : Nat) :
    (arith.power n).outcome = .ok (value ^ (n + 1)) := by
  induction n with
  | zero => rw [power, h, pow_one]
  | succ n ih =>
    rw [power, outcome, ih, h, pow_succ value (n + 1)]
    rfl

/-- Products nest no deeper than their factors, so they may be as long as one likes. -/
theorem Rendering.nesting_power (factor : Rendering) (n : Nat) :
    (factor.power n).nesting = factor.nesting := by
  induction n with
  | zero => rfl
  | succ n ih => rw [power, nesting, ih, Nat.max_self]

/-- The text of such a product has the factor again and again, with stars in between. -/
theorem Rendering.text_power (factor : Rendering) (n : Nat) :
    (factor.power n).text = factor.text ++ (List.replicate n ('*' :: factor.text)).flatten := by
  induction n with
  | zero => simp [power]
  | succ n ih =>
    rw [power, text, ih, List.replicate_succ', List.flatten_append]
    simp [Arith.Operation.symbol]

/-- A factor that needs no parentheses may be written again and again, as a product of products
needs none on the left. -/
theorem Rendering.Writes.power (writes : Writes largest rendering arith)
    (enclosed : rendering.isBareOperation = false) (n : Nat) :
    Writes largest (rendering.power n) (arith.power n) := by
  induction n with
  | zero => exact writes
  | succ n ih =>
    have noBareSum : (rendering.power n).isBareSum = false := by
      cases n with
      | succ n => rfl
      | zero => cases rendering <;> first | rfl | cases enclosed
    exact .operation ih (List.forall_mem_nil _) (List.forall_mem_nil _) writes
      ⟨noBareSum, enclosed⟩

/-- The result of a product that is written like this is the power of its factor, however
large. -/
theorem Rendering.Writes.calculate_power (writes : Writes largest rendering arith)
    (enclosed : rendering.isBareOperation = false) (shallow : rendering.nesting ≤ 100)
    {value : Int} (h : arith.outcome = .ok value) (n : Nat) :
    calculate (String.ofList (rendering.power n).text) largest = .ok (value ^ (n + 1)) :=
  (writes.power enclosed n).calculate_text (by rwa [nesting_power]) (Arith.outcome_power h n)

end Calculator
