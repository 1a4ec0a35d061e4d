import Calculator.Proofs.Evaluation.Refinement

/-!
# `Calculator.Proofs.Evaluation.Division`: how quotients are rounded

`IsTruncated` says what it is to round toward zero, by the remainder that a
quotient leaves and without any division. The remainder is smaller than the
divisor, and it never lies on the other side of zero than the dividend. So the
remainders of two such quotients are less than a divisor apart, which makes
the quotient unique (`IsTruncated.eq`).

* `Operator.isTruncated_iff`: `Operator.quotient` is that quotient, for every
  divisor other than zero.
* `Operator.quotient_eq_fdiv_add_one`: where the signs differ, a quotient that
  is not exact is one above the quotient rounded down.
* `Expr.exists_isDivision`: any two integers are divided by some expression.

The main theorem, `Expr.evaluate_division`, is about all expressions that
divide two integers.
-/

set_option autoImplicit false

namespace Calculator

/-! ### Rounding toward zero -/

/-- A quotient that is rounded toward zero, told by the remainder that it leaves: it is smaller
than the divisor and has the sign of the dividend, or is zero. -/
structure IsTruncated (dividend divisor quotient : Int) : Prop where
  /-- The remainder is smaller than the divisor. -/
  smaller : (dividend - quotient * divisor).natAbs < divisor.natAbs
  /-- The remainder is zero or has the sign of the dividend. -/
  sign : dividend - quotient * divisor = 0 ∨
    (dividend - quotient * divisor).sign = dividend.sign

instance (dividend divisor quotient : Int) : Decidable (IsTruncated dividend divisor quotient) :=
  decidable_of_iff (_ ∧ _) ⟨fun ⟨smaller, sign⟩ => ⟨smaller, sign⟩, fun h => ⟨h.smaller, h.sign⟩⟩

namespace IsTruncated

variable {dividend divisor quotient other : Int}

/-- A dividend that is not negative leaves no negative remainder. -/
theorem remainder_nonneg (h : IsTruncated dividend divisor quotient) (nonneg : 0 ≤ dividend) :
    0 ≤ dividend - quotient * divisor := by
  rcases h.sign with zero | sign
  · exact Int.le_of_eq zero.symm
  · rw [← Int.sign_nonneg_iff, sign]
    exact Int.sign_nonneg_iff.mpr nonneg

/-- A dividend that is not positive leaves no positive remainder. The other sign is the case of
the definition turned around. -/
theorem remainder_nonpos (h : IsTruncated dividend divisor quotient) (nonpos : dividend ≤ 0) :
    dividend - quotient * divisor ≤ 0 := by
  rcases h.sign with zero | sign
  · exact Int.le_of_eq zero
  · rw [← Int.sign_nonpos_iff, sign]
    exact Int.sign_nonpos_iff.mpr nonpos

/-- No two quotients are both rounded toward zero, as their remainders would be at least a divisor
apart. -/
theorem eq (h : IsTruncated dividend divisor quotient) (h' : IsTruncated dividend divisor other) :
    other = quotient := by
  -- The remainders differ by a multiple of the divisor. They are on one side of zero,
  -- so that multiple is smaller than the divisor.
  have near : ((other - quotient) * divisor).natAbs < divisor.natAbs := by
    have small := h.smaller
    have small' := h'.smaller
    rw [Int.sub_mul]
    rcases Int.le_total 0 dividend with nonneg | nonpos
    · have side := h.remainder_nonneg nonneg
      have side' := h'.remainder_nonneg nonneg
      omega
    · have side := h.remainder_nonpos nonpos
      have side' := h'.remainder_nonpos nonpos
      omega
  have zero : (other - quotient) * divisor = 0 :=
    Int.eq_zero_of_dvd_of_natAbs_lt_natAbs (Int.dvd_mul_left _ _) near
  have nonzero : divisor ≠ 0 := by
    rintro rfl
    exact absurd near (Nat.not_lt_zero _)
  exact Int.eq_of_sub_eq_zero ((Int.mul_eq_zero.mp zero).resolve_right nonzero)

end IsTruncated

/-! ### Quotients -/

namespace Operator

/-- The quotient of two integers is rounded toward zero, for all signs of the two. -/
theorem isTruncated_quotient (dividend : Int) {divisor : Int} (nonzero : divisor ≠ 0) :
    IsTruncated dividend divisor (quotient dividend divisor) := by
  have remainder : dividend - quotient dividend divisor * divisor = dividend.tmod divisor := by
    rw [quotient_eq_tdiv, Int.tmod_def, Int.mul_comm]
  constructor
  · rw [remainder, Int.natAbs_tmod]
    exact Nat.mod_lt _ (Int.natAbs_pos.mpr nonzero)
  · rw [remainder]
    by_cases hdvd : divisor ∣ dividend
    · exact Or.inl (Int.tmod_eq_zero_of_dvd hdvd)
    · exact Or.inr (by rw [Int.sign_tmod, if_neg hdvd])

/-- No other integer is rounded toward zero, so the property says all there is to know about the
quotient. -/
theorem isTruncated_iff (dividend : Int) {divisor : Int} (nonzero : divisor ≠ 0) (other : Int) :
    IsTruncated dividend divisor other ↔ other = quotient dividend divisor := by
  constructor
  · exact (isTruncated_quotient dividend nonzero).eq
  · rintro rfl
    exact isTruncated_quotient dividend nonzero

/-- To negate the dividend negates the quotient, which would not hold if quotients were rounded
down. -/
theorem neg_quotient (dividend divisor : Int) :
    quotient (-dividend) divisor = -quotient dividend divisor := by
  rw [quotient_eq_tdiv, quotient_eq_tdiv, Int.neg_tdiv]

/-- To negate the divisor negates the quotient, so the signs of the operands matter only for the
sign of the result. -/
theorem quotient_neg (dividend divisor : Int) :
    quotient dividend (-divisor) = -quotient dividend divisor := by
  rw [quotient_eq_tdiv, quotient_eq_tdiv, Int.tdiv_neg]

/-- A quotient below zero that is not exact is rounded up, so it is one above the quotient that is
rounded down. -/
theorem quotient_eq_fdiv_add_one {dividend divisor : Int} (nonzero : divisor ≠ 0)
    (differ : dividend.sign ≠ divisor.sign) (inexact : ¬ divisor ∣ dividend) :
    quotient dividend divisor = dividend.fdiv divisor + 1 := by
  have notZero : dividend ≠ 0 := by
    rintro rfl
    exact inexact (Int.dvd_zero _)
  rw [quotient_eq_tdiv, Int.tdiv_eq_fdiv, if_neg inexact]
  -- The signs differ, so only two of the four cases are left.
  rcases Int.lt_or_gt_of_ne notZero with negative | positive
  · rcases Int.lt_or_gt_of_ne nonzero with negative' | positive'
    · exact absurd ((Int.sign_eq_neg_one_of_neg negative).trans
        (Int.sign_eq_neg_one_of_neg negative').symm) differ
    · rw [if_neg (Int.not_le.mpr negative), if_pos (Int.le_of_lt positive'),
        Int.sign_eq_one_of_pos positive']
  · rcases Int.lt_or_gt_of_ne nonzero with negative' | positive'
    · rw [if_pos (Int.le_of_lt positive), if_neg (Int.not_le.mpr negative')]
    · exact absurd ((Int.sign_eq_one_of_pos positive).trans
        (Int.sign_eq_one_of_pos positive').symm) differ

end Operator

/-! ### Divisions -/

namespace Expr

/-- An expression that divides one integer by another. The operands are any
expressions with these values. -/
inductive IsDivision (dividend divisor : Int) : Expr → Prop where
  | intro {left right : Expr} {operator : Token} (kind : operator.kind = .slash)
    (hleft : left.evaluate = .ok dividend) (hright : right.evaluate = .ok divisor) :
    IsDivision dividend divisor (.binary left operator right)

/-- A number has the value of its token, and it has no fault. -/
theorem evaluate_number {literal : Token} {value : Int} (h : literal.value = some value) :
    (number literal).evaluate = .ok value := by
  rw [evaluate_eq_value, Expr.value, h]

/-- Any two integers are divided by some expression, so nothing that is said about divisions is
empty. -/
theorem exists_isDivision (dividend divisor : Int) :
    ∃ expr, IsDivision dividend divisor expr :=
  ⟨binary (number ⟨.number, 0, none, some dividend⟩) ⟨.slash, 0, none, none⟩
      (number ⟨.number, 0, none, some divisor⟩),
    .intro rfl (evaluate_number rfl) (evaluate_number rfl)⟩

/-- The value of a division is the quotient of its operands' values, for any tree whose operands
have these values. -/
theorem IsDivision.evaluate_eq {dividend divisor : Int} {expr : Expr}
    (h : IsDivision dividend divisor expr) (nonzero : divisor ≠ 0) :
    expr.evaluate = .ok (Operator.quotient dividend divisor) := by
  obtain ⟨kind, hleft, hright⟩ := h
  rw [evaluate_eq_value] at hleft hright ⊢
  rw [value_binary _ hleft hright]
  simp [Operator.apply, kind, nonzero]

/-- All divisions of an integer by another one that is not zero have one value,
and there are such divisions. The value is the only integer that is rounded
toward zero. It is negated if either integer is. Where their signs differ and
the division is not exact, it is not the quotient rounded down. -/
theorem evaluate_division (dividend : Int) {divisor : Int} (nonzero : divisor ≠ 0) :
    (∃ expr, IsDivision dividend divisor expr) ∧
    ∃ quotient,
      (∀ expr, IsDivision dividend divisor expr → expr.evaluate = .ok quotient) ∧
      (∀ other, IsTruncated dividend divisor other ↔ other = quotient) ∧
      (∀ expr, IsDivision (-dividend) divisor expr → expr.evaluate = .ok (-quotient)) ∧
      (∀ expr, IsDivision dividend (-divisor) expr → expr.evaluate = .ok (-quotient)) ∧
      (dividend.sign ≠ divisor.sign → ¬ divisor ∣ dividend →
        quotient ≠ dividend.fdiv divisor) := by
  refine ⟨exists_isDivision dividend divisor, Operator.quotient dividend divisor,
    ?_, Operator.isTruncated_iff dividend nonzero, ?_, ?_, ?_⟩
  · intro expr h
    exact h.evaluate_eq nonzero
  · intro expr h
    rw [h.evaluate_eq nonzero, Operator.neg_quotient]
  · intro expr h
    rw [h.evaluate_eq (Int.neg_ne_zero.mpr nonzero), Operator.quotient_neg]
  · intro differ inexact
    rw [Operator.quotient_eq_fdiv_add_one nonzero differ inexact]
    omega

/-- Minus seven divided by two is minus three. Rounded down it would be minus four, so this is
where the two ways differ. -/
theorem evaluate_division_minus_seven_by_two :
    let slash : Token := ⟨.slash, 5, some "/", none⟩
    let two : Expr := number ⟨.number, 6, some "2", some 2⟩
    let seven : Expr := number ⟨.number, 3, some "7", some 7⟩
    let minusSeven : Expr := parenthesized ⟨.openParenthesis, 0, some "(", none⟩
      (binary (number ⟨.number, 1, some "0", some 0⟩) ⟨.minus, 2, some "-", none⟩ seven)
      ⟨.closeParenthesis, 4, some ")", none⟩
    (2 : Int) ≠ 0 ∧ IsDivision (-7) 2 (binary minusSeven slash two) ∧
      (binary minusSeven slash two).evaluate = .ok (-3) ∧
      (∀ other, IsTruncated (-7) 2 other ↔ other = -3) ∧
      (binary seven slash two).evaluate = .ok 3 ∧ (-3 : Int) ≠ (-7 : Int).fdiv 2 := by
  intro slash two seven minusSeven
  have nonzero : (2 : Int) ≠ 0 := by decide
  have hseven : minusSeven.evaluate = .ok (-7) := by
    rw [evaluate_eq_value]
    rfl
  have division : IsDivision (-7) 2 (binary minusSeven slash two) :=
    .intro rfl hseven (evaluate_number rfl)
  obtain ⟨-, quotient, evaluates, unique, negated, -, notFloor⟩ :=
    evaluate_division (-7) nonzero
  obtain rfl : -3 = quotient := (unique (-3)).mp (by decide)
  exact ⟨nonzero, division, evaluates _ division, unique,
    negated _ (.intro rfl (evaluate_number rfl) (evaluate_number rfl)),
    notFloor (by decide) (by decide)⟩

end Expr

end Calculator
