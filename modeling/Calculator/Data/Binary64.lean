/-!
# `Calculator.Data.Binary64`: numbers of the binary64 format, exactly

A number with a point or an exponent stands for the nearest number of the
binary64 format. Here such a number is held as the rational it is, so that
nothing about it is lost or left to a processor: a finite number of the
format is `n * 2 ^ e` with `n < 2 ^ 53` and `-1074 ≤ e ≤ 971`.

* `Binary64.ofDecimal`: the number nearest to a decimal. Of two that are
  equally near, the one with even `n` is taken.
* `Binary64.whole?`: the integer that a number is, if it is one.
* `Binary64.word?`: that integer, if it also fits a machine word.
-/

set_option autoImplicit false

namespace Calculator.Data

/-- The least natural number that does not fit a signed machine word of 64
bits. -/
def wordBound : Nat := Nat.pow 2 63

/-- A number of the binary64 format. The sign of zero is not kept. -/
inductive Binary64 where
  /-- A finite number. -/
  | finite (value : Rat)
  /-- A number beyond the largest finite one. -/
  | infinite (negative : Bool)
  /-- The result that is no number. -/
  | notANumber
  deriving Repr

namespace Binary64

/-- The integer nearest to a quotient. Of two that are equally near, the
even one is taken. -/
def roundHalfEven (numerator denominator : Nat) : Nat :=
  let quotient := numerator / denominator
  let twice := 2 * (numerator % denominator)
  if twice < denominator ∨ twice = denominator ∧ quotient % 2 = 0 then
    quotient
  else
    quotient + 1

/-- The quotient divided by `2 ^ exponent`, as a quotient again. -/
def scaleDown (exponent : Int) (quotient : Nat × Nat) : Nat × Nat :=
  if 0 ≤ exponent then
    (quotient.1, quotient.2 <<< exponent.toNat)
  else
    (quotient.1 <<< exponent.natAbs, quotient.2)

/-- The exponent at which a positive quotient is rounded: the quotient
divided by that power of two lies between `2 ^ 52` and `2 ^ 53`, unless
the exponent would fall below the least one. -/
def roundingExponent (quotient : Nat × Nat) : Int :=
  let estimate := (quotient.1.log2 : Int) - quotient.2.log2
  let scaled := scaleDown estimate quotient
  let exponent := if scaled.2 ≤ scaled.1 then estimate - 52 else estimate - 53
  if exponent < -1074 then -1074 else exponent

/-- The number nearest to a positive quotient. -/
def ofQuotient (negative : Bool) (quotient : Nat × Nat) : Binary64 :=
  let exponent := roundingExponent quotient
  let scaled := scaleDown exponent quotient
  let rounded := roundHalfEven scaled.1 scaled.2
  let magnitude := scaleDown (-exponent) (rounded, 1)
  if magnitude.2 <<< 1024 ≤ magnitude.1 then
    infinite negative
  else
    let numerator : Int := magnitude.1
    finite (mkRat (if negative then -numerator else numerator) magnitude.2)

/-- The number nearest to `digits * 10 ^ exponent`. Decimals that are
beyond every finite number, or nearer to zero than to any other number,
are told by their length alone. -/
def ofDecimal (negative : Bool) (digits : Nat) (exponent : Int) : Binary64 :=
  let magnitude := (toString digits).length + exponent
  if digits = 0 ∨ magnitude < -330 then
    finite (mkRat 0 1)
  else if 310 < magnitude then
    infinite negative
  else if 0 ≤ exponent then
    ofQuotient negative (digits * Nat.pow 10 exponent.toNat, 1)
  else
    ofQuotient negative (digits, Nat.pow 10 exponent.natAbs)

/-- The integer that a number is, if it is one. -/
def whole? : Binary64 → Option Int
  | finite value => if value.den = 1 then some value.num else none
  | _ => none

/-- The integer that a number is, if it lies strictly between the bounds of a
machine word. -/
def word? (number : Binary64) : Option Int :=
  number.whole?.filter fun whole => whole.natAbs < wordBound

/-- Whether a number is finite. -/
def isFinite : Binary64 → Bool
  | finite _ => true
  | _ => false

end Binary64

end Calculator.Data
