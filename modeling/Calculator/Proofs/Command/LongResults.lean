import Calculator.Proofs.Calculate.Gate
import Calculator.Proofs.Calculate.Magnitude
import Calculator.Proofs.Command.Invocation
import Calculator.Proofs.Config.RoundTrip

/-!
# `Calculator.Proofs.Command.LongResults`: results that cannot be printed

A number is printed only if it has at most 4300 digits (`isPrintable_iff`). A result may
have more, whatever the settings are, as a line may multiply as many factors as it likes.

* `HasLongResult`: a line has a result with too many digits.
* `hasLongResult_power`: a factor that is multiplied with itself often enough has one.
  `hasLongResult_square` and `hasLongResult_longProduct` are two cases of it.
* `HasLongResult.lt_countP_digits`: it takes a line with more than 4300 digits.
* `exists_hasLongResult_iff`: there is such a line under all settings but those
  that accept no number above zero.
* `digitCount_le_of_mem_leaves`: the numbers in a drawing never have too many digits.
-/

set_option autoImplicit false

namespace Calculator

open Text

namespace Command

/-! ### Numbers and their digits -/

/-- The number of decimal digits of a number, without its sign. Zero has one digit. -/
def digitCount (number : Int) : Nat :=
  (toString number.natAbs).length

/-- The powers of ten bound the numbers of digits, so digits need not be counted to know that they
are few. -/
theorem digitCount_le_iff (number : Int) {bound : Nat} (hbound : 0 < bound) :
    digitCount number ≤ bound ↔ number.natAbs < Nat.pow 10 bound :=
  Nat.length_repr_le_iff hbound

/-- A number can be printed exactly if it has at most 4300 digits. The program compares it with a
power of ten. -/
theorem isPrintable_iff (number : Int) :
    isPrintable number = true ↔ digitCount number ≤ 4300 :=
  decide_eq_true_iff.trans
    (digitCount_le_iff number (show 0 < Text.longestNumeral by decide)).symm

/-- A number below a power of ten has no more digits than that power has zeros, nor more than any
larger bound. -/
theorem digitCount_le_of_lt_pow {number : Int} {length bound : Nat} (hbound : 0 < bound)
    (h : number.natAbs < 10 ^ length) (hle : length ≤ bound) : digitCount number ≤ bound :=
  (digitCount_le_iff number hbound).mpr (h.trans_le (Nat.pow_le_pow_right (by decide) hle))

/-- A power that is not below a power of ten has more digits than that power has zeros. -/
theorem lt_digitCount_pow {base exponent bound : Nat} (hbound : 0 < bound)
    (h : Nat.pow 10 bound ≤ Nat.pow base exponent) :
    bound < digitCount ((base : Int) ^ exponent) := by
  rw [← Nat.not_le, digitCount_le_iff _ hbound, Nat.not_lt, Int.natAbs_pow, Int.natAbs_natCast]
  exact h

/-- All numbers of a drawing can be printed, as a number of a line has at most 4300 digits. Only
results can be longer. -/
theorem digitCount_le_of_mem_leaves {line : String} {largest maxDepth : Int} {leaf : Token}
    (hleaf : leaf ∈ (parse line largest maxDepth).root.leaves) {value : Int}
    (hvalue : leaf.value = some value) : digitCount value ≤ 4300 := by
  obtain ⟨number, rfl, -, numeral, short, -⟩ := value_of_mem_leaves hleaf hvalue
  exact digitCount_le_of_lt_pow (by decide) numeral.lt_pow short

/-- A power of ten is not above a power of two with somewhat more than three times the
exponent. Both are put together from powers that are small enough to be compared. -/
theorem pow_ten_le_pow_two {small large k : Nat} (hsmall : small ≤ 59 * k + 52)
    (hlarge : 196 * k + 173 ≤ large) : Nat.pow 10 small ≤ Nat.pow 2 large :=
  calc 10 ^ small
      ≤ 10 ^ (59 * k + 52) := Nat.pow_le_pow_right (by decide) hsmall
    _ = (10 ^ 59) ^ k * 10 ^ 52 := by rw [Nat.pow_add, Nat.pow_mul]
    _ ≤ (2 ^ 196) ^ k * 2 ^ 173 :=
      Nat.mul_le_mul (Nat.pow_le_pow_left (by decide) k) (by decide)
    _ = 2 ^ (196 * k + 173) := by rw [Nat.pow_add, Nat.pow_mul]
    _ ≤ 2 ^ large := Nat.pow_le_pow_right (by decide) hlarge

/-- From the exponent 14285 on, no power of two can be printed, as it has more than 4300
digits. -/
theorem pow_longestNumeral_le_pow_two {exponent : Nat} (h : 14285 ≤ exponent) :
    Nat.pow 10 longestNumeral ≤ Nat.pow 2 exponent :=
  pow_ten_le_pow_two (show longestNumeral ≤ 59 * 72 + 52 by decide) h

/-! ### Lines with long results -/

/-- Whether a line has a result with too many digits to be printed, under given settings. -/
def HasLongResult (config : Config) (line : String) : Prop :=
  ∃ value, calculate line config.largest = .ok value ∧ 4300 < digitCount value

/-- A factor that is multiplied with itself often enough has a product that is too
long to be printed. -/
theorem hasLongResult_power {config : Config} {rendering : Rendering} {arith : Arith}
    (writes : rendering.Writes config.largest arith) (enclosed : rendering.isBareOperation = false)
    (shallow : rendering.nesting ≤ 100) {value : Nat} (h : arith.outcome = .ok (value : Int))
    (n : Nat) (long : Nat.pow 10 longestNumeral ≤ Nat.pow value (n + 1)) :
    HasLongResult config (String.ofList (rendering.power n).text) := by
  have digits := lt_digitCount_pow (by decide) long
  exact ⟨_, writes.calculate_power enclosed shallow h n, digits⟩

/-- Two numbers of 2160 digits have a product that is too long, under settings that accept such
numbers. -/
theorem hasLongResult_square (config : Config) (largest : config.largest = Nat.pow 10 2160) :
    let digits := List.replicate 2160 '9'
    HasLongResult config (String.ofList (digits ++ '*' :: digits)) := by
  intro digits
  have number :
      Rendering.Writes config.largest (.digits digits) (.literal (natOfDigits digits)) := by
    refine .digits (by decide) (fun c h => ?_) (by decide +kernel) ?_
    · rw [List.eq_of_mem_replicate h]
      decide
    · rw [largest]
      decide +kernel
  have text : ((Rendering.digits digits).power 1).text = digits ++ '*' :: digits := by
    simp [Rendering.text_power, Rendering.text]
  rw [← text]
  exact hasLongResult_power number rfl (Nat.zero_le _) rfl 1 (by decide +kernel)

/-- The product of 461 factors, each of which is the largest number that is accepted
unless another is configured. -/
def longProduct : String :=
  let factor := "2147483647".toList
  String.ofList (factor ++ (List.replicate 460 ('*' :: factor)).flatten)

/-- The product of 461 factors is too long to be printed, under all settings that accept its
factors. -/
theorem hasLongResult_longProduct {config : Config} (accepts : 2147483647 ≤ config.largest) :
    HasLongResult config longProduct := by
  have number : Rendering.Writes config.largest (.digits "2147483647".toList)
      (.literal (natOfDigits "2147483647".toList)) :=
    .digits (by decide) (by decide) (by decide) (accepts.trans' (by decide))
  have power := hasLongResult_power number rfl (by decide) rfl 460 (by decide +kernel)
  rwa [Rendering.text_power] at power

/-- A line with a result that is too long has more than 4300 digits itself, as no operation gives
more digits than it gets. -/
theorem HasLongResult.lt_countP_digits {config : Config} {line : String}
    (long : HasLongResult config line) : 4300 < line.toList.countP isDigit := by
  obtain ⟨value, hvalue, hdigits⟩ := long
  by_contra few
  exact Nat.not_le.mpr hdigits
    (digitCount_le_of_lt_pow (by decide) (natAbs_lt_of_calculate hvalue) (Nat.not_lt.mp few))

/-- A line with a result that is too long does not end a session by being blank, as it has
digits. -/
theorem HasLongResult.endsSession_eq_false {config : Config} {line : String}
    (long : HasLongResult config line) : endsSession line = false := by
  refine Bool.eq_false_iff.mpr fun blank => ?_
  have noDigits : line.toList.countP isDigit = 0 := by
    refine List.countP_eq_zero.mpr fun c hc => ?_
    simp [isDigit_of_isBlank (List.all_eq_true.mp blank c hc)]
  have digits := long.lt_countP_digits
  omega

/-- Under any settings that accept a number above zero, some line has a result that
is too long. Under all others, all results are zero. -/
theorem exists_hasLongResult_iff (config : Config) :
    (∃ line, HasLongResult config line) ↔ 0 < config.largest := by
  constructor
  · rintro ⟨line, value, hvalue, hdigits⟩
    by_contra hlargest
    rw [eq_zero_of_calculate (Int.not_lt.mp hlargest) hvalue] at hdigits
    exact absurd hdigits (by decide)
  · -- Two is written as a sum, as it may be too large.
    intro hlargest
    have one : Rendering.Writes config.largest (.digits ['1']) (.literal 1) :=
      .digits (by decide) (List.forall_mem_singleton.mpr (by decide)) (by decide) hlargest
    have sum : Rendering.Writes config.largest
        (.group [] (.operation .add (.digits ['1']) [] [] (.digits ['1'])) [])
        (.operation .add (.literal 1) (.literal 1)) :=
      .group (List.forall_mem_nil _)
        (.operation one (List.forall_mem_nil _) (List.forall_mem_nil _) one rfl)
        (List.forall_mem_nil _)
    have two : (Arith.operation .add (.literal 1) (.literal 1)).outcome = .ok ((2 : Nat) : Int) :=
      rfl
    obtain ⟨n, hn⟩ : ∃ n, 14285 ≤ n + 1 := ⟨14284, Nat.le_refl _⟩
    exact ⟨_, hasLongResult_power sum rfl (by decide) two n (pow_longestNumeral_le_pow_two hn)⟩

/-! ### A host and settings of which little can be printed -/

/-- A host that shows everything as it is and whose stack is too small for any report of the
log. -/
def crampedHost : Host :=
  { Host.plain with spellsOut := fun _ => false }

/-- The file of a power of sixteen chooses its settings on any host, as every host takes an
integer as it is. -/
theorem chosen_powerFile (host : Host) (zeros : Nat) :
    CommandLine.Chosen host (fun _ => Config.powerFile zeros) none none
      (Config.powerSettings zeros) := by
  show Request.chosenSettings host _ _ = _
  rw [Request.chosenSettings, Config.loadBy_powerFile]

/-- From 3572 zeros on, the power of sixteen has more than 4300 digits in base ten, so settings
with it cannot be printed. -/
theorem lt_digitCount_powerSettings {zeros : Nat} (h : 3572 ≤ zeros) :
    4300 < digitCount (Config.powerSettings zeros).largest := by
  have long : Nat.pow 10 longestNumeral ≤ Nat.pow 16 zeros := by
    rw [show Nat.pow 16 zeros = Nat.pow 2 (4 * zeros) from (Nat.pow_mul 2 4 zeros).symm]
    exact pow_longestNumeral_le_pow_two (by omega)
  have power : (Config.powerSettings zeros).largest = ((16 : Nat) : Int) ^ zeros :=
    Int.natCast_pow 16 zeros
  have digits := lt_digitCount_pow (show 0 < longestNumeral by decide) long
  rwa [← power] at digits

end Command

end Calculator
