import Calculator.Text.Basic
import Mathlib.Data.Nat.Digits.Lemmas

/-!
# `Calculator.Proofs.Text.Numeral`: numbers in base ten

`natOfDigits` adds up the digits of a run from the left. This file says which
number that is: `IsNumeral run number` gives each character the value of its
digit, which is its distance from a zero (`IsDigitOf`), and each place its power
of ten.

* `digitValue?_eq_some_iff`: the blocks of digits do not overlap, so a
  character is the digit of one value at most.
* `isNumeral_iff`: a run of digits writes one number, which is the one that is
  added up.
* `IsNumeral.lt_pow`: a number has no more digits than the run that writes it.
-/

set_option autoImplicit false

namespace Calculator.Text

/-- Whether a character is the digit of a value, in the block of digits of some
script. -/
def IsDigitOf (c : Char) (value : Nat) : Prop :=
  ∃ start ∈ digitZeros, c.toNat = start + value ∧ value < 10

/-- A run writes a number in base ten: its last digit counts once, the one before
ten times, and so on. -/
def IsNumeral (run : List Char) (number : Nat) : Prop :=
  ∃ digits : List Nat, List.Forall₂ IsDigitOf run digits ∧
    number = Nat.ofDigits 10 digits.reverse

/-! ### Digits -/

/-- The value of a digit is its distance from the zero of its block. It is found in the table by
looking for the one block that the character lies in, as the blocks do not overlap. -/
theorem digitValue?_eq_some_iff (c : Char) (value : Nat) :
    digitValue? c = some value ↔ IsDigitOf c value := by
  -- A block ends before the next one starts.
  have apart : ∀ start ∈ digitZeros, ∀ other ∈ digitZeros,
      start < other → start + 10 ≤ other := by decide +kernel
  constructor
  · intro h
    obtain ⟨start, hfind, rfl⟩ := Option.map_eq_some_iff.mp h
    have inBlock := List.find?_some hfind
    simp only [Bool.and_eq_true, decide_eq_true_eq] at inBlock
    exact ⟨start, List.mem_of_find?_eq_some hfind, by omega, by omega⟩
  · rintro ⟨start, hstart, hc, hvalue⟩
    -- Some block holds the character, and it can only be this one.
    cases hfind : digitZeros.find? fun start => start ≤ c.toNat && c.toNat < start + 10 with
    | none =>
      have outside := List.find?_eq_none.mp hfind start hstart
      simp only [Bool.and_eq_true, decide_eq_true_eq] at outside
      omega
    | some other =>
      have hother := List.mem_of_find?_eq_some hfind
      have inBlock := List.find?_some hfind
      simp only [Bool.and_eq_true, decide_eq_true_eq] at inBlock
      have before := apart start hstart other hother
      have behind := apart other hother start hstart
      rw [digitValue?, hfind, Option.map_some]
      exact congrArg some (by omega)

/-! ### Numbers -/

/-- Adding up a run is adding up the values of its digits, whatever number it starts from. The
induction is on both lists at once, digit by digit. -/
theorem foldl_digitValue? {run : List Char} {digits : List Nat}
    (h : List.Forall₂ IsDigitOf run digits) (number : Nat) :
    run.foldl (fun n c => 10 * n + (digitValue? c).getD 0) number =
      digits.foldl (fun n digit => 10 * n + digit) number := by
  induction h generalizing number with
  | nil => rfl
  | cons hc _ ih =>
    rw [List.foldl_cons, List.foldl_cons, (digitValue?_eq_some_iff _ _).mpr hc]
    exact ih _

/-- The characters that have values are digits, and the values are below ten, so they are digits
of a number in base ten. -/
theorem isDigit_and_lt {run : List Char} {digits : List Nat}
    (h : List.Forall₂ IsDigitOf run digits) :
    (∀ c ∈ run, isDigit c = true) ∧ ∀ digit ∈ digits, digit < 10 := by
  induction h with
  | nil => simp
  | @cons c digit run digits hc _ ih =>
    have isDigit_c : isDigit c = true := by
      rw [isDigit, (digitValue?_eq_some_iff c digit).mpr hc]
      rfl
    obtain ⟨start, -, -, hlt⟩ := hc
    exact ⟨List.forall_mem_cons.mpr ⟨isDigit_c, ih.1⟩, List.forall_mem_cons.mpr ⟨hlt, ih.2⟩⟩

/-- A run writes a number exactly if it has only digits and adds up to that number. So the number
is what `natOfDigits` computes, and there is no other one. -/
theorem isNumeral_iff (run : List Char) (number : Nat) :
    IsNumeral run number ↔ (∀ c ∈ run, isDigit c = true) ∧ number = natOfDigits run := by
  -- Both sides add up the digits from the left, the library from the right of the reversed list.
  have sum : ∀ digits, List.Forall₂ IsDigitOf run digits →
      Nat.ofDigits 10 digits.reverse = natOfDigits run := by
    intro digits h
    rw [natOfDigits, foldl_digitValue? h, Nat.ofDigits_eq_foldr, List.foldr_reverse]
    exact congrArg (fun step => digits.foldl step 0)
      (funext₂ fun n digit => Nat.add_comm digit (10 * n))
  constructor
  · rintro ⟨digits, h, rfl⟩
    exact ⟨(isDigit_and_lt h).1, sum digits h⟩
  · rintro ⟨hdigits, rfl⟩
    have h : List.Forall₂ IsDigitOf run (run.map fun c => (digitValue? c).getD 0) := by
      rw [List.forall₂_map_right_iff, List.forall₂_same]
      intro c hc
      obtain ⟨value, hvalue⟩ := Option.isSome_iff_exists.mp (hdigits c hc)
      rw [hvalue]
      exact (digitValue?_eq_some_iff c value).mp hvalue
    exact ⟨_, h, (sum _ h).symm⟩

/-- A number has no more digits than the run that writes it. It may have fewer, as a run may start
with zeros. -/
theorem IsNumeral.lt_pow {run : List Char} {number : Nat} (h : IsNumeral run number) :
    number < 10 ^ run.length := by
  obtain ⟨digits, hdigits, rfl⟩ := h
  rw [hdigits.length_eq, ← List.length_reverse]
  refine Nat.ofDigits_lt_base_pow_length (by decide) fun digit hdigit => ?_
  exact (isDigit_and_lt hdigits).2 digit (List.mem_reverse.mp hdigit)

end Calculator.Text
