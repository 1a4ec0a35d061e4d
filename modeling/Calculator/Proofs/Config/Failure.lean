import Calculator.Proofs.Config.RoundTrip
import Calculator.Proofs.Toml.Failure

/-!
# `Calculator.Proofs.Config.Failure`: how loading settings can fail

Settings that are refused are the failure that is meant to happen when a file is
loaded, and a file that breaks the rules of its format means the default settings. Two
other failures get through. The bytes of a file may be no text, and a file may hold
more decimal digits in a row than an integer may have.

`load_contents` says when each of these happens, for all bytes. For the digits it says
that they stand in the file, and that a file with settings does fail if one of its
integers has too many of them.
-/

set_option autoImplicit false

namespace Calculator

open Data Toml

/-- Bytes are a text exactly if the text has these bytes, so no two texts are read from the same
bytes. -/
theorem fromUTF8?_eq_some_iff {bytes : ByteArray} {text : String} :
    String.fromUTF8? bytes = some text ↔ text.toUTF8 = bytes := by
  constructor
  · intro h
    rw [String.fromUTF8?] at h
    split at h
    · cases h
      rfl
    · cases h
  · rintro rfl
    exact fromUTF8?_toUTF8 text

namespace Config

variable (coercions : Coercions)

/-- The settings of a file with the bytes of a text are those of the text, so from here on texts
can be used instead of bytes. -/
theorem loadBy_toUTF8 (text : String) :
    loadBy coercions (.contents text.toUTF8) = ofText coercions text := by
  rw [loadBy, fromUTF8?_toUTF8]

/-- The bytes of a file are no text if and only if loading them fails for this reason. -/
theorem loadBy_eq_notAText_iff {bytes : ByteArray} :
    loadBy coercions (.contents bytes) = .error .notAText ↔
      ∀ text : String, text.toUTF8 ≠ bytes := by
  rw [loadBy]
  cases h : String.fromUTF8? bytes with
  | none =>
    refine iff_of_true rfl fun text htext => ?_
    rw [fromUTF8?_eq_some_iff.mpr htext] at h
    cases h
  | some text =>
    -- Bytes that are a text fail for other reasons only, whatever is in the text.
    have failure : ofText coercions text ≠ .error .notAText := by
      rw [ofText]
      split
      · cases ofDocument _ _ <;> rintro ⟨⟩
      · rintro ⟨⟩
      · rintro ⟨⟩
    exact iff_of_false failure fun none => none text (fromUTF8?_eq_some_iff.mp h)

/-- The text of a file has settings, or some of them are refused, or there are too many
digits in it. -/
theorem ofText_cases (text : String) :
    (∃ config, ofText coercions text = .ok config) ∨
      (∃ errors, ofText coercions text = .error (.invalid errors)) ∨
      ∃ digits, 4300 < digits ∧ HasNumeral digits text.toList ∧
        ofText coercions text = .error (.integerTooLong digits) := by
  cases h : Toml.read text with
  | ok document =>
    rw [ofText, h]
    dsimp only
    cases ofDocument coercions document with
    | ok config => exact Or.inl ⟨config, rfl⟩
    | error errors => exact Or.inr (Or.inl ⟨errors, rfl⟩)
  | error error =>
    rw [ofText, h]
    cases error with
    -- A text that is no document gives the default settings and no failure.
    | malformed => exact Or.inl ⟨default, rfl⟩
    | integerTooLong digits =>
      obtain ⟨long, numeral⟩ := explains_of_read h
      exact Or.inr (Or.inr ⟨digits, long, numeral, rfl⟩)

/-- A written section, whatever its name, makes loading fail if and only if one of its
integers has too many digits. -/
theorem ofText_writesSection {name : String} (bareName : IsBareWord name)
    {table : List (String × Value)} (bare : ∀ field ∈ table, IsBareWord field.1)
    (nodup : (table.map Prod.fst).Nodup) {text : String} (written : WritesSection name table text) :
    (∃ digits, ofText coercions text = .error (.integerTooLong digits)) ↔
      ∃ field ∈ table, ¬IsShort field.2 := by
  constructor
  · rintro ⟨digits, failed⟩
    by_contra none
    have short : ∀ field ∈ table, IsShort field.2 := fun field hfield =>
      not_not.mp fun long => none ⟨field, hfield, long⟩
    rw [ofText, read_writesSection bareName bare short nodup written] at failed
    dsimp only at failed
    cases h : ofDocument coercions [(name, .table table)] <;> rw [h] at failed <;> cases failed
  · intro long
    obtain ⟨digits, -, read⟩ := read_writesSection_long bareName bare long nodup written
    exact ⟨digits, by rw [ofText, read]⟩

/-- What loading a file does, for all bytes. It fails for bytes that are no text, and
only for these because of that. A text has settings, or some of them are refused, or an
integer has too many digits, which then stand in the text. A text that breaks the rules
of the format has the default settings. Whatever section the text is written for, its
integers do make it fail: this happens if and only if one of them has too many digits. -/
theorem load_contents (bytes : ByteArray) :
    (load (.contents bytes) = .error .notAText ↔ ∀ text : String, text.toUTF8 ≠ bytes) ∧
    ∀ text : String, text.toUTF8 = bytes →
      ((∃ config, load (.contents bytes) = .ok config) ∨
        (∃ errors, load (.contents bytes) = .error (.invalid errors)) ∨
        ∃ digits, 4300 < digits ∧ HasNumeral digits text.toList ∧
          load (.contents bytes) = .error (.integerTooLong digits)) ∧
      (Toml.read text = .error .malformed → load (.contents bytes) = .ok default) ∧
      ∀ (name : String) (table : List (String × Value)), IsBareWord name →
        (∀ field ∈ table, IsBareWord field.1) → (table.map Prod.fst).Nodup →
        WritesSection name table text →
        ((∃ digits, load (.contents bytes) = .error (.integerTooLong digits)) ↔
          ∃ field ∈ table, ¬IsShort field.2) := by
  refine ⟨loadBy_eq_notAText_iff .lax, ?_⟩
  rintro text rfl
  rw [load, loadBy_toUTF8]
  refine ⟨ofText_cases .lax text, fun malformed => ?_,
    fun name table bareName bare nodup written => ?_⟩
  · rw [ofText, malformed]
  · exact ofText_writesSection .lax bareName bare nodup written

/-- A byte that starts no character, and a number that has too many digits: both stop loading with
an error of their own. -/
theorem load_contents_failures :
    load (.contents ⟨#[0xFF]⟩) = .error .notAText ∧
      ∃ (number : Nat) (text : String) (digits : Nat),
        WritesSection "minicalc" [("max_int", .integer number)] text ∧
          load (.contents text.toUTF8) = .error (.integerTooLong digits) := by
  obtain ⟨number, long⟩ : ∃ number : Nat, ¬IsShort (.integer number) :=
    ⟨_, not_isShort_pow (Nat.le_refl 4300)⟩
  have bare : ∀ field ∈ [("max_int", Value.integer number)], IsBareWord field.1 :=
    List.forall_mem_singleton.mpr (show IsBareWord "max_int" by decide)
  obtain ⟨text, written⟩ : ∃ text, WritesSection "minicalc" [("max_int", .integer number)] text :=
    exists_writesSection _ (List.forall_mem_singleton.mpr ⟨_, .integer _⟩)
  obtain ⟨-, outcome⟩ := load_contents text.toUTF8
  obtain ⟨digits, failed⟩ := ((outcome text rfl).2.2 "minicalc" _ (by decide) bare
    (show ["max_int"].Nodup by decide) written).mpr ⟨_, List.mem_singleton_self _, long⟩
  refine ⟨?_, number, text, digits, written, failed⟩
  exact (load_contents ⟨#[0xFF]⟩).1.mpr fun text htext => by
    -- This byte stands in no text at all.
    have none : String.fromUTF8? ⟨#[0xFF]⟩ = none := by cbv
    rw [fromUTF8?_eq_some_iff.mpr htext] at none
    cases none

end Config

end Calculator
