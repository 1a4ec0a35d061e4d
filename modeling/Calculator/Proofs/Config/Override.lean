import Calculator.Proofs.Config.Failure
import Mathlib.Data.List.Infix

/-!
# `Calculator.Proofs.Config.Override`: settings stay valid

Settings that a table or a file gives are valid: they are accepted again from their own
table. Another log level, which may be any text, is checked with all of them. As they are
valid, only the level can be refused. All of this holds for any coercions, because values
of the types of the settings are taken as they are.

* `LogLevel.IsUpperCasing`: what is needed of the upper-case forms of characters. Then
  `LogLevel.upper` tells the names of levels as these forms do.
* `isValid_of_ofTableBy`, `isValid_of_loadBy`: settings that are accepted are valid, and
  their level is the one that was named (`names_of_ofTableBy`).
* `withLogLevel_of_names`, `withLogLevel_of_unknown`: valid settings with another level.
-/

set_option autoImplicit false

namespace Calculator

open Data
open scoped List

namespace LogLevel

/-! ### Upper-case forms -/

/-- The upper-case forms of the characters that stand for several letters of ASCII: the
sharp `ß` and the ligatures of `f` and of `st`. -/
def ligatures : List (List Char) :=
  [['S', 'S'], ['F', 'F'], ['F', 'I'], ['F', 'L'], ['F', 'F', 'I'], ['F', 'F', 'L'], ['S', 'T']]

/-- The upper-case forms of the characters of Unicode, as far as they can be letters of
ASCII. A form may have several characters. -/
structure IsUpperCasing (upperCase : Char → List Char) : Prop where
  /-- ASCII has its own upper-case letters. -/
  ascii : ∀ c : Char, c.toNat < 128 → upperCase c = [c.toUpper]
  /-- The upper-case letter of the dotless `ı`. -/
  dotless : upperCase 'ı' = ['I']
  /-- The upper-case letter of the long `ſ`. -/
  long : upperCase 'ſ' = ['S']
  /-- No other form is a letter of ASCII. -/
  other : ∀ c : Char, 128 ≤ c.toNat → c ≠ 'ı' → c ≠ 'ſ' →
    (∃ d ∈ upperCase c, 128 ≤ d.toNat) ∨ upperCase c ∈ ligatures

/-- A text names a level if its upper-case form is the name of the level. -/
def Names (upperCase : Char → List Char) (text : String) (level : LogLevel) : Prop :=
  text.toList.flatMap upperCase = level.name.toList

instance (upperCase : Char → List Char) (text : String) (level : LogLevel) :
    Decidable (Names upperCase text level) :=
  inferInstanceAs (Decidable (_ = _))

/-- The names of levels are in ASCII, so a text with any other upper-case letter names none. -/
theorem toNat_lt_of_mem_name (level : LogLevel) : ∀ c ∈ level.name.toList, c.toNat < 128 := by
  have all : level.name.toList.all (fun c => c.toNat < 128) = true := by
    cases level <;> decide
  exact fun c hc => of_decide_eq_true (List.all_eq_true.mp all c hc)

/-- No name of a level has the letters of a ligature in it, so a ligature can be left as it is. -/
theorem not_infix_name (level : LogLevel) : ∀ form ∈ ligatures, ¬form <:+: level.name.toList := by
  cases level <;> decide

/-- The names of levels are in upper-case letters, so a level is found under its own name. -/
theorem map_upper_name (level : LogLevel) :
    level.name.toList.map upper = level.name.toList := by
  cases level <;> decide

section Letters

variable {c : Char} (dotless : c ≠ 'ı') (long : c ≠ 'ſ')
include dotless long

/-- All characters but two have the upper-case letters of ASCII, which change nothing outside of
ASCII. -/
theorem upper_of_ne : upper c = c.toUpper := by
  rw [upper, if_neg (mt eq_of_beq dotless), if_neg (mt eq_of_beq long)]

/-- A character beyond ASCII has no upper-case letter of ASCII, but for two of them. -/
theorem upper_of_le (h : 128 ≤ c.toNat) : upper c = c := by
  have high : ¬('a'.val ≤ c.val ∧ c.val ≤ 'z'.val) := fun inside =>
    absurd (UInt32.le_iff_toNat_le.mp inside.2) (Nat.not_le.mpr (Nat.lt_of_lt_of_le (by decide) h))
  rw [upper_of_ne dotless long]
  exact dif_neg high

end Letters

section Casing

variable {upperCase : Char → List Char} (h : IsUpperCasing upperCase)
include h

/-- A character has one letter as its upper-case form, or neither that form nor the
character itself fits a name. -/
theorem upperCase_cases (c : Char) :
    upperCase c = [upper c] ∨
      128 ≤ (upper c).toNat ∧ ((∃ d ∈ upperCase c, 128 ≤ d.toNat) ∨ upperCase c ∈ ligatures) := by
  by_cases dotless : c = 'ı'
  · exact Or.inl (by rw [dotless, h.dotless]; rfl)
  by_cases long : c = 'ſ'
  · exact Or.inl (by rw [long, h.long]; rfl)
  rcases Nat.lt_or_ge c.toNat 128 with low | high
  · exact Or.inl (by rw [upper_of_ne dotless long, h.ascii c low])
  · rw [upper_of_le dotless long high]
    exact Or.inr ⟨high, h.other c high dotless long⟩

/-- Texts whose upper-case form is the name of a level are those that `upper` takes to it,
letter by letter. -/
theorem flatMap_upperCase_eq_iff {text : List Char} {level : LogLevel} :
    text.flatMap upperCase = level.name.toList ↔ text.map upper = level.name.toList := by
  by_cases single : ∀ c ∈ text, upperCase c = [upper c]
  · rw [List.flatMap_congr single, ← List.map_eq_flatMap]
  -- A character that has no such letter is the reason why neither is the name.
  obtain ⟨c, hc, several⟩ : ∃ c ∈ text, upperCase c ≠ [upper c] := by
    simpa only [not_forall, exists_prop] using single
  obtain ⟨high, unfit⟩ := (upperCase_cases h c).resolve_left several
  refine iff_of_false (fun heq => ?_) fun heq => ?_
  · have inside : upperCase c <:+: level.name.toList := by
      rw [← heq, List.flatMap_def]
      exact List.infix_of_mem_flatten (List.mem_map_of_mem hc)
    rcases unfit with ⟨d, hd, beyond⟩ | ligature
    · exact absurd (toNat_lt_of_mem_name level d (inside.subset hd)) (Nat.not_lt.mpr beyond)
    · exact not_infix_name level _ ligature inside
  · have inside : upper c ∈ level.name.toList := heq ▸ List.mem_map_of_mem hc
    exact absurd (toNat_lt_of_mem_name level _ inside) (Nat.not_lt.mpr high)

/-- The level of a text is the one that it names, with the upper-case forms of the whole of
Unicode. -/
theorem ofText?_eq_some_iff {text : String} {level : LogLevel} :
    ofText? text = some level ↔ Names upperCase text level := by
  rw [Names, flatMap_upperCase_eq_iff h]
  refine ⟨fun found => ?_, Config.ofText?_of_upper⟩
  rw [ofText?] at found
  have same := List.find?_some found
  exact (eq_of_beq same).symm

/-- A text that names no level is read as none, so the levels that are found are all there are. -/
theorem ofText?_eq_none {text : String} (unknown : ∀ level, ¬Names upperCase text level) :
    ofText? text = none :=
  Option.eq_none_iff_forall_ne_some.mpr fun level found =>
    unknown level ((ofText?_eq_some_iff h).mp found)

end Casing

/-- Upper-case forms that have what is needed, with those of the ligatures. The forms of
other characters beyond ASCII do not matter, and these characters are their own forms. -/
def upperCase : Char → List Char
  | 'ß' => ['S', 'S']
  | 'ﬀ' => ['F', 'F']
  | 'ﬁ' => ['F', 'I']
  | 'ﬂ' => ['F', 'L']
  | 'ﬃ' => ['F', 'F', 'I']
  | 'ﬄ' => ['F', 'F', 'L']
  | 'ﬅ' | 'ﬆ' => ['S', 'T']
  | c => [upper c]

/-- The upper-case forms of `upperCase` have what is needed of upper-case forms, so the facts
assumed of them do not contradict each other. -/
theorem isUpperCasing_upperCase : IsUpperCasing upperCase where
  ascii c low := by
    unfold upperCase
    split
    -- The first eight characters have upper-case forms of more than one character.
    case h_9 =>
      have dotless : c ≠ 'ı' := by
        rintro rfl
        exact absurd low (by decide)
      have long : c ≠ 'ſ' := by
        rintro rfl
        exact absurd low (by decide)
      rw [upper_of_ne dotless long]
    all_goals exact absurd low (by decide)
  dotless := rfl
  long := rfl
  other c high dotless long := by
    unfold upperCase
    split
    case h_9 => exact Or.inl ⟨_, List.mem_singleton_self _, by rwa [upper_of_le dotless long high]⟩
    all_goals exact Or.inr (by decide)

end LogLevel

namespace Config

/-! ### Valid settings -/

/-- Settings that are in order: the largest number is positive, the level has a known name, and
the settings are accepted again from their own table by the given coercions. -/
structure IsValid (coercions : Coercions) (config : Config) : Prop where
  /-- The largest number is one that settings may have. -/
  positive : 1 ≤ config.largest
  /-- The level has the name of a known one, in upper-case letters. -/
  named : config.logLevel.name ∈
    ["CRITICAL", "FATAL", "ERROR", "WARN", "WARNING", "INFO", "DEBUG", "NOTSET"]
  /-- The settings are read back from their own table. -/
  stable : ofTableBy coercions config.toTable = .ok config

/-- Settings with a positive number are valid. -/
theorem isValid_of_positive {coercions : Coercions} {config : Config}
    (positive : 1 ≤ config.largest) : config.IsValid coercions where
  positive := positive
  named := by cases config.logLevel <;> decide
  stable := ofTableBy_perm coercions (List.Perm.refl (config.fields config.logLevel.name)) positive
    (LogLevel.map_upper_name _)

/-- Renaming the error of a result does not touch its value, so errors can be named where they
arise. -/
theorem mapError_eq_ok_iff {α ε ε' : Type} {f : ε → ε'} {result : Except ε α} {value : α} :
    result.mapError f = .ok value ↔ result = .ok value := by
  cases result with
  | ok other => exact ⟨fun h => congrArg Except.ok (Except.ok.inj h),
      fun h => congrArg Except.ok (Except.ok.inj h)⟩
  | error error => exact iff_of_false (fun h => nomatch h) fun h => nomatch h

/-- A setting is the one where there is no field, or it was read from the field that is there. -/
theorem eq_or_exists_of_readField {α : Type} {field : String}
    {read : Value → Except FieldError.Cause α} {absent setting : α} {table : List (String × Value)}
    (h : readField field read absent table = .ok setting) :
    setting = absent ∨ ∃ value, read value = .ok setting := by
  rw [readField] at h
  split at h
  · exact Or.inl (Except.ok.inj h).symm
  · exact Or.inr ⟨_, mapError_eq_ok_iff.mp h⟩

section Reading

variable {coercions : Coercions}

/-- A number that is read is not below the least one, whatever it was coerced from. -/
theorem le_of_readAtLeast {least number : Int} {value : Value}
    (h : readAtLeast coercions least value = .ok number) : least ≤ number := by
  rw [readAtLeast] at h
  split at h
  · split at h
    · cases h
    · rename_i notBelow
      rw [← Except.ok.inj h]
      exact Int.not_lt.mp notBelow
  · cases h

/-- A level that is read is the one that is named by the text for which the value is
taken. -/
theorem names_of_readLogLevel {upperCase : Char → List Char}
    (casing : LogLevel.IsUpperCasing upperCase) {value : Value} {level : LogLevel}
    (h : readLogLevel coercions value = .ok level) :
    ∃ text, coercions.text value = .ok text ∧ LogLevel.Names upperCase text level := by
  rw [readLogLevel] at h
  split at h
  · next text taken =>
    split at h
    · next found =>
      rw [Except.ok.inj h] at found
      exact ⟨text, taken, (LogLevel.ofText?_eq_some_iff casing).mp found⟩
    · cases h
  · cases h

/-- The number and the level in settings of a table have been read from their fields. -/
theorem readField_of_ofTableBy {table : List (String × Value)} {config : Config}
    (h : ofTableBy coercions table = .ok config) :
    readField "max_int" (readAtLeast coercions 1) default.largest table = .ok config.largest ∧
      readField "log_level" (readLogLevel coercions) default.logLevel table =
        .ok config.logLevel := by
  simp only [ofTableBy] at h
  split at h
  · next prompt showTree largest logLevel =>
    cases h
    exact ⟨largest, logLevel⟩
  · cases h

/-- Settings of a table are valid, whatever was coerced to them, as their own table needs no more
coercion. -/
theorem isValid_of_ofTableBy {table : List (String × Value)} {config : Config}
    (h : ofTableBy coercions table = .ok config) : config.IsValid coercions := by
  refine isValid_of_positive ?_
  rcases eq_or_exists_of_readField (readField_of_ofTableBy h).1 with absent | ⟨value, read⟩
  · rw [absent]
    decide
  · exact le_of_readAtLeast read

/-- The level in settings of a table is the one that the table names, if it has a field
for it. -/
theorem names_of_ofTableBy {upperCase : Char → List Char}
    (casing : LogLevel.IsUpperCasing upperCase) {table : List (String × Value)} {config : Config}
    (h : ofTableBy coercions table = .ok config) {value : Value}
    (found : table.lookup "log_level" = some value) :
    ∃ text, coercions.text value = .ok text ∧ LogLevel.Names upperCase text config.logLevel := by
  have logLevel := (readField_of_ofTableBy h).2
  rw [readField, found] at logLevel
  exact names_of_readLogLevel casing (mapError_eq_ok_iff.mp logLevel)

/-- The settings of a document are those of some table. The default ones are those of
no field. -/
theorem exists_ofTableBy_of_ofDocument {document : List (String × Value)} {config : Config}
    (h : ofDocument coercions document = .ok config) :
    ∃ table, ofTableBy coercions table = .ok config := by
  rw [ofDocument] at h
  split at h
  · exact ⟨[], h⟩
  · split at h
    · exact ⟨[], h⟩
    · split at h
      · exact ⟨_, h⟩
      · cases h

/-- The settings of a file are those of some table too, the empty one where the file has no
section. -/
theorem exists_ofTableBy_of_loadBy {file : ConfigFile} {config : Config}
    (h : loadBy coercions file = .ok config) :
    ∃ table, ofTableBy coercions table = .ok config := by
  -- The default settings are those of the empty table.
  have unset : default = config → ∃ table, ofTableBy coercions table = .ok config := by
    rintro rfl
    exact ⟨[], rfl⟩
  cases file with
  | missing => exact unset (Except.ok.inj h)
  | unreadable => exact unset (Except.ok.inj h)
  | contents bytes =>
    rw [loadBy] at h
    split at h
    · rw [ofText] at h
      split at h
      · exact exists_ofTableBy_of_ofDocument (mapError_eq_ok_iff.mp h)
      · exact unset (Except.ok.inj h)
      · cases h
    · cases h

/-- The settings of a file are valid, whatever is in the file and also if there is none. -/
theorem isValid_of_loadBy {file : ConfigFile} {config : Config}
    (h : loadBy coercions file = .ok config) : config.IsValid coercions := by
  obtain ⟨table, accepted⟩ := exists_ofTableBy_of_loadBy h
  exact isValid_of_ofTableBy accepted

end Reading

/-- Fields of a file are refused if and only if those of its document are, so a file that cannot
be read as a document has no refused fields. -/
theorem loadBy_eq_invalid_iff {coercions : Coercions} {text : String}
    {errors : List FieldError} :
    loadBy coercions (.contents text.toUTF8) = .error (.invalid errors) ↔
      ∃ document, Toml.read text = .ok document ∧
        ofDocument coercions document = .error errors := by
  rw [loadBy_toUTF8, ofText]
  constructor
  · intro h
    split at h
    · rename_i document read
      refine ⟨document, read, ?_⟩
      cases refused : ofDocument coercions document with
      | ok config =>
        rw [refused] at h
        cases h
      | error other =>
        rw [refused] at h
        cases h
        rfl
    · cases h
    · cases h
  · rintro ⟨document, read, refused⟩
    rw [read]
    dsimp only
    rw [refused]
    rfl

/-! ### Another level -/

section Override

variable {coercions : Coercions} {config : Config} (valid : config.IsValid coercions)
  {text : String}
include valid

/-- Valid settings with a text for the level are refused only for that text, as all other fields
are accepted again. -/
theorem withLogLevel_of_isValid :
    config.withLogLevel coercions text =
      match LogLevel.ofText? text with
      | some level => .ok { config with logLevel := level }
      | none => .error [⟨"log_level", .unknownLogLevel text⟩] := by
  show ofTableBy coercions (config.fields text) = _
  have named : readField "log_level" (readLogLevel coercions) default.logLevel
      (config.fields text) = (readLogLevel coercions (.text text)).mapError fun cause =>
        ⟨"log_level", cause⟩ := rfl
  rw [ofTableBy, readField_found rfl (coercions.text_text _),
    readField_found rfl (coercions.truth_truth _), 
    readField_found rfl (readAtLeast_integer coercions valid.positive), named,
    readLogLevel_text]
  cases LogLevel.ofText? text <;> rfl

variable {upperCase : Char → List Char} (casing : LogLevel.IsUpperCasing upperCase)
include casing

/-- A text that names a level changes the level of settings, and nothing else about them. -/
theorem withLogLevel_of_names {level : LogLevel} (h : LogLevel.Names upperCase text level) :
    config.withLogLevel coercions text = .ok { config with logLevel := level } := by
  rw [withLogLevel_of_isValid valid, (LogLevel.ofText?_eq_some_iff casing).mpr h]

/-- A text that names no level is refused with an error for the level, and none of the other
settings is refused. -/
theorem withLogLevel_of_unknown (h : ∀ level, ¬LogLevel.Names upperCase text level) :
    config.withLogLevel coercions text = .error [⟨"log_level", .unknownLogLevel text⟩] := by
  rw [withLogLevel_of_isValid valid, LogLevel.ofText?_eq_none casing h]

end Override

end Config

end Calculator
