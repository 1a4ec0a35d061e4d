import Calculator.Config.File
import Calculator.Proofs.Toml.Document

/-!
# `Calculator.Proofs.Config.RoundTrip`: written settings are loaded again

Settings that are written as a section of a file, with their fields in any order
and each value in any of the ways to write it, are loaded again as they were.
This holds for all prompts, and for all numbers that have at most 4300 digits.
Only the level of log records may be written in other letters than it is named
with.

* `fields`: the settings as the fields of a section.
* `ofTableBy_perm`: the order of the fields does not matter.
* `load_writesSection`: the settings in the bytes of a file.
* `loadBy_hexadecimalFile`: a number of any length, which base ten could not write.
  `loadBy_powerFile` is the case of a power of sixteen.
-/

set_option autoImplicit false

namespace Calculator

open Data Toml

/-- A text is read back from its bytes, so files can be given by their texts. -/
theorem fromUTF8?_toUTF8 (text : String) : String.fromUTF8? text.toUTF8 = some text := by
  rw [String.fromUTF8?, String.toUTF8_eq_toByteArray, dif_pos text.isValidUTF8]
  rfl

namespace Config

/-- The settings as fields, with some text for the level. Their order here is that of the
settings. -/
def fields (config : Config) (level : String) : List (String × Value) :=
  [("prompt", .text config.prompt), ("show_tree", .truth config.showTree),
   ("max_int", .integer config.largest), ("log_level", .text level)]

/-- A field of a table in which no name occurs twice is found, wherever in the table it stands. -/
theorem lookup_of_mem {table : List (String × Value)} (nodup : (table.map Prod.fst).Nodup)
    {name : String} {value : Value} (h : (name, value) ∈ table) :
    table.lookup name = some value := by
  induction table with
  | nil => cases h
  | cons field table ih =>
    rw [List.map_cons, List.nodup_cons] at nodup
    rcases List.mem_cons.mp h with rfl | h
    · exact List.lookup_cons_self
    · have other : (name == field.1) = false := beq_eq_false_iff_ne.mpr fun heq =>
        nodup.1 (heq ▸ List.mem_map_of_mem h)
      rw [List.lookup_cons, other]
      exact ih nodup.2 h

/-- A text names a level if it is its name in upper-case letters, in whatever letters it is
written. -/
theorem ofText?_of_upper {text : String} {level : LogLevel}
    (h : text.toList.map LogLevel.upper = level.name.toList) :
    LogLevel.ofText? text = some level := by
  rw [LogLevel.ofText?, h]
  cases level <;> decide

/-- A field that is there and can be read is the setting, and the default one is not used. -/
theorem readField_found {α : Type} {table : List (String × Value)} {name : String}
    {value : Value} (found : table.lookup name = some value)
    {read : Value → Except FieldError.Cause α} {setting : α} (h : read value = .ok setting)
    (absent : α) : readField name read absent table = .ok setting := by
  rw [readField, found]
  show (read value).mapError _ = _
  rw [h]
  rfl

section Reading

variable (coercions : Coercions)

/-- A number that is not below the least one is read as it is, as no coercion changes an
integer. -/
theorem readAtLeast_integer {least number : Int} (h : least ≤ number) :
    readAtLeast coercions least (.integer number) = .ok number := by
  rw [readAtLeast, coercions.integer_integer]
  exact if_neg (Int.not_lt.mpr h)

/-- A text is read as the level that it names, or refused if it names none, as no coercion changes
a text. -/
theorem readLogLevel_text (text : String) :
    readLogLevel coercions (.text text) =
      match LogLevel.ofText? text with
      | some level => .ok level
      | none => .error (.unknownLogLevel text) := by
  cases level : LogLevel.ofText? text <;> simp only [readLogLevel, coercions.text_text, level]

end Reading

variable {config : Config} {level : String}

/-- The names of the fields are different, in any order of the fields. -/
theorem nodup_of_perm {table : List (String × Value)} (perm : table.Perm (config.fields level)) :
    (table.map Prod.fst).Nodup :=
  (perm.map Prod.fst).nodup_iff.mpr
    (show ["prompt", "show_tree", "max_int", "log_level"].Nodup by decide)

/-- The settings are read back from their fields in any order, as each field has the type
of its setting. -/
theorem ofTableBy_perm (coercions : Coercions) {table : List (String × Value)}
    (perm : table.Perm (config.fields level)) (positive : 1 ≤ config.largest)
    (hlevel : level.toList.map LogLevel.upper = config.logLevel.name.toList) :
    ofTableBy coercions table = .ok config := by
  have found : ∀ field ∈ config.fields level, table.lookup field.1 = some field.2 :=
    fun field h => lookup_of_mem (nodup_of_perm perm) (perm.mem_iff.mpr h)
  simp only [fields, List.forall_mem_cons] at found
  obtain ⟨prompt, showTree, largest, logLevel, -⟩ := found
  have named : readLogLevel coercions (.text level) = .ok config.logLevel := by
    rw [readLogLevel_text, ofText?_of_upper hlevel]
  simp only [ofTableBy, readField_found prompt (coercions.text_text _),
    readField_found showTree (coercions.truth_truth _),
    readField_found largest (readAtLeast_integer coercions positive),
    readField_found logLevel named]

/-- Each field of settings can be written and read back, if the largest number
is positive and has at most 4300 digits. -/
theorem forall_fields (positive : 1 ≤ config.largest)
    (short : (toString config.largest).length ≤ 4300) :
    ∀ field ∈ config.fields level,
      IsBareWord field.1 ∧ IsShort field.2 ∧ ∃ text, Writes field.2 text := by
  have text : ∀ words : String, IsShort (.text words) ∧ ∃ text, Writes (.text words) text :=
    fun words => by
      obtain ⟨inner, inside⟩ := exists_writesText words.toList
      exact ⟨(fun _ h => nomatch h), _, .text inside⟩
  have truth : ∀ holds, IsShort (.truth holds) ∧ ∃ text, Writes (.truth holds) text :=
    fun holds => ⟨(fun _ h => nomatch h), _, .truth holds⟩
  have integer : IsShort (.integer config.largest) ∧
      ∃ text, Writes (.integer config.largest) text := by
    -- Only integers above zero are written, so the number is the digits of a natural number.
    obtain ⟨number, hnumber⟩ := Int.eq_ofNat_of_zero_le (Int.le_of_lt positive)
    rw [hnumber] at short ⊢
    refine ⟨fun other h => ?_, _, .integer number⟩
    rw [← Int.ofNat.inj (Value.integer.inj h)]
    exact short
  simp only [fields, List.forall_mem_cons]
  exact ⟨⟨.ofList (by decide) (by decide), text _⟩, ⟨.ofList (by decide) (by decide), truth _⟩,
    ⟨.ofList (by decide) (by decide), integer⟩, ⟨.ofList (by decide) (by decide), text _⟩,
    List.forall_mem_nil _⟩

/-- Written settings are loaded again. Take settings whose largest number is
positive and has at most 4300 digits, and any text that names their level in
upper-case and lower-case letters. The fields can be written in any order, and
whatever way the section with these fields is written, the file loads to the
settings. -/
theorem load_writesSection (config : Config) (level : String) (positive : 1 ≤ config.largest)
    (short : (toString config.largest).length ≤ 4300)
    (hlevel : level.toList.map LogLevel.upper = config.logLevel.name.toList)
    (table : List (String × Value)) (perm : table.Perm (config.fields level)) :
    (∃ document, WritesSection "minicalc" table document) ∧
      ∀ document, WritesSection "minicalc" table document →
        load (.contents document.toUTF8) = .ok config := by
  have each : ∀ field ∈ table, IsBareWord field.1 ∧ IsShort field.2 ∧ ∃ text, Writes field.2 text :=
    fun field h => forall_fields positive short field (perm.mem_iff.mp h)
  refine ⟨exists_writesSection _ fun field h => (each field h).2.2, fun document written => ?_⟩
  have read : Toml.read document = .ok [("minicalc", .table table)] :=
    read_writesSection (.ofList (by decide) (by decide)) (fun field h => (each field h).1)
      (fun field h => (each field h).2.1) (nodup_of_perm perm) written
  -- A section without fields would be left out, and the settings would be the default ones.
  have filled : (Value.table table).isVoid = false := by
    cases table with
    | nil => exact absurd perm.length_eq (by simp [fields])
    | cons => rfl
  rw [load, loadBy, fromUTF8?_toUTF8]
  show ofText .lax document = _
  rw [ofText, read]
  show (ofDocument .lax [(sectionName, .table table)]).mapError _ = _
  rw [ofDocument, List.lookup_cons_self]
  simp only [filled, Bool.false_eq_true, if_false, ofTableBy_perm .lax perm positive hlevel]
  rfl

/-- A file with both kinds of line ends, fields in another order, a letter for a
quotation mark and a number for a newline. -/
theorem load_writesSection_line_ends_and_escapes :
    let config : Config := ⟨"é\"\n", false, 10, .info⟩
    let document := "[minicalc]\r\nmax_int = 10\nlog_level = \"ınfo\"\r\n" ++
      "prompt = \"é\\\"\\u000A\"\nshow_tree = false"
    WritesSection "minicalc" [("max_int", .integer 10), ("log_level", .text "ınfo"),
        ("prompt", .text "é\"\n"), ("show_tree", .truth false)] document ∧
      load (.contents document.toUTF8) = .ok config := by
  intro config document
  have quote : WritesChar '"' ['\\', '"'] := .letter (by decide)
  have digits : List.Forall₂ IsHexDigit ['0', '0', '0', 'A'] [0, 0, 0, 10] :=
    .cons (Or.inl rfl) (.cons (Or.inl rfl) (.cons (Or.inl rfl) (.cons (Or.inr rfl) .nil)))
  have newline : WritesChar '\n' ['\\', 'u', '0', '0', '0', 'A'] :=
    .number (by decide) digits rfl
  have prompt : WritesText "é\"\n".toList "é\\\"\\u000A".toList :=
    .cons (.raw (by decide)) (.cons quote (.cons newline .nil))
  have level : WritesText "ınfo".toList "ınfo".toList :=
    .cons (.raw (by decide)) (.cons (.raw (by decide)) (.cons (.raw (by decide))
      (.cons (.raw (by decide)) .nil)))
  have written : WritesSection "minicalc" [("max_int", .integer 10), ("log_level", .text "ınfo"),
      ("prompt", .text "é\"\n"), ("show_tree", .truth false)] document :=
    ⟨_, .cons ⟨_, .integer 10, rfl⟩ (.cons ⟨_, .text level, rfl⟩ (.cons ⟨_, .text prompt, rfl⟩
      (.cons ⟨_, .truth false, rfl⟩ .nil))), by
      have windows : ['\r', '\n'] ∈ newlines := by decide
      have unix : ['\n'] ∈ newlines := by decide
      have lines := JoinsLines.cons "[minicalc]".toList windows
        (.cons "max_int = 10".toList unix (.cons "log_level = \"ınfo\"".toList windows
          (.cons "prompt = \"é\\\"\\u000A\"".toList unix (.last "show_tree = false".toList))))
      -- Strings are compared by their characters, which saves decoding them.
      have ten : (toString 10).toList = ['1', '0'] := by decide
      rw [show document.toList = _ ++ _ from String.toList_append, ten]
      repeat rw [String.toList_ofList] at lines
      repeat rw [String.toList_ofList]
      exact lines⟩
  exact ⟨written, (load_writesSection config "ınfo" (by decide) (by decide) (by decide) _
    (show ([_, _] ++ [_, _] : List _).Perm ([_, _] ++ [_, _]) from List.perm_append_comm)).2 _
      written⟩

/-! ### Numbers without a bound -/

/-- The file whose only field is the largest number, in base sixteen. Integers in this base may
have any number of digits. -/
def hexadecimalFile (digits : List Char) : ConfigFile :=
  .contents ("[minicalc]\nmax_int = 0x" ++ String.ofList digits).toUTF8

/-- A positive number in base sixteen is loaded as the largest number, however many digits
it has. -/
theorem loadBy_hexadecimalFile (coercions : Coercions) {digits : List Char}
    (hdigits : ∀ c ∈ digits, isDigitOf 16 c = true) (positive : 0 < Toml.natOfDigits 16 digits) :
    loadBy coercions (hexadecimalFile digits) =
      .ok { default with largest := Toml.natOfDigits 16 digits } := by
  have nonempty : digits ≠ [] := by
    rintro rfl
    exact absurd positive (by decide)
  have field : ReadsField ("max_int", .integer (Toml.natOfDigits 16 digits))
      ("max_int".toList ++ ' ' :: '=' :: ' ' :: '0' :: 'x' :: digits) :=
    ⟨.ofList (by decide) (by decide), _, readsAs_hexadecimal hdigits nonempty, rfl⟩
  -- The two lines of the file, as the reader of sections is to get them.
  have text : ("[minicalc]\nmax_int = 0x" ++ String.ofList digits).toList =
      "[minicalc]".toList ++ (['\n'] ++
        ("max_int".toList ++ ' ' :: '=' :: ' ' :: '0' :: 'x' :: digits)) := by
    rw [String.toList_append]
    repeat rw [String.toList_ofList]
    rfl
  have joins := JoinsLines.cons "[minicalc]".toList (show ['\n'] ∈ newlines by decide)
    (.last ("max_int".toList ++ ' ' :: '=' :: ' ' :: '0' :: 'x' :: digits))
  rw [← text] at joins
  have name : IsBareWord "minicalc" := .ofList (by decide) (by decide)
  have read := read_section name (.cons field .nil) (show ["max_int"].Nodup by decide) joins
  rw [hexadecimalFile, loadBy, fromUTF8?_toUTF8]
  show ofText coercions _ = _
  rw [ofText, read]
  have largest : readField "max_int" (readAtLeast coercions 1) default.largest
      [("max_int", .integer (Toml.natOfDigits 16 digits))] =
        .ok (Toml.natOfDigits 16 digits : Int) :=
    readField_found rfl (readAtLeast_integer coercions (by omega)) _
  show (ofTableBy coercions _).mapError _ = _
  rw [ofTableBy, largest]
  rfl

/-- A one with zeros behind it is a power of the base, as one more zero multiplies by the base. -/
theorem natOfDigits_one_zeros (count : Nat) :
    Toml.natOfDigits 16 ('1' :: List.replicate count '0') = Nat.pow 16 count := by
  induction count with
  | zero => rfl
  | succ count ih =>
    rw [List.replicate_succ', ← List.cons_append, Toml.natOfDigits, List.foldl_append,
      ← Toml.natOfDigits, ih, Nat.pow_eq, Nat.pow_eq, Nat.pow_succ, Nat.mul_comm]
    rfl

/-- The file whose only field is the largest number, a one with zeros behind it in base
sixteen. -/
def powerFile (zeros : Nat) : ConfigFile :=
  hexadecimalFile ('1' :: List.replicate zeros '0')

/-- The settings with a power of sixteen as the largest number, and with the default values
otherwise. -/
def powerSettings (zeros : Nat) : Config :=
  { default with largest := Nat.pow 16 zeros }

/-- A power of sixteen is loaded as the largest number, however large it is. So settings in order
may have a number that cannot be printed. -/
theorem loadBy_powerFile (coercions : Coercions) (zeros : Nat) :
    loadBy coercions (powerFile zeros) = .ok (powerSettings zeros) := by
  have digits : ∀ c ∈ '1' :: List.replicate zeros '0', isDigitOf 16 c = true := by
    refine List.forall_mem_cons.mpr ⟨by decide, fun c h => ?_⟩
    rw [List.eq_of_mem_replicate h]
    decide
  have value := natOfDigits_one_zeros zeros
  have positive : 0 < Toml.natOfDigits 16 ('1' :: List.replicate zeros '0') := by
    rw [value]
    exact Nat.pow_pos (by decide)
  rw [powerFile, loadBy_hexadecimalFile coercions digits positive, value]
  rfl

end Config

end Calculator
