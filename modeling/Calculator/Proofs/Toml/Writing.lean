import Calculator.Data.Value
import Mathlib.Data.List.Forall2

/-!
# `Calculator.Proofs.Toml.Writing`: how settings are written

The ways to write a section of values in a file, without a word on how it is
read. A writer has some freedom: most characters of a text may be escaped or
not, an escape may be a letter or a number, and a line may end in one of two
ways.

* `WritesChar`, `WritesText`: the inside of a basic text.
* `Writes`: texts, truth values, and integers that are not negative.
* `WritesField`, `JoinsLines`, `WritesSection`: the lines of a section, one for
  each of its fields.

`exists_writesSection`: whatever texts, truth values and integers are given, a
writer finds a way.
-/

set_option autoImplicit false

namespace Calculator.Toml

open Data

/-! ### Texts -/

/-- Whether a character cannot stand in a basic text as it is: the mark that
ends a text, the one that starts an escape, and the control characters but the
tab. -/
def MustEscape (c : Char) : Prop :=
  c = '"' ∨ c = '\\' ∨ c.toNat < 0x20 ∧ c ≠ '\t' ∨ c.toNat = 0x7F

instance (c : Char) : Decidable (MustEscape c) :=
  inferInstanceAs (Decidable (_ ∨ _))

/-- The letters that stand behind a backslash for a character, as the format has them. -/
def letterEscapes : List (Char × Char) :=
  [('b', '\x08'), ('t', '\t'), ('n', '\n'), ('f', '\x0C'), ('r', '\r'), ('"', '"'),
   ('\\', '\\')]

/-- The letters that stand behind a backslash in front of a number, with the
number of its digits. -/
def numberEscapes : List (Char × Nat) :=
  [('u', 4), ('U', 8)]

/-- A hexadecimal digit and its value, with letters of both cases. -/
def IsHexDigit (digit : Char) (value : Nat) : Prop :=
  "0123456789abcdef".toList[value]? = some digit ∨
    "0123456789ABCDEF".toList[value]? = some digit

/-- The ways to write a character of a basic text: as it is, by a letter behind a backslash, or by
its number. -/
inductive WritesChar (c : Char) : List Char → Prop where
  | raw (free : ¬MustEscape c) : WritesChar c [c]
  | letter {letter : Char} (h : (letter, c) ∈ letterEscapes) : WritesChar c ['\\', letter]
  | number {letter : Char} {digits : List Char} {values : List Nat}
    (h : (letter, digits.length) ∈ numberEscapes)
    (hdigits : List.Forall₂ IsHexDigit digits values)
    (hvalue : values.foldl (16 * · + ·) 0 = c.toNat) :
    WritesChar c ('\\' :: letter :: digits)

/-- The ways to write the characters of a basic text, each of them in any of its ways. -/
inductive WritesText : List Char → List Char → Prop where
  | nil : WritesText [] []
  | cons {c : Char} {words piece text : List Char} (first : WritesChar c piece)
    (others : WritesText words text) : WritesText (c :: words) (piece ++ text)

/-- A number below sixteen has a digit, so every number can be written in base sixteen. -/
theorem exists_isHexDigit {value : Nat} (h : value < 16) : ∃ digit, IsHexDigit digit value :=
  ⟨"0123456789abcdef".toList.get ⟨value, h⟩, Or.inl (List.getElem?_eq_getElem h)⟩

/-- Every character can be written. Those of ASCII that have to be escaped have a number of four
digits, and all others stand for themselves. -/
theorem exists_writesChar (c : Char) : ∃ piece, WritesChar c piece := by
  -- Characters that have no letter are written as numbers.
  have small : c.toNat < 0x80 → ∃ piece, WritesChar c piece := fun hc => by
    obtain ⟨high, hhigh⟩ := exists_isHexDigit (show c.toNat / 16 < 16 by omega)
    obtain ⟨low, hlow⟩ := exists_isHexDigit (show c.toNat % 16 < 16 by omega)
    have zero : IsHexDigit '0' 0 := Or.inl rfl
    refine ⟨'\\' :: 'u' :: ['0', '0', high, low],
      .number (List.mem_cons_self ..) (.cons zero (.cons zero (.cons hhigh (.cons hlow .nil)))) ?_⟩
    show 16 * (16 * (16 * (16 * 0 + 0) + 0) + c.toNat / 16) + c.toNat % 16 = c.toNat
    omega
  by_cases hc : MustEscape c
  · rcases hc with rfl | rfl | ⟨hc, -⟩ | hc
    · exact ⟨_, .letter (show ('"', '"') ∈ letterEscapes by decide)⟩
    · exact ⟨_, .letter (show ('\\', '\\') ∈ letterEscapes by decide)⟩
    · exact small (by omega)
    · exact small (by omega)
  · exact ⟨_, .raw hc⟩

/-- Every text can be written, character by character. -/
theorem exists_writesText (words : List Char) : ∃ text, WritesText words text := by
  induction words with
  | nil => exact ⟨[], .nil⟩
  | cons c words ih =>
    obtain ⟨piece, first⟩ := exists_writesChar c
    obtain ⟨text, others⟩ := ih
    exact ⟨piece ++ text, .cons first others⟩

/-! ### Values -/

/-- The ways to write a value on a line. These are the values that settings have, so no other
values are needed. -/
inductive Writes : Value → List Char → Prop where
  | text {words : String} {inner : List Char} (h : WritesText words.toList inner) :
    Writes (.text words) ('"' :: (inner ++ ['"']))
  | truth (holds : Bool) : Writes (.truth holds) (if holds then "true" else "false").toList
  | integer (number : Nat) : Writes (.integer number) (toString number).toList

/-! ### Sections -/

/-- The ways to write a field, with its name in front of the sign. -/
def WritesField (field : String × Value) (line : List Char) : Prop :=
  ∃ text, Writes field.2 text ∧ line = field.1.toList ++ ' ' :: '=' :: ' ' :: text

/-- The two ways to end a line, which may be mixed in one document. -/
def newlines : List (List Char) :=
  [['\n'], ['\r', '\n']]

/-- The ways to put lines together, with either line end behind each of them. The last one may
lack its end. -/
inductive JoinsLines : List (List Char) → List Char → Prop where
  | nil : JoinsLines [] []
  | last (line : List Char) : JoinsLines [line] line
  | cons (line : List Char) {newline text : List Char} {lines : List (List Char)}
    (h : newline ∈ newlines) (others : JoinsLines lines text) :
    JoinsLines (line :: lines) (line ++ (newline ++ text))

/-- The ways to write a section of a name, with a line for each field behind
the header. -/
def WritesSection (name : String) (fields : List (String × Value)) (document : String) : Prop :=
  ∃ lines, List.Forall₂ WritesField fields lines ∧
    JoinsLines (('[' :: (name.toList ++ [']'])) :: lines) document.toList

/-- Lines can be put together, so what is said about all ways to do so is said about some text. -/
theorem exists_joinsLines (lines : List (List Char)) : ∃ text, JoinsLines lines text := by
  induction lines with
  | nil => exact ⟨[], .nil⟩
  | cons line lines ih =>
    obtain ⟨text, others⟩ := ih
    exact ⟨_, .cons line (List.mem_cons_self ..) others⟩

/-- A section can be written if its values can be, so what is said about all ways to write it is
not empty. -/
theorem exists_writesSection (name : String) {fields : List (String × Value)}
    (h : ∀ field ∈ fields, ∃ text, Writes field.2 text) :
    ∃ document, WritesSection name fields document := by
  have written : ∃ lines, List.Forall₂ WritesField fields lines := by
    induction fields with
    | nil => exact ⟨[], .nil⟩
    | cons field fields ih =>
      obtain ⟨⟨text, htext⟩, others⟩ := List.forall_mem_cons.mp h
      obtain ⟨lines, hlines⟩ := ih others
      exact ⟨_, .cons ⟨text, htext, rfl⟩ hlines⟩
  obtain ⟨lines, hlines⟩ := written
  obtain ⟨text, htext⟩ := exists_joinsLines (('[' :: (name.toList ++ [']'])) :: lines)
  exact ⟨String.ofList text, lines, hlines, by rwa [String.toList_ofList]⟩

end Calculator.Toml
