import Calculator.Proofs.Toml.Writing
import Calculator.Toml.Value

/-!
# `Calculator.Proofs.Toml.Value`: values are read back

Whatever way a value is written in, it is read back, up to the end of its line.

* Texts: a written character is one that the reader puts in front of what it
  reads behind it (`basicLine_writesChar`), so the reader gets through the text
  to its mark. No way to write a text makes its first marks those of a block
  (`WritesText.append_ne_marks`).
* Numbers: several readers look at digits before the reader of numbers does. A
  moment has a mark behind its first digits and a word does not start with one,
  so those readers find nothing (`moment?_eq_none`, `word?_eq_none`).

`value_writes` puts these together. An integer with too many digits is the only value
that is written but not read back (`value_writes_long`).
-/

set_option autoImplicit false

namespace Calculator.Toml

open Data

variable {rest : List Char}

/-- A character that passes a test is not one that fails it. This tells a character from all marks
at once. -/
theorem ne_of_passes {test : Char → Bool} {c mark : Char} (hc : test c = true)
    (hmark : test mark = false) : c ≠ mark :=
  fun h => Bool.eq_false_iff.mp hmark (h ▸ hc)

/-! ### Texts -/

/-- A character that need not be escaped is no control character, so it can stand in a text as it
is. -/
theorem isControl_of_not_mustEscape {c : Char} (free : ¬MustEscape c) : isControl c = false := by
  simp only [MustEscape, not_or, not_and] at free
  simp only [isControl, Bool.or_eq_false_iff, Bool.and_eq_false_iff, decide_eq_false_iff_not,
    bne_eq_false_iff_eq, beq_eq_false_iff_ne]
  refine ⟨?_, free.2.2.2⟩
  by_cases h : c.toNat < 0x20
  · exact Or.inr (not_not.mp (free.2.2.1 h))
  · exact Or.inl h

/-- A hexadecimal digit is read as its value, in small letters as in capitals. -/
theorem hexValue?_of_isHexDigit {digit : Char} {value : Nat} (h : IsHexDigit digit value) :
    hexValue? digit = some value := by
  have lower : ∀ value : Fin 16, hexValue? ("0123456789abcdef".toList[value]) = some value.val := by
    decide
  have upper : ∀ value : Fin 16, hexValue? ("0123456789ABCDEF".toList[value]) = some value.val := by
    decide
  rcases h with h | h
  · obtain ⟨hvalue, rfl⟩ := List.getElem?_eq_some_iff.mp h
    exact lower ⟨value, hvalue⟩
  · obtain ⟨hvalue, rfl⟩ := List.getElem?_eq_some_iff.mp h
    exact upper ⟨value, hvalue⟩

/-- Hexadecimal digits are read as their values, each of them by itself. -/
theorem map_hexValue? {digits : List Char} {values : List Nat}
    (h : List.Forall₂ IsHexDigit digits values) : digits.map hexValue? = values.map some := by
  induction h with
  | nil => rfl
  | cons digit _ ih => rw [List.map_cons, List.map_cons, hexValue?_of_isHexDigit digit, ih]

/-- Each of some hexadecimal digits that are paired with values has a value. -/
theorem isSome_hexValue? {digits : List Char} {values : List Nat}
    (h : List.Forall₂ IsHexDigit digits values) {c : Char} (hc : c ∈ digits) :
    (hexValue? c).isSome = true := by
  have value : hexValue? c ∈ values.map some := map_hexValue? h ▸ List.mem_map_of_mem hc
  obtain ⟨number, -, hnumber⟩ := List.mem_map.mp value
  rw [← hnumber]
  rfl

/-- A numbered escape is read back as its character, with as many digits as the letter in front of
it says. -/
theorem hexEscape_digits {c : Char} {digits : List Char} {values : List Nat}
    (hdigits : List.Forall₂ IsHexDigit digits values)
    (hvalue : values.foldl (16 * · + ·) 0 = c.toNat) (rest : List Char) :
    hexEscape digits.length (digits ++ rest) = .ok (c, rest) := by
  have all : digits.all (fun c => (hexValue? c).isSome) = true :=
    List.all_eq_true.mpr fun c => isSome_hexValue? hdigits
  have code : natOfDigits 16 digits = c.toNat :=
    calc natOfDigits 16 digits
        = (digits.map hexValue?).foldl (fun n value => 16 * n + value.getD 0) 0 := by
          rw [List.foldl_map]
          rfl
      _ = values.foldl (16 * · + ·) 0 := by
          rw [map_hexValue? hdigits, List.foldl_map]
          rfl
      _ = c.toNat := hvalue
  -- The number is that of a character, so it is not in the gap of the surrogates.
  have scalar : c.toNat < 0xD800 ∨ 0xDFFF < c.toNat ∧ c.toNat < 0x110000 := c.valid
  simp only [hexEscape, List.take_left, List.drop_left, code, all]
  simp [scalar]

/-- A written character is read back, in each of the three ways in which it may be written. -/
theorem basicLine_writesChar {c : Char} {piece : List Char} (h : WritesChar c piece)
    (rest : List Char) : basicLine (piece ++ rest) = push c (basicLine rest) := by
  cases h with
  | raw free =>
    have mark : c ≠ '"' := fun h => free (Or.inl h)
    have backslash : c ≠ '\\' := fun h => free (Or.inr (Or.inl h))
    rw [List.singleton_append, basicLine]
    · simp only [isControl_of_not_mustEscape free, Bool.false_eq_true, if_false]
    · exact mark
    · exact backslash
  | @letter letter h =>
    have read : escape (letter :: rest) = .ok (c, rest) := by
      -- There are seven letters, and each of them is looked up.
      simp only [letterEscapes, List.mem_cons, Prod.mk.injEq, List.not_mem_nil, or_false] at h
      rcases h with h | h | h | h | h | h | h <;> rw [h.1, h.2] <;> rfl
    rw [List.cons_append, List.singleton_append, basicLine, read]
  | @number letter digits values h hdigits hvalue =>
    have read : escape (letter :: (digits ++ rest)) = .ok (c, rest) := by
      have number := hexEscape_digits hdigits hvalue rest
      simp only [numberEscapes, List.mem_cons, Prod.mk.injEq, List.not_mem_nil, or_false] at h
      rcases h with h | h
      · rw [h.2] at number; rw [h.1]; exact number
      · rw [h.2] at number; rw [h.1]; exact number
    rw [List.cons_append, List.cons_append, basicLine, read]

/-- The inside of a text is read back, up to the mark behind it. The induction is on the
characters as they were written. -/
theorem basicLine_writesText {words text : List Char} (h : WritesText words text)
    (rest : List Char) : basicLine (text ++ '"' :: rest) = .ok (words, rest) := by
  induction h with
  | nil => rw [List.nil_append, basicLine]
  | cons first _ ih => rw [List.append_assoc, basicLine_writesChar first, ih]; rfl

/-- No written character starts with the mark that ends a text, as the mark itself is escaped. -/
theorem WritesChar.append_ne_mark {c : Char} {piece : List Char} (h : WritesChar c piece)
    (rest more : List Char) : piece ++ rest ≠ '"' :: more := by
  intro heq
  cases h with
  | raw free => exact free (Or.inl (List.cons.inj heq).1)
  | letter => exact absurd (List.cons.inj heq).1 (by decide)
  | number => exact absurd (List.cons.inj heq).1 (by decide)

/-- A text between its marks is not taken for a block, which starts with three of them. Only the
empty text comes close. -/
theorem WritesText.append_ne_marks {words inner : List Char} (h : WritesText words inner)
    (hrest : rest.head? ≠ some '"') (more : List Char) :
    inner ++ '"' :: rest ≠ '"' :: '"' :: more := by
  intro heq
  cases h with
  | nil => exact hrest (by rw [(List.cons.inj heq).2]; rfl)
  | cons first _ =>
    rw [List.append_assoc] at heq
    exact first.append_ne_mark _ _ heq

/-- A text between its marks is read back, if no further mark follows. -/
theorem scalar_text {words : String} {inner : List Char} (h : WritesText words.toList inner)
    (hrest : rest.head? ≠ some '"') :
    scalar ('"' :: (inner ++ '"' :: rest)) = .ok (.text words, rest) := by
  have read := basicLine_writesText h rest
  have line : scalar ('"' :: (inner ++ '"' :: rest)) =
      (basicLine (inner ++ '"' :: rest)).map textValue :=
    scalar.eq_2 _ fun more => h.append_ne_marks hrest more
  rw [line, read]
  show Except.ok (textValue (words.toList, rest)) = _
  rw [textValue, String.ofList_toList]

/-! ### Numerals -/

/-- Where a line ends: in front of a newline, or where nothing follows. Line ends are newlines by
then. -/
def EndsLine (rest : List Char) : Prop :=
  ∀ c ∈ rest.head?, c = '\n'

/-- Where a line ends there is nothing more, or a newline. -/
theorem EndsLine.eq_nil_or_newline (ends : EndsLine rest) :
    rest = [] ∨ ∃ more, rest = '\n' :: more := by
  cases rest with
  | nil => exact Or.inl rfl
  | cons c more => exact Or.inr ⟨more, by rw [ends c rfl]⟩

/-- The text of a natural number is made of its digits in base ten, so facts about these digits
are facts about the text. -/
theorem toList_toString (number : Nat) : (toString number).toList = Nat.toDigits 10 number :=
  String.toList_ofList

/-- The digits of a number are decimal digits. -/
theorem isDecimal_of_mem_toDigits {number : Nat} {c : Char} (h : c ∈ Nat.toDigits 10 number) :
    isDecimal c = true :=
  Nat.isDigit_of_mem_toDigits (by decide) (by decide) h

/-- The digits of a number in base ten are at least one, and all of them are decimal
digits. -/
theorem exists_cons_toDigits (number : Nat) :
    ∃ c digits, Nat.toDigits 10 number = c :: digits ∧ isDecimal c = true ∧
      ∀ d ∈ digits, isDecimal d = true := by
  obtain ⟨c, digits, hdigits⟩ := List.exists_cons_of_ne_nil
    (Nat.toDigits_ne_nil (n := number) (b := 10))
  have all : ∀ d ∈ Nat.toDigits 10 number, isDecimal d = true := fun _ =>
    isDecimal_of_mem_toDigits
  rw [hdigits] at all
  exact ⟨c, digits, hdigits, List.forall_mem_cons.mp all⟩

/-- The digits of a number are read as the number, so writing and reading numbers are inverse to
each other. -/
theorem natOfDigits_toDigits (number : Nat) : natOfDigits 10 (Nat.toDigits 10 number) = number := by
  have digit : ∀ c ∈ Nat.toDigits 10 number, (hexValue? c).getD 0 = c.toNat - '0'.toNat :=
    fun c h => by
      have decimal : ('0' ≤ c && c ≤ '9') = true := isDecimal_of_mem_toDigits h
      rw [hexValue?, if_pos decimal]
      rfl
  calc natOfDigits 10 (Nat.toDigits 10 number)
      = (Nat.toDigits 10 number).foldl (fun n c => 10 * n + (c.toNat - '0'.toNat)) 0 :=
        List.foldl_ext _ _ _ fun n c h => by rw [digit c h]
    _ = number := Nat.ofDigitChars_toDigits (by decide) (by decide)

/-- A run of digits is taken up to the end of the line, whatever characters count as
digits. Underscores and newlines must not. -/
theorem moreDigits_append {isDigit : Char → Bool} (noUnderscore : isDigit '_' = false)
    (noNewline : isDigit '\n' = false) {digits : List Char}
    (hdigits : ∀ c ∈ digits, isDigit c = true) (ends : EndsLine rest) :
    moreDigits isDigit (digits ++ rest) = (digits, rest) := by
  induction digits with
  | nil =>
    rcases ends.eq_nil_or_newline with rfl | ⟨more, rfl⟩
    · rfl
    · rw [List.nil_append, moreDigits, noNewline]
      · rfl
      · exact fun _ _ h => absurd h (by decide)
  | cons c digits ih =>
    obtain ⟨hc, hothers⟩ := List.forall_mem_cons.mp hdigits
    rw [List.cons_append, moreDigits, ih hothers]
    · simp only [hc, if_true]
    · exact fun _ _ h _ => ne_of_passes hc noUnderscore h

/-- The digits of a number above zero do not start with a zero, which is not allowed in a
document. -/
theorem head_toDigits_ne {number : Nat} (h : 0 < number) (more : List Char) :
    Nat.toDigits 10 number ≠ '0' :: more := by
  induction number using Nat.strongRecOn generalizing more with
  | ind number ih =>
    by_cases small : number < 10
    · rw [Nat.toDigits_of_lt_base small]
      intro heq
      have : ∀ number : Fin 10, 0 < number.val → number.val.digitChar ≠ '0' := by decide
      exact this ⟨number, small⟩ h (List.cons.inj heq).1
    · rw [Nat.toDigits_of_base_le (by decide) (Nat.not_lt.mp small)]
      intro heq
      obtain ⟨c, digits, hdigits, -⟩ := exists_cons_toDigits (number / 10)
      rw [hdigits, List.cons_append] at heq
      exact ih (number / 10) (by omega) (by omega) digits
        (by rw [hdigits, (List.cons.inj heq).1])

/-- The digits of a number are a whole part up to the end of the line, with zero as the only one
that starts with a zero. -/
theorem wholePart?_toDigits (number : Nat) (ends : EndsLine rest) :
    wholePart? (Nat.toDigits 10 number ++ rest) = some (Nat.toDigits 10 number, rest) := by
  rcases Nat.eq_zero_or_pos number with rfl | positive
  · rfl
  · obtain ⟨c, digits, hdigits, hc, hothers⟩ := exists_cons_toDigits number
    have lead : c ≠ '0' := fun h => head_toDigits_ne positive digits (h ▸ hdigits)
    rw [hdigits, List.cons_append, wholePart?, digits?, if_pos hc,
      moreDigits_append rfl rfl hothers ends]
    exact fun _ h => lead (List.cons.inj h).1

/-- The digits of a number are read as its integer, unless there are too many. There is no point
and no exponent behind them. -/
theorem decimal_toDigits (number : Nat) (ends : EndsLine rest) :
    decimal (Nat.toDigits 10 number ++ rest) =
      (decimalInteger false (Nat.toDigits 10 number)).map fun integer =>
        (.integer integer, rest) := by
  have unsigned : sign (Nat.toDigits 10 number ++ rest) =
      (false, Nat.toDigits 10 number ++ rest) := by
    obtain ⟨c, digits, hdigits, hc, -⟩ := exists_cons_toDigits number
    rw [hdigits, List.cons_append, sign]
    · exact fun _ h => ne_of_passes hc rfl (List.cons.inj h).1
    · exact fun _ h => ne_of_passes hc rfl (List.cons.inj h).1
  -- Behind the digits the line ends, so neither a point nor an exponent follows.
  have noFraction : fraction? rest = none := by
    rcases ends.eq_nil_or_newline with rfl | ⟨more, rfl⟩ <;> rfl
  have noExponent : exponent? rest = none := by
    rcases ends.eq_nil_or_newline with rfl | ⟨more, rfl⟩ <;> rfl
  simp only [decimal, unsigned, wholePart?_toDigits number ends, noFraction, Option.map_none,
    Option.getD_none, noExponent]
  rfl

/-- The length of a written number is the number of its digits, by which it is accepted or
refused. -/
theorem length_toDigits (number : Nat) :
    (Nat.toDigits 10 number).length = (toString number).length :=
  String.length_ofList.symm

/-- The digits of a number make an integer if there are not too many, and it is that number. -/
theorem decimalInteger_short {number : Nat} (short : (toString number).length ≤ 4300) :
    decimalInteger false (Nat.toDigits 10 number) = .ok number := by
  have fits : ¬Text.longestNumeral < (toString number).length := Nat.not_lt.mpr short
  rw [decimalInteger, length_toDigits, if_neg fits]
  simp only [natOfDigits_toDigits, Bool.false_eq_true, if_false]

/-- A number with more than 4300 digits is not read, and its number of digits is the
reason. -/
theorem decimalInteger_long {number : Nat} (long : 4300 < (toString number).length) :
    decimalInteger false (Nat.toDigits 10 number) =
      .error (.integerTooLong (toString number).length) := by
  have exceeds : Text.longestNumeral < (toString number).length := long
  rw [decimalInteger, length_toDigits, if_pos exceeds]

/-! ### What digits are not -/

/-- What is read as two digits is part of the digits at the front of the input, so dropping all of
them drops these. -/
theorem dropWhile_of_twoDigits? {least greatest number : Nat} {input rest : List Char}
    (h : twoDigits? least greatest input = some (number, rest)) :
    input.dropWhile isDecimal = rest.dropWhile isDecimal := by
  unfold twoDigits? at h
  split at h
  · dsimp only at h
    split at h
    · next hdigits =>
      simp only [Bool.and_eq_true] at hdigits
      cases h
      rw [List.dropWhile_cons_of_pos hdigits.1.1.1, List.dropWhile_cons_of_pos hdigits.1.1.2]
    · cases h
  · cases h

/-- A character that was expected and read stands at the front of the input. -/
theorem eq_cons_of_exactly? {expected : Char} {input rest : List Char}
    (h : exactly? expected input = some rest) : input = expected :: rest := by
  unfold exactly? at h
  split at h
  · split at h
    · next hc => rw [eq_of_beq hc, Option.some.inj h]
    · cases h
  · cases h

/-- Where a line ends behind the digits, there is none of the marks of a moment, so no date and no
time can be read there. -/
theorem dropWhile_ne_mark {input : List Char} (ends : EndsLine (input.dropWhile isDecimal))
    {mark : Char} (hmark : isDecimal mark = false) (hne : mark ≠ '\n') (more : List Char) :
    input.dropWhile isDecimal ≠ (mark :: more).dropWhile isDecimal := by
  intro h
  rw [List.dropWhile_cons_of_neg (Bool.eq_false_iff.mp hmark)] at h
  exact hne (ends mark (by rw [h]; rfl))

/-- No moment is read from digits behind which the line ends, so a number is not taken for a
date. -/
theorem moment?_eq_none {input : List Char} (ends : EndsLine (input.dropWhile isDecimal)) :
    moment? input = none := by
  -- A time has a colon behind two digits, and a date a hyphen behind four. Here the line ends.
  have noClock : clock? input = none := by
    refine Option.eq_none_iff_forall_ne_some.mpr fun rest h => ?_
    simp only [clock?, Option.bind_eq_bind, Option.bind_eq_some_iff, Prod.exists] at h
    obtain ⟨_, _, hours, more, colon, -⟩ := h
    refine dropWhile_ne_mark ends (show isDecimal ':' = false by decide) (by decide) more ?_
    rw [dropWhile_of_twoDigits? hours, eq_cons_of_exactly? colon]
  have noDate : date? input = none := by
    refine Option.eq_none_iff_forall_ne_some.mpr fun date h => ?_
    simp only [date?, Option.bind_eq_bind, Option.bind_eq_some_iff, Prod.exists] at h
    obtain ⟨_, _, century, _, _, year, more, hyphen, -⟩ := h
    refine dropWhile_ne_mark ends (show isDecimal '-' = false by decide) (by decide) more ?_
    rw [dropWhile_of_twoDigits? century, dropWhile_of_twoDigits? year, eq_cons_of_exactly? hyphen]
  rw [moment?, noDate, time?, noClock]
  rfl

/-- No word starts with a digit. -/
theorem word?_eq_none {c : Char} (hc : isDecimal c = true) (rest : List Char) :
    word? (c :: rest) = none := by
  have noStart : ∀ mark, isDecimal mark = false → ¬mark = c := fun mark hmark h =>
    ne_of_passes hc hmark h.symm
  simp [word?, words, noStart 't' rfl, noStart 'f' rfl, noStart 'i' rfl, noStart 'n' rfl,
    noStart '+' rfl, noStart '-' rfl]

/-- The digits of a number are in no other base, as a zero in front of a letter is not among
them. -/
theorem markedInteger?_toDigits (number : Nat) (ends : EndsLine rest) :
    markedInteger? (Nat.toDigits 10 number ++ rest) = none := by
  rcases Nat.eq_zero_or_pos number with rfl | positive
  · rcases ends.eq_nil_or_newline with rfl | ⟨more, rfl⟩ <;> rfl
  · obtain ⟨c, digits, hdigits, -⟩ := exists_cons_toDigits number
    have lead : c ≠ '0' := fun h => head_toDigits_ne positive digits (h ▸ hdigits)
    rw [hdigits, List.cons_append, markedInteger?]
    all_goals exact fun _ h => lead (List.cons.inj h).1

/-! ### Values -/

/-- What is written as a number is read as one, after all other sorts of values were tried. -/
theorem scalar_toDigits (number : Nat) (ends : EndsLine rest) :
    scalar (Nat.toDigits 10 number ++ rest) =
      (decimalInteger false (Nat.toDigits 10 number)).map fun integer =>
        (.integer integer, rest) := by
  obtain ⟨c, digits, hdigits, hc, hothers⟩ := exists_cons_toDigits number
  have noMoment : moment? (Nat.toDigits 10 number ++ rest) = none := by
    refine moment?_eq_none ?_
    rw [List.dropWhile_append_of_pos fun d => isDecimal_of_mem_toDigits]
    rcases ends.eq_nil_or_newline with rfl | ⟨more, rfl⟩ <;> exact ends
  rw [← decimal_toDigits number ends]
  have read : Toml.number (Nat.toDigits 10 number ++ rest) =
      decimal (Nat.toDigits 10 number ++ rest) := by
    rw [Toml.number, markedInteger?_toDigits number ends]
  rw [hdigits, List.cons_append] at noMoment read ⊢
  rw [scalar, word?_eq_none hc, noMoment, read]
  -- A digit is neither of the marks of a text.
  all_goals exact fun _ h => ne_of_passes hc rfl (List.cons.inj h).1

/-- A truth value is read back, whatever stands behind its word. -/
theorem scalar_truth (holds : Bool) (rest : List Char) :
    scalar ((if holds then "true" else "false").toList ++ rest) = .ok (.truth holds, rest) := by
  cases holds <;> rfl

/-- The result of a reader that took something is accepted by the check for that, which keeps what
was read. -/
theorem advancing_ok {α : Type} {input : List Char} {result : Result α} {value : α}
    (h : result = .ok (value, rest)) (shorter : rest.length < input.length) :
    advancing input result = .ok ⟨value, rest, shorter⟩ := by
  rw [h, advancing, dif_pos shorter]

/-- A value that does not start with a bracket or a brace holds no others, so it is read without
recursion. -/
theorem value_eq_scalar {c : Char} (hbracket : c ≠ '[') (hbrace : c ≠ '\x7b')
    (input : List Char) :
    value (c :: input) = advancing (c :: input) (scalar (c :: input)) := by
  rw [value]
  · exact fun _ h => hbracket (List.cons.inj h).1
  · exact fun _ h => hbrace (List.cons.inj h).1

/-- Whether a value is no integer of too many digits. All other values count as short, however
long they are. -/
def IsShort (value : Value) : Prop :=
  ∀ number : Nat, value = .integer number → (toString number).length ≤ 4300

/-- A power of ten has more digits than its exponent says. -/
theorem lt_length_toDigits_pow {exponent : Nat} (positive : 0 < exponent) :
    exponent < (Nat.toDigits 10 (Nat.pow 10 exponent)).length := by
  refine Nat.not_le.mp fun h => ?_
  exact Nat.lt_irrefl _ ((Nat.length_toDigits_le_iff (by decide) positive).mp h)

/-- A power of ten with at least 4300 zeros is an integer with too many digits to be
read back. -/
theorem not_isShort_pow {exponent : Nat} (h : 4300 ≤ exponent) :
    ¬IsShort (.integer (Nat.pow 10 exponent)) := by
  intro short
  have positive : 0 < exponent := Nat.lt_of_lt_of_le (by decide) h
  have length := short _ rfl
  rw [← length_toDigits] at length
  exact Nat.not_lt.mpr (Nat.le_trans length h) (lt_length_toDigits_pow positive)

/-- A written value is read back, up to the end of its line, for each of the three sorts that can
be written. -/
theorem scalar_writes {value : Value} {text : List Char} (h : Writes value text)
    (short : IsShort value) (ends : EndsLine rest) : scalar (text ++ rest) = .ok (value, rest) := by
  cases h with
  | text inside =>
    have noMark : rest.head? ≠ some '"' := fun h => absurd (ends '"' h) (by decide)
    rw [List.cons_append, List.append_assoc]
    exact scalar_text inside noMark
  | truth holds => exact scalar_truth holds rest
  | integer number =>
    rw [toList_toString, scalar_toDigits number ends, decimalInteger_short (short number rfl)]
    rfl

/-- A written value starts with a mark, a letter or a digit, so it is never taken for one that
holds others. -/
theorem Writes.exists_cons {value : Value} {text : List Char} (h : Writes value text) :
    ∃ c inner, text = c :: inner ∧ (c = '"' ∨ isBare c = true) := by
  cases h with
  | text => exact ⟨_, _, rfl, Or.inl rfl⟩
  | truth holds => cases holds <;> exact ⟨_, _, rfl, Or.inr (by decide)⟩
  | integer number =>
    obtain ⟨c, inner, hdigits, hc, -⟩ := exists_cons_toDigits number
    have bare : isBare c = true := by
      rw [isBare, Char.isAlphanum, show c.isDigit = true from hc, Bool.or_true]
      rfl
    exact ⟨c, inner, (toList_toString number).trans hdigits, Or.inr bare⟩

/-- A written value is read by the reader of values that hold no others. -/
theorem value_writes_eq {value : Value} {text : List Char} (h : Writes value text)
    (rest : List Char) :
    Toml.value (text ++ rest) = advancing (text ++ rest) (scalar (text ++ rest)) := by
  obtain ⟨c, inner, rfl, hc⟩ := h.exists_cons
  have hbracket : c ≠ '[' := fun h => absurd (h ▸ hc) (by decide)
  have hbrace : c ≠ '\x7b' := fun h => absurd (h ▸ hc) (by decide)
  exact value_eq_scalar hbracket hbrace _

/-- What is written for a value is read back by the reader of all values, up to the end
of the line, if no integer in it is too long. -/
theorem value_writes {value : Value} {text : List Char} (h : Writes value text)
    (short : IsShort value) (ends : EndsLine rest) :
    ∃ shorter, Toml.value (text ++ rest) = .ok ⟨value, rest, shorter⟩ := by
  have shorter : rest.length < (text ++ rest).length := by
    obtain ⟨c, inner, rfl, -⟩ := h.exists_cons
    rw [List.length_append, List.length_cons]
    omega
  exact ⟨shorter, (value_writes_eq h rest).trans
    (advancing_ok (scalar_writes h short ends) shorter)⟩

/-- An integer with too many digits cannot be read back, and the error says how many digits it
has. -/
theorem value_writes_long {value : Value} {text : List Char} (h : Writes value text)
    (long : ¬IsShort value) (ends : EndsLine rest) :
    ∃ digits, 4300 < digits ∧ Toml.value (text ++ rest) = .error (.integerTooLong digits) := by
  rw [IsShort, not_forall] at long
  obtain ⟨number, hnumber⟩ := long
  obtain ⟨rfl, hlong⟩ := Classical.not_imp.mp hnumber
  rw [Nat.not_le] at hlong
  rw [value_writes_eq h]
  cases h with
  | integer =>
    refine ⟨_, hlong, ?_⟩
    rw [toList_toString, scalar_toDigits number ends, decimalInteger_long hlong]
    rfl

/-- No part of a line end is written inside a text, as a carriage return has to be escaped. -/
theorem WritesText.noReturn {words text : List Char} (h : WritesText words text) :
    '\r' ∉ text := by
  induction h with
  | nil => exact List.not_mem_nil
  | cons first _ ih =>
    refine List.not_mem_append ?_ ih
    -- A carriage return is neither a plain character nor one of the letters of escapes.
    cases first with
    | raw free =>
      exact fun h => free (List.mem_singleton.mp h ▸ Or.inr (Or.inr (Or.inl (by decide))))
    | @letter letter h =>
      have noLetter : ∀ escape ∈ letterEscapes, escape.1 ≠ '\r' := by decide
      simp [(noLetter _ h).symm]
    | @number letter digits values h hdigits _ =>
      have noLetter : ∀ escape ∈ numberEscapes, escape.1 ≠ '\r' := by decide
      have noDigit : '\r' ∉ digits := fun h => absurd (isSome_hexValue? hdigits h) (by decide)
      simp [(noLetter _ h).symm, noDigit]

/-- No part of a line end is written in a value, so it stays the same when line ends are
unified. -/
theorem Writes.noReturn {value : Value} {text : List Char} (h : Writes value text) :
    '\r' ∉ text := by
  cases h with
  | text inside => simp [inside.noReturn]
  | truth holds => cases holds <;> decide
  | integer number =>
    rw [toList_toString]
    exact fun h => absurd (isDecimal_of_mem_toDigits h) (by decide)

end Calculator.Toml
