import Calculator.Text.Basic
import Calculator.Toml.Document

/-!
# `Calculator.Proofs.Toml.Sound`: what readers leave and why they fail

A reader takes a value off the front of its input, so what it leaves is an end of the
input. If it fails because of an integer with too many digits, these digits stand in
the input. A result is `Sound` if it is as this demands, and the readers of a document
are put together from smaller ones in ways that keep soundness (`Sound.mono`,
`Sound.bind`, `Sound.map`).

* `IsRun`, `HasNumeral`: digits with single underscores between them.
* `Explains`: whether an error has its reason in some input.

Here are the readers that read no numbers: those of separators, texts and keys, and
the ways in which tables grow. `Calculator.Proofs.Toml.Failure` goes on from here to
whole documents.
-/

set_option autoImplicit false

namespace Calculator.Toml

open Data

/-! ### Errors and their reasons -/

/-- A run of digits. Single underscores may stand between them, and do not count. This is how
numbers are written in a document. -/
inductive IsRun (isDigit : Char → Bool) : (digits : Nat) → (text : List Char) → Prop where
  /-- A digit. -/
  | digit {c : Char} (hc : isDigit c = true) : IsRun isDigit 1 [c]
  /-- A digit in front of a run. -/
  | cons {digits : Nat} {c : Char} {text : List Char} (hc : isDigit c = true)
    (behind : IsRun isDigit digits text) : IsRun isDigit (digits + 1) (c :: text)
  /-- A digit in front of a run, with an underscore in between. -/
  | underscore {digits : Nat} {c : Char} {text : List Char} (hc : isDigit c = true)
    (behind : IsRun isDigit digits text) : IsRun isDigit (digits + 1) (c :: '_' :: text)

/-- Whether a run of so many decimal digits stands somewhere in a text. -/
def HasNumeral (digits : Nat) (text : List Char) : Prop :=
  ∃ numeral, numeral <:+: text ∧ IsRun isDecimal digits numeral

/-- Whether an error can have its reason in an input. A malformed input needs no more reason, and
a number that is too long has to stand in the input. -/
def Explains (input : List Char) : Error → Prop
  | .malformed => True
  | .integerTooLong digits => Text.longestNumeral < digits ∧ HasNumeral digits input

/-- The reason for an error is still there in a longer input, if the input is an end of it. -/
theorem Explains.mono {input larger : List Char} {error : Error} (h : Explains input error)
    (suffix : input <:+ larger) : Explains larger error := by
  cases error with
  | malformed => trivial
  | integerTooLong digits =>
    obtain ⟨long, numeral, within, isRun⟩ := h
    exact ⟨long, numeral, within.trans suffix.isInfix, isRun⟩

/-! ### Sound results -/

/-- Whether the result of reading some input is sound: what is left is an end of the
input, or the error has its reason there. -/
def Sound {α : Type} (rest : α → List Char) (input : List Char) : Except Error α → Prop
  | .ok taken => rest taken <:+ input
  | .error error => Explains input error

namespace Sound

variable {α β : Type} {rest : α → List Char} {behind : β → List Char} {input larger : List Char}

/-- What is sound for an end of the input is sound for the input, so a reader can be called behind
something else. -/
theorem mono {result : Except Error α} (h : Sound rest input result) (suffix : input <:+ larger) :
    Sound rest larger result := by
  cases result with
  | ok taken => exact List.IsSuffix.trans h suffix
  | error error => exact Explains.mono h suffix

/-- A reader that is sound behind the first character is sound on the whole input, which is the
case of `mono` that is needed most. -/
theorem cons {c : Char} {result : Except Error α} (h : Sound rest input result) :
    Sound rest (c :: input) result :=
  h.mono (List.suffix_cons c input)

/-- What a sound reader leaves behind what it takes is an end of the input, so the next reader
works on an end of it too. -/
theorem of_ok {result : Except Error α} {taken : α} (h : Sound rest input result)
    (hok : result = .ok taken) : rest taken <:+ input := by
  rw [hok] at h
  exact h

/-- The error of a sound reader may be passed on by a reader of another result, as its reason is
the same. -/
theorem of_error {result : Except Error α} {error : Error} (h : Sound rest input result)
    (herror : result = .error error) : Sound behind input (.error error : Except Error β) := by
  rw [herror] at h
  exact h

/-- A reader may go on where another one stopped. Most readers are put together in this way, and
so is their soundness. -/
theorem bind {result : Except Error α} {next : α → Except Error β} (h : Sound rest input result)
    (hnext : ∀ taken, Sound behind (rest taken) (next taken)) :
    Sound behind input (result >>= next) := by
  cases result with
  | ok taken => exact (hnext taken).mono h
  | error error => exact h

/-- A value may be changed, if what is left stays the same, and errors are not touched by this. -/
theorem map {result : Except Error α} {f : α → β} (h : Sound rest input result)
    (hf : ∀ taken, behind (f taken) = rest taken) : Sound behind input (result.map f) := by
  cases result with
  | ok taken =>
    show behind (f taken) <:+ input
    rw [hf]
    exact h
  | error error => exact h

/-- A character may be put in front of a text that was read, which leaves the rest of the input as
it is. -/
theorem push {c : Char} {result : Result (List Char)} (h : Sound Prod.snd input result) :
    Sound Prod.snd input (push c result) :=
  h.map fun _ => rfl

/-- The check that something was taken keeps a result or refuses it, and neither makes a new
reason. -/
theorem advancing {result : Result α} (h : Sound Prod.snd input result) :
    Sound Taken.rest input (advancing input result) := by
  cases result with
  | ok read =>
    unfold Toml.advancing
    dsimp only
    split
    · exact h
    · trivial
  | error error => exact h

end Sound

/-! ### Separators -/

/-- What is left without spaces is an end of the input, as spaces are dropped from the front
only. -/
theorem dropSpaces_suffix (input : List Char) : dropSpaces input <:+ input :=
  List.dropWhile_suffix _

/-- What stands behind the first character that is no space is an end of the input. -/
theorem suffix_of_dropSpaces {input rest : List Char} {c : Char}
    (h : dropSpaces input = c :: rest) : rest <:+ input :=
  (List.suffix_cons c rest).trans (h ▸ dropSpaces_suffix input)

/-- Dropping a comment is sound. -/
theorem sound_dropComment (input : List Char) : Sound id input (dropComment input) := by
  unfold dropComment
  split
  · split
    · trivial
    · exact (List.dropWhile_suffix _).trans (List.suffix_cons ..)
  · exact List.suffix_rfl

/-- A remainder behind the first character is one of the input, with the reason for an error kept
as well. -/
theorem sound_behind {c : Char} {input : List Char} {result : Except Error (Remainder input)}
    (h : Sound Subtype.val input result) :
    Sound Subtype.val (c :: input) (result.map (Remainder.behind (c := c))) := by
  refine Sound.cons (Sound.map h fun _ => ?_)
  rfl

/-- Dropping separators, in a comment or outside of one, is sound. The induction is on the input,
for both of the states. -/
theorem sound_dropTriviaWithin (comment : Bool) (input : List Char) :
    Sound Subtype.val input (dropTriviaWithin comment input) := by
  fun_induction dropTriviaWithin comment input with
  | case1 | case7 => exact List.suffix_rfl
  | case3 => trivial
  | case2 | case4 | case5 | case6 => exact sound_behind ‹_›

/-- Dropping separators is sound. -/
theorem sound_dropTrivia (input : List Char) : Sound Subtype.val input (dropTrivia input) :=
  sound_dropTriviaWithin false input

/-- Dropping the end of a line is sound. -/
theorem sound_dropLineEnd (input : List Char) : Sound id input (dropLineEnd input) := by
  have comment := (sound_dropComment (dropSpaces input)).mono (dropSpaces_suffix input)
  unfold dropLineEnd
  split
  · exact List.nil_suffix
  · next rest read => exact (List.suffix_cons '\n' rest).trans (comment.of_ok read)
  · trivial
  · next error failed => exact comment.of_error failed

/-- Dropping the mark of a header is sound. -/
theorem sound_dropMark (mark input : List Char) : Sound id input (dropMark mark input) := by
  unfold dropMark
  split
  · exact List.drop_suffix _ _
  · trivial

/-! ### Texts -/

/-- Reading a numbered escape is sound. -/
theorem sound_hexEscape (width : Nat) (input : List Char) :
    Sound Prod.snd input (hexEscape width input) := by
  simp only [hexEscape]
  split
  · exact List.drop_suffix _ _
  · trivial

/-- Reading an escape is sound, whether it is one of a letter or a numbered one. -/
theorem sound_escape (input : List Char) : Sound Prod.snd input (escape input) := by
  unfold escape
  split
  · trivial
  · exact (sound_hexEscape 4 _).cons
  · exact (sound_hexEscape 8 _).cons
  · split
    · exact List.suffix_cons ..
    · trivial

/-- Reading a basic text of one line is sound, by induction on the characters that are left. -/
theorem sound_basicLine (input : List Char) : Sound Prod.snd input (basicLine input) := by
  fun_induction basicLine input with
  | case1 | case5 => trivial
  | case2 => exact List.suffix_cons ..
  | case3 rest c after read ih => exact (ih.push.mono ((sound_escape rest).of_ok read)).cons
  | case4 rest error failed => exact ((sound_escape rest).of_error failed).cons
  | case6 c rest _ _ _ ih => exact ih.push.cons

/-- Reading a literal text of one line is sound. -/
theorem sound_literalLine (input : List Char) : Sound Prod.snd input (literalLine input) := by
  fun_induction literalLine input with
  | case1 | case3 => trivial
  | case2 => exact List.suffix_cons ..
  | case4 c rest _ _ ih => exact ih.push.cons

/-- What is left without a first newline is an end of the input. -/
theorem dropFirstNewline_suffix (input : List Char) : dropFirstNewline input <:+ input := by
  unfold dropFirstNewline
  split
  · exact List.suffix_cons ..
  · exact List.suffix_rfl

/-- What stands behind further marks is an end of the input. -/
theorem extraMarks_suffix (mark : Char) (input : List Char) :
    (extraMarks mark input).2 <:+ input := by
  unfold extraMarks
  split
  · next c d rest =>
    split
    · split
      · exact List.suffix_append [c, d] rest
      · exact List.suffix_cons ..
    · exact List.suffix_rfl
  · split
    · exact List.nil_suffix
    · exact List.suffix_rfl
  · exact List.suffix_rfl

/-- Dropping an escaped line end is sound. -/
theorem sound_continueLine (input : List Char) : Sound Subtype.val input (continueLine input) := by
  unfold continueLine
  split
  · exact List.nil_suffix
  · next rest spaces => exact (List.dropWhile_suffix _).trans (suffix_of_dropSpaces spaces)
  · trivial

/-- An end of what stands behind three marks is an end of the input. -/
theorem suffix_of_marks {a b c : Char} {input rest : List Char} (h : input <:+ rest) :
    input <:+ a :: b :: c :: rest :=
  h.trans (List.suffix_append [a, b, c] rest)

/-- Reading a basic block is sound, with the escapes and the line ends that it may have. -/
theorem sound_basicBlock (input : List Char) : Sound Prod.snd input (basicBlock input) := by
  fun_induction basicBlock input with
  | case1 | case7 => trivial
  | case2 rest => exact suffix_of_marks (extraMarks_suffix '"' rest)
  | case3 rest _ after read ih => exact (ih.mono ((sound_continueLine rest).of_ok read)).cons
  | case4 rest _ error failed => exact ((sound_continueLine rest).of_error failed).cons
  | case5 rest _ c after read ih => exact (ih.push.mono ((sound_escape rest).of_ok read)).cons
  | case6 rest _ error failed => exact ((sound_escape rest).of_error failed).cons
  | case8 c rest _ _ _ ih => exact ih.push.cons

/-- Reading a literal block is sound. -/
theorem sound_literalBlock (input : List Char) : Sound Prod.snd input (literalBlock input) := by
  fun_induction literalBlock input with
  | case1 rest => exact suffix_of_marks (extraMarks_suffix '\'' rest)
  | case2 | case4 => trivial
  | case3 c rest _ _ ih => exact ih.push.cons

/-! ### Keys -/

/-- Reading a part of a key is sound. -/
theorem sound_keyPart (input : List Char) : Sound Prod.snd input (keyPart input) := by
  unfold keyPart
  split
  · exact .cons (.map (sound_basicLine _) fun _ => rfl)
  · exact .cons (.map (sound_literalLine _) fun _ => rfl)
  · split
    · exact (List.dropWhile_suffix _).trans (List.suffix_cons ..)
    · trivial
  · trivial

/-- Reading a key is sound, however many parts it has. The induction is on the parts. -/
theorem sound_key (input : List Char) : Sound Prod.snd input (key input) := by
  fun_induction key input with
  | case1 input error failed => exact (sound_keyPart input).advancing.of_error failed
  | case2 input part read more dot error failed ih =>
    have behind := (suffix_of_dropSpaces dot).trans ((sound_keyPart input).advancing.of_ok read)
    exact ((ih.mono (dropSpaces_suffix more)).mono behind).of_error failed
  | case3 input part read more dot others rest done ih =>
    have behind := (suffix_of_dropSpaces dot).trans ((sound_keyPart input).advancing.of_ok read)
    have inside := (ih.mono (dropSpaces_suffix more)).of_ok done
    exact inside.trans behind
  | case4 input part read =>
    exact (dropSpaces_suffix _).trans ((sound_keyPart input).advancing.of_ok read)

/-- Reading a key with its sign is sound. -/
theorem sound_keyAndSign (input : List Char) : Sound Prod.snd input (keyAndSign input) := by
  unfold keyAndSign
  split
  · next read =>
    exact (dropSpaces_suffix _).trans
      ((List.suffix_cons ..).trans ((sound_key input).of_ok read))
  · trivial
  · next failed => exact (sound_key input).of_error failed

/-! ### Tables

A table that cannot grow makes a document malformed. Whatever is read meanwhile, this
needs no other reason. -/

section Tables

variable (input : List Char)

/-- Putting a value under a key is sound. -/
theorem sound_assign (opener : Nat) (name : String) (value : Value) (parents : List String)
    (entries : Entries) :
    Sound (fun _ => input) input (assign opener name value parents entries) := by
  fun_induction assign opener name value parents entries with
  | case1 => exact List.suffix_rfl
  | case2 | case5 | case6 => trivial
  | case3 | case4 => exact Sound.map ‹_› fun _ => rfl

/-- Opening a table is sound. -/
theorem sound_declareTable (opener : Nat) (key : String) (entries : Entries) :
    Sound (fun _ => input) input (declareTable opener key entries) := by
  unfold declareTable
  split
  · exact List.suffix_rfl
  · exact List.suffix_rfl
  · trivial

/-- Adding an item to an array of tables is sound. -/
theorem sound_appendTable (key : String) (entries : Entries) :
    Sound (fun _ => input) input (appendTable key entries) := by
  unfold appendTable
  split
  · exact List.suffix_rfl
  · exact List.suffix_rfl
  · trivial

/-- A sound change may be made at the end of a path, as going down the path only finds names that
cannot be used. -/
theorem sound_descend {change : Entries → Except Error Entries}
    (h : ∀ entries, Sound (fun _ => input) input (change entries)) (path : List String)
    (entries : Entries) : Sound (fun _ => input) input (descend change path entries) := by
  induction path generalizing entries with
  | nil => exact h entries
  | cons key path ih =>
    rw [descend]
    split
    · exact (ih []).map fun _ => rfl
    · next entry _ =>
      refine Sound.map ?_ fun _ => rfl
      cases entry with
      | value => trivial
      | table openedBy inner => exact (ih inner).map fun _ => rfl
      | tables earlier inner => exact (ih inner).map fun _ => rfl

end Tables

end Calculator.Toml
