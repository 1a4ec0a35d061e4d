import Calculator.Toml.Basic

/-!
# `Calculator.Toml.Text`: the four ways to write a text

A basic text stands between quotation marks and knows escapes. A literal
text stands between apostrophes and is taken as it is. Both come in a form
of one line and, with the mark written three times, as a block of several
lines.

* `basicLine`, `basicBlock`, `literalLine`, `literalBlock`: each reads a
  text whose opening mark was read already.
-/

set_option autoImplicit false

namespace Calculator.Toml

/-! ### Escapes -/

/-- The character that a one-letter escape stands for. -/
def escaped? : Char → Option Char
  | 'b' => some '\x08'
  | 't' => some '\t'
  | 'n' => some '\n'
  | 'f' => some '\x0C'
  | 'r' => some '\r'
  | '"' => some '"'
  | '\\' => some '\\'
  | _ => none

/-- Reads a character that is written as a number of hexadecimal digits. It
must be a scalar value, so the surrogates are refused. -/
def hexEscape (width : Nat) (input : List Char) : Result Char :=
  let digits := input.take width
  let code := natOfDigits 16 digits
  if digits.length == width && digits.all (fun c => (hexValue? c).isSome) &&
      (code < 0xD800 || 0xDFFF < code && code < 0x110000) then
    .ok (Char.ofNat code, input.drop width)
  else
    .error .malformed

/-- Reads what follows a backslash. -/
def escape : (input : List Char) → Result Char
  | [] => .error .malformed
  | 'u' :: rest => hexEscape 4 rest
  | 'U' :: rest => hexEscape 8 rest
  | c :: rest =>
    match escaped? c with
    | some character => .ok (character, rest)
    | none => .error .malformed

/-- Reading a numbered escape never lengthens what is left. -/
theorem length_of_hexEscape {width : Nat} {input rest : List Char} {c : Char}
    (h : hexEscape width input = .ok (c, rest)) : rest.length ≤ input.length := by
  simp only [hexEscape] at h
  split at h
  · cases h
    simp
  · cases h

/-- An escape takes at least one character. -/
theorem length_of_escape {input rest : List Char} {c : Char}
    (h : escape input = .ok (c, rest)) : rest.length < input.length := by
  unfold escape at h
  split at h
  · cases h
  · exact Nat.lt_succ_of_le (length_of_hexEscape h)
  · exact Nat.lt_succ_of_le (length_of_hexEscape h)
  · split at h
    · cases h
      exact Nat.lt_succ_self _
    · cases h

/-- Puts a character in front of the text that is read behind it. -/
def push (c : Char) (result : Result (List Char)) : Result (List Char) :=
  result.map fun read => (c :: read.1, read.2)

/-! ### Texts of one line -/

/-- Reads the rest of a basic text of one line. -/
def basicLine (input : List Char) : Result (List Char) :=
  match input with
  | [] => .error .malformed
  | '"' :: rest => .ok ([], rest)
  | '\\' :: rest =>
    match _h : escape rest with
    | .ok (c, after) => push c (basicLine after)
    | .error error => .error error
  | c :: rest => if isControl c then .error .malformed else push c (basicLine rest)
termination_by input.length
decreasing_by
  · have := length_of_escape _h
    simp only [List.length_cons]
    omega
  · exact Nat.lt_succ_self _

/-- Reads the rest of a literal text of one line. -/
def literalLine : (input : List Char) → Result (List Char)
  | [] => .error .malformed
  | c :: rest =>
    if c == '\'' then .ok ([], rest)
    else if isControl c then .error .malformed
    else push c (literalLine rest)

/-! ### Texts of several lines -/

/-- Drops the newline right behind the opening mark of a block, which is
not part of the text. -/
def dropFirstNewline : (input : List Char) → List Char
  | '\n' :: rest => rest
  | input => input

/-- Reads the marks behind the closing mark of a block. Up to two of them
are the end of the text. -/
def extraMarks (mark : Char) : (input : List Char) → List Char × List Char
  | c :: d :: rest =>
    if c == mark then
      if d == mark then ([c, d], rest) else ([c], d :: rest)
    else
      ([], c :: d :: rest)
  | [c] => if c == mark then ([c], []) else ([], [c])
  | [] => ([], [])

/-- Drops a line end that is escaped by a backslash, with all blanks and
newlines that follow. Nothing but blanks may stand between the backslash
and the line end. -/
def continueLine (input : List Char) : Except Error (Remainder input) :=
  match _h : dropSpaces input with
  | [] => .ok ⟨[], Nat.zero_le _⟩
  | '\n' :: rest =>
    .ok ⟨rest.dropWhile fun c => isSpace c || c == '\n', by
      have outer := length_dropSpaces_le input
      have inner : (rest.dropWhile fun c => isSpace c || c == '\n').length ≤ rest.length :=
        (List.dropWhile_suffix _).length_le
      rw [_h, List.length_cons] at outer
      omega⟩
  | _ => .error .malformed

/-- Whether a backslash in front of these characters escapes a line end. -/
def startsContinuation : (input : List Char) → Bool
  | c :: _ => isSpace c || c == '\n'
  | [] => false

/-- Reads the rest of a basic block. -/
def basicBlock (input : List Char) : Result (List Char) :=
  match input with
  | [] => .error .malformed
  | '"' :: '"' :: '"' :: rest => .ok (extraMarks '"' rest)
  | '\\' :: rest =>
    if startsContinuation rest then
      match continueLine rest with
      | .ok after => basicBlock after.val
      | .error error => .error error
    else
      match _h : escape rest with
      | .ok (c, after) => push c (basicBlock after)
      | .error error => .error error
  | c :: rest =>
    if isBlockControl c then .error .malformed else push c (basicBlock rest)
termination_by input.length
decreasing_by
  · exact Nat.lt_succ_of_le after.property
  · have := length_of_escape _h
    simp only [List.length_cons]
    omega
  · exact Nat.lt_succ_self _

/-- Reads the rest of a literal block. -/
def literalBlock : (input : List Char) → Result (List Char)
  | '\'' :: '\'' :: '\'' :: rest => .ok (extraMarks '\'' rest)
  | c :: rest =>
    if isBlockControl c then .error .malformed else push c (literalBlock rest)
  | [] => .error .malformed

end Calculator.Toml
