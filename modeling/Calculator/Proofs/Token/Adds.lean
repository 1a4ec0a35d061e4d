import Calculator.Proofs.Token.Scans

/-!
# `Calculator.Proofs.Token.Adds`: what a part of a line adds to its tokens

The significant tokens of a line can be found part by part. `Lexeme.Adds`
says that a part of a line, with a given text behind it, adds given
significant tokens to those of the text behind and nothing that is wrong.
The parts are digits (`adds_number`), symbols (`adds_symbol`) and blanks
(`adds_blanks`), and parts are put together with `Adds.append`.

Blanks add nothing even if more blanks follow. `Lexeme.readAll` does not
cut a run of blanks in two, so this is not one of its equations.
-/

set_option autoImplicit false

namespace Calculator.Lexeme

open Text

/-- The significant tokens among those of some lexemes, which are the ones that the parser
reads. -/
def significant (lexemes : List Lexeme) : List Token :=
  (lexemes.map token).filter fun token => token.kind.isSignificant

/-- At `position` in a line and with the text `rest` behind it, the text
`front` adds `tokens` to the significant tokens and has nothing wrong
with it. -/
structure Adds (line : String) (largest : Int) (position : Nat) (front rest : List Char)
    (tokens : List Token) : Prop where
  -- The tokens come before those of the text behind.
  significant_eq :
    significant (readAll line largest position (front ++ rest)) =
      tokens ++ significant (readAll line largest (position + front.length) rest)
  -- What is wrong is wrong with the text behind.
  diagnostics_eq :
    (readAll line largest position (front ++ rest)).flatMap diagnostics =
      (readAll line largest (position + front.length) rest).flatMap diagnostics

variable {line : String} {largest : Int} {position : Nat}

/-- No text adds no tokens, in front of any other text. -/
theorem adds_nil (rest : List Char) : Adds line largest position [] rest [] :=
  ⟨rfl, rfl⟩

/-- Two parts of a text, one behind the other, add the tokens of the first and then
those of the second. -/
theorem Adds.append {front behind rest : List Char} {tokens more : List Token}
    (h : Adds line largest position front (behind ++ rest) tokens)
    (later : Adds line largest (position + front.length) behind rest more) :
    Adds line largest position (front ++ behind) rest (tokens ++ more) := by
  constructor
  · rw [List.append_assoc, h.significant_eq, later.significant_eq, List.length_append,
      Nat.add_assoc, List.append_assoc]
  · rw [List.append_assoc, h.diagnostics_eq, later.diagnostics_eq, List.length_append,
      Nat.add_assoc]

/-- A longest run of digits adds one number with its value, if the run is accepted. It has to be a
longest one, as more digits behind it would belong to the same number. -/
theorem adds_number {run rest : List Char} (hne : run ≠ [])
    (digits : ∀ c ∈ run, isDigit c = true) (stop : StopsRun isDigit rest)
    (accepted : IsAccepted largest run) :
    Adds line largest position run rest
      [⟨.number, position, some (String.ofList run), some (natOfDigits run : Int)⟩] := by
  have value : numberValue? largest run = some (natOfDigits run : Int) := if_pos accepted
  constructor <;> rw [readAll_number line largest position hne digits stop]
  · simp [significant, number, value, Kind.isSignificant]
  · simp [number, value]

/-- An operator or a parenthesis adds one token, whatever stands on either side of it. -/
theorem adds_symbol {c : Char} {kind : Kind} (rest : List Char)
    (noDigit : isDigit c = false) (noBlank : isBlank c = false)
    (hkind : Kind.ofSymbol? c = some kind) (hsignificant : kind.isSignificant = true) :
    Adds line largest position [c] rest
      [⟨kind, position, some (String.singleton c), none⟩] := by
  constructor <;>
    rw [List.singleton_append, readAll_symbol line largest position rest noDigit noBlank]
  · simp [significant, symbol, hkind, hsignificant]
  · simp [symbol, hkind]

/-- A single blank adds nothing, since the token of a run of blanks is not significant, however
long the run is. -/
theorem adds_blank {c : Char} (blank : isBlank c = true) (rest : List Char) :
    Adds line largest position [c] rest [] := by
  -- With the blanks that follow it, it makes up one token, and they make up one without it.
  obtain ⟨run, behind, rfl, blanks, stop⟩ := exists_run isBlank rest
  have whole := readAll_whitespace line largest position (List.cons_ne_nil c run)
    (List.forall_mem_cons.mpr ⟨blank, blanks⟩) stop
  have shorter : significant (readAll line largest (position + 1) (run ++ behind)) =
        significant (readAll line largest (position + 1 + run.length) behind) ∧
      (readAll line largest (position + 1) (run ++ behind)).flatMap diagnostics =
        (readAll line largest (position + 1 + run.length) behind).flatMap diagnostics := by
    by_cases hne : run = []
    · subst hne
      exact ⟨rfl, rfl⟩
    · rw [readAll_whitespace line largest (position + 1) hne blanks stop]
      exact ⟨rfl, rfl⟩
  rw [List.length_cons, Nat.add_comm run.length, ← Nat.add_assoc] at whole
  constructor
  · rw [List.singleton_append, ← List.cons_append, whole]
    exact shorter.1.symm
  · rw [List.singleton_append, ← List.cons_append, whole]
    exact shorter.2.symm

/-- Blanks add nothing, whatever follows them, so a line can be spaced out at will between its
tokens. -/
theorem adds_blanks {blanks : List Char} (hblanks : ∀ c ∈ blanks, isBlank c = true)
    (rest : List Char) : Adds line largest position blanks rest [] := by
  induction blanks generalizing position with
  | nil => exact adds_nil rest
  | cons c blanks ih =>
    obtain ⟨hc, hrest⟩ := List.forall_mem_cons.mp hblanks
    exact (adds_blank hc (blanks ++ rest)).append (ih hrest)

end Calculator.Lexeme
