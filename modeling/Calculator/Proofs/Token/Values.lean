import Calculator.Proofs.Token.Segmentation

/-!
# `Calculator.Proofs.Token.Values`: which tokens have a value

Every cut through a text gives one of four lexemes, which `IsCut` lists.
What holds of each token of a line by itself needs no induction over the
line then, but these four cases. Only a run of digits is a number
(`kind_symbol_ne_number`).

Two such facts are about the tokens of a text with which nothing is wrong:
every number is an accepted run of digits (`Scans.number_of_accepted`), so
it has a value between zero and the largest number
(`Scans.value_of_accepted`). A third is about any text: every operator and
every parenthesis is a single symbol (`Scans.symbol_of_ofSymbol?`).
-/

set_option autoImplicit false

namespace Calculator

/-- Numbers, blanks, bad characters and the end of a line are no symbols: no single character is
looked up as one of them. -/
theorem Kind.ne_of_ofSymbol? {c : Char} {kind : Kind} (h : ofSymbol? c = some kind) :
    kind ≠ .number ∧ kind ≠ .whitespace ∧ kind ≠ .bad ∧ kind ≠ .endOfFile := by
  unfold ofSymbol? at h
  split at h <;> cases h <;> decide

/-- Some character stands for each operator, so an operator in a tree goes back to a character of
the line. -/
theorem Kind.exists_ofSymbol?_of_isOperator {kind : Kind} (h : kind.isOperator = true) :
    ∃ c, ofSymbol? c = some kind := by
  cases kind with
  | plus => exact ⟨'+', rfl⟩
  | minus => exact ⟨'-', rfl⟩
  | star => exact ⟨'*', rfl⟩
  | slash => exact ⟨'/', rfl⟩
  | _ => cases h

namespace Lexeme

open Text

variable {line : String} {largest : Int} {position : Nat} {text : List Char}
  {lexemes : List Lexeme} {lexeme : Lexeme}

/-- What a cut gives: a run of digits, a run of blanks, a single character of
another class, or the end. -/
inductive IsCut (line : String) (largest : Int) : Lexeme → Prop where
  | number {position : Nat} {run rest : List Char} (hne : run ≠ [])
    (digits : ∀ c ∈ run, isDigit c = true) :
    IsCut line largest (Lexeme.number line largest position run rest)
  | whitespace {position : Nat} {run rest : List Char} (hne : run ≠ [])
    (blanks : ∀ c ∈ run, isBlank c = true) :
    IsCut line largest (Lexeme.whitespace position run rest)
  | symbol {position : Nat} {c : Char} {rest : List Char} (noDigit : isDigit c = false)
    (noBlank : isBlank c = false) : IsCut line largest (Lexeme.symbol position c rest)
  | endOfFile {position : Nat} : IsCut line largest (Lexeme.endOfFile position)

theorem Scans.isCut (h : Scans line largest position text lexemes) :
    ∀ lexeme ∈ lexemes, IsCut line largest lexeme := by
  induction h with
  | done => exact List.forall_mem_singleton.mpr .endOfFile
  | number hne digits _ _ ih => exact List.forall_mem_cons.mpr ⟨.number hne digits, ih⟩
  | whitespace hne blanks _ _ ih => exact List.forall_mem_cons.mpr ⟨.whitespace hne blanks, ih⟩
  | symbol noDigit noBlank _ ih => exact List.forall_mem_cons.mpr ⟨.symbol noDigit noBlank, ih⟩

/-- A single character that is no digit is never a number, whichever of the other kinds it has. -/
theorem kind_symbol_ne_number (position : Nat) {c : Char} (rest : List Char)
    (noDigit : isDigit c = false) (noBlank : isBlank c = false) :
    (symbol position c rest).token.kind ≠ .number := by
  intro hkind
  have digit := ((Kind.admits_symbol noDigit noBlank).class_iff c List.mem_cons_self).1.mpr hkind
  simp [noDigit] at digit

/-- If nothing is wrong with the tokens of a text, its numbers are accepted
runs of digits. -/
theorem Scans.number_of_accepted (h : Scans line largest position text lexemes)
    (nothing : lexemes.flatMap diagnostics = []) :
    ∀ token ∈ lexemes.map Lexeme.token, token.kind = .number →
      ∃ run, run ≠ [] ∧ (∀ c ∈ run, isDigit c = true) ∧ IsAccepted largest run ∧
        token.text = some (String.ofList run) ∧ token.value = some (natOfDigits run : Int) := by
  intro token htoken kind
  obtain ⟨lexeme, hlexeme, rfl⟩ := List.mem_map.mp htoken
  have fine : lexeme.diagnostics = [] := List.flatMap_eq_nil_iff.mp nothing lexeme hlexeme
  cases h.isCut lexeme hlexeme with
  | @number position run rest hne digits =>
    have accepted := (diagnostics_number_eq_nil_iff line largest position run rest).mp fine
    exact ⟨run, hne, digits, accepted, rfl, if_pos accepted⟩
  | whitespace => exact absurd kind (by simp [Lexeme.whitespace])
  | symbol noDigit noBlank => exact absurd kind (kind_symbol_ne_number _ _ noDigit noBlank)
  | endOfFile => exact absurd kind (by simp [Lexeme.endOfFile, Token.endOfFile])

/-- The numbers of a text without diagnostics have values, none of which is negative or
above the largest number. -/
theorem Scans.value_of_accepted (h : Scans line largest position text lexemes)
    (nothing : lexemes.flatMap diagnostics = []) :
    ∀ token ∈ lexemes.map Lexeme.token, token.kind = .number →
      ∃ value, token.value = some value ∧ 0 ≤ value ∧ value ≤ largest := by
  intro token htoken kind
  obtain ⟨run, -, -, accepted, -, hvalue⟩ := h.number_of_accepted nothing token htoken kind
  exact ⟨natOfDigits run, hvalue, Int.natCast_nonneg _, accepted.2⟩

/-- A token of a kind that some character stands for has that character as its text, and it has no
value. The induction is on the cuts of the line. -/
theorem Scans.symbol_of_ofSymbol? (h : Scans line largest position text lexemes) :
    ∀ token ∈ lexemes.map Lexeme.token, (∃ c, Kind.ofSymbol? c = some token.kind) →
      ∃ c, Kind.ofSymbol? c = some token.kind ∧ token.text = some (String.singleton c) ∧
        token.value = none := by
  rintro token htoken ⟨symbol, hsymbol⟩
  obtain ⟨lexeme, hlexeme, rfl⟩ := List.mem_map.mp htoken
  obtain ⟨noNumber, noBlanks, noBad, noEnd⟩ := Kind.ne_of_ofSymbol? hsymbol
  cases h.isCut lexeme hlexeme with
  | number => exact absurd rfl noNumber
  | whitespace => exact absurd rfl noBlanks
  | @symbol position c rest _ _ =>
    refine ⟨c, ?_, rfl, rfl⟩
    -- A character that is no symbol is bad.
    cases hc : Kind.ofSymbol? c with
    | none => exact absurd (by simp [Lexeme.symbol, hc]) noBad
    | some kind => simp [Lexeme.symbol, hc]
  | endOfFile => exact absurd rfl noEnd

/-- An operator of a text is a single symbol that stands for its kind, and it has no
value. -/
theorem Scans.symbol_of_isOperator (h : Scans line largest position text lexemes) :
    ∀ token ∈ lexemes.map Lexeme.token, token.kind.isOperator = true →
      ∃ c, Kind.ofSymbol? c = some token.kind ∧ token.text = some (String.singleton c) ∧
        token.value = none := fun token htoken operation =>
  h.symbol_of_ofSymbol? token htoken (Kind.exists_ofSymbol?_of_isOperator operation)

end Lexeme

end Calculator
