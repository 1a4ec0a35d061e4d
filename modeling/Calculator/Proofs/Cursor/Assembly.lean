import Calculator.Proofs.Cursor.Parse
import Calculator.Proofs.Expr.Sum
import Calculator.Proofs.Token.Separators

/-!
# `Calculator.Proofs.Cursor.Assembly`: lines put together from parts

A line whose tokens are known part by part (`Lexeme.Adds`) is read as the
tree of which these tokens are the leaves, if there is one that fits
(`parse_of_adds`).

The parts may be lines themselves. Wherever the text of an accepted line
stands, it adds the leaves of its tree, moved to that place, as long as no
digits go on behind it (`adds_of_accepted`). In parentheses it adds those of
a group (`Adds.inParentheses`).
-/

set_option autoImplicit false

namespace Calculator

open Text

/-! ### Reading what the parts add -/

/-- A line that adds the leaves of a fitting tree, and nothing that is wrong,
has that tree, if the limit admits its groups. -/
theorem parse_of_adds {line : String} {largest maxDepth : Int} {expr : Expr}
    (adds : Lexeme.Adds line largest 0 line.toList [] expr.leaves)
    (fits : Expr.Fits .term expr) (shallow : expr.nesting ≤ maxDepth.toNat) :
    parse line largest maxDepth = ⟨[], expr, Token.endOfFile line.length⟩ := by
  obtain ⟨tokens, h⟩ := Cursor.onLine_ofLine line largest maxDepth
  have ending : Lexeme.readAll line largest (0 + line.toList.length) [] =
      [Lexeme.endOfFile line.length] := by
    rw [Lexeme.readAll, Nat.zero_add, String.length_toList]
  have hsignificant := adds.significant_eq
  have hdiagnostics := adds.diagnostics_eq
  rw [List.append_nil, ending] at hsignificant hdiagnostics
  have htokens : (Cursor.ofLine line largest maxDepth).tokens =
      expr.leaves ++ [Token.endOfFile line.length] := hsignificant
  have nothing : (Cursor.ofLine line largest maxDepth).diagnostics = [] := hdiagnostics
  have leaves : expr.leaves = tokens := List.append_cancel_right (htokens.symm.trans h.tokens_eq)
  rw [parse, h.parse_of_leaves rfl fits leaves ?_, nothing]
  exact Nat.le_trans shallow (by simp [Cursor.ofLine])

/-! ### Accepted lines as parts -/

/-- All symbols are significant, so every operator and parenthesis of a text is read. -/
theorem Kind.isSignificant_of_ofSymbol? {c : Char} {kind : Kind} (h : ofSymbol? c = some kind) :
    kind.isSignificant = true := by
  unfold ofSymbol? at h
  split at h <;> cases h <;> rfl

namespace Lexeme

variable {line : String} {largest : Int} {position : Nat} {front : List Char}
  {lexemes : List Lexeme}

/-- A text with which nothing is wrong adds its tokens wherever it stands, in
any line, as long as no run of digits goes on behind it. -/
theorem Scans.exists_adds (h : Scans line largest position front lexemes)
    (nothing : lexemes.flatMap diagnostics = []) :
    ∃ tokens, significant lexemes = tokens ++ [Token.endOfFile (position + front.length)] ∧
      ∀ (other : String) (shift : Nat) (rest : List Char), Apart front rest →
        Adds other largest (position + shift) front rest
          (tokens.map (Token.relocate (· + shift))) := by
  induction h with
  | done => exact ⟨[], rfl, fun other shift rest _ => adds_nil rest⟩
  | @number position run behind lexemes hne digits stop _ ih =>
    rw [List.flatMap_cons, List.append_eq_nil_iff, diagnostics_number_eq_nil_iff] at nothing
    obtain ⟨accepted, nothingBehind⟩ := nothing
    obtain ⟨tokens, hend, hadds⟩ := ih nothingBehind
    have value : numberValue? largest run = some (natOfDigits run : Int) := if_pos accepted
    refine ⟨⟨.number, position, some (String.ofList run), some (natOfDigits run : Int)⟩ :: tokens,
      ?_, fun other shift rest apart => ?_⟩
    · rw [significant_cons, hend, List.length_append, Nat.add_assoc]
      simp [significant, Lexeme.number, value, Kind.isSignificant]
    · -- The run is a longest one with the text behind it, too.
      have stopped : StopsRun isDigit (behind ++ rest) := by
        cases behind with
        | nil => exact (by simpa using apart : Apart run rest).stopsRun hne digits
        | cons c cs => exact stop
      have later := hadds other shift rest apart.of_append
      rw [Nat.add_right_comm] at later
      exact (adds_number hne digits stopped accepted).append later
  | @whitespace position run behind lexemes hne blanks stop _ ih =>
    obtain ⟨tokens, hend, hadds⟩ := ih nothing
    refine ⟨tokens, ?_, fun other shift rest apart => ?_⟩
    · rw [significant_cons, hend, List.length_append, Nat.add_assoc]
      rfl
    · have later := hadds other shift rest apart.of_append
      rw [Nat.add_right_comm] at later
      exact (adds_blanks blanks _).append later
  | @symbol position c behind lexemes noDigit noBlank _ ih =>
    rw [List.flatMap_cons, List.append_eq_nil_iff,
      diagnostics_symbol_eq_nil_iff position behind noDigit noBlank] at nothing
    obtain ⟨notBad, nothingBehind⟩ := nothing
    obtain ⟨tokens, hend, hadds⟩ := ih nothingBehind
    cases hkind : Kind.ofSymbol? c with
    | none => exact absurd ⟨noDigit, noBlank, hkind⟩ notBad
    | some kind =>
      have significantKind := Kind.isSignificant_of_ofSymbol? hkind
      refine ⟨⟨kind, position, some (String.singleton c), none⟩ :: tokens, ?_,
        fun other shift rest apart => ?_⟩
      · rw [significant_cons, hend, List.length_cons, Nat.add_comm behind.length,
          ← Nat.add_assoc]
        simp [significant, Lexeme.symbol, hkind, significantKind]
      · have later : Apart behind rest := (show Apart ([c] ++ behind) rest from apart).of_append
        have later := hadds other shift rest later
        rw [Nat.add_right_comm] at later
        exact (adds_symbol _ noDigit noBlank hkind significantKind).append later

end Lexeme

/-- The text of an accepted line adds the leaves of its tree wherever it
stands, as long as no digits go on behind it. -/
theorem adds_of_accepted {line : String} {largest maxDepth : Int}
    (accepted : (parse line largest maxDepth).diagnostics = []) (other : String)
    (position : Nat) {rest : List Char} (apart : Apart line.toList rest) :
    Lexeme.Adds other largest position line.toList rest
      ((parse line largest maxDepth).root.mapTokens (Token.relocate (· + position))).leaves := by
  obtain ⟨tokens, h⟩ := Cursor.onLine_ofLine line largest maxDepth
  obtain ⟨-, -, leaves, -⟩ := h.fits_of_accepted rfl accepted
  obtain ⟨added, hend, hadds⟩ :=
    (Lexeme.scans_readAll line largest 0 line.toList).exists_adds (leaves_subset_lex accepted).1
  have hadded : added = tokens := by
    refine List.append_cancel_right (hend.symm.trans ?_)
    rw [Nat.zero_add, String.length_toList]
    exact h.tokens_eq
  have moved := hadds other position rest apart
  rw [Nat.zero_add, hadded, ← leaves, ← Expr.leaves_mapTokens] at moved
  exact moved

/-- The tree of an accepted line fits the loosest level wherever it is moved,
and the limit admits its groups. -/
theorem fits_of_accepted {line : String} {largest maxDepth : Int}
    (accepted : (parse line largest maxDepth).diagnostics = []) (position : Nat) :
    let moved := (parse line largest maxDepth).root.mapTokens (Token.relocate (· + position))
    Expr.Fits .term moved ∧ moved.nesting ≤ maxDepth.toNat := by
  obtain ⟨tokens, h⟩ := Cursor.onLine_ofLine line largest maxDepth
  obtain ⟨-, fits, -, -, shallow⟩ := h.fits_of_accepted rfl accepted
  refine ⟨fits.mapTokens (f := Token.relocate (· + position)) fun _ => rfl, ?_⟩
  rw [Expr.nesting_mapTokens]
  exact Nat.le_trans shallow (by simp [Cursor.ofLine])

/-- Two parts of a text add their tokens one behind the other, where the offset of the second
is known. -/
theorem Lexeme.Adds.append_at {line : String} {largest : Int} {position next : Nat}
    {front behind rest : List Char} {tokens more : List Token}
    (h : Adds line largest position front (behind ++ rest) tokens)
    (later : Adds line largest next behind rest more) (hnext : position + front.length = next) :
    Adds line largest position (front ++ behind) rest (tokens ++ more) :=
  h.append (hnext ▸ later)

/-! ### Groups -/

/-- The group of an expression, with parentheses around `width` characters, the first of which
stands behind the opening one. -/
def Expr.inParentheses (position width : Nat) (inner : Expr) : Expr :=
  .parenthesized ⟨.openParenthesis, position, some (String.singleton '('), none⟩ inner
    ⟨.closeParenthesis, position + 1 + width, some (String.singleton ')'), none⟩

/-- In parentheses, a text adds the leaves of a group. This needs the leaves of the text in front
of a closing parenthesis, which ends any run of digits. -/
theorem Lexeme.Adds.inParentheses {line : String} {largest : Int} {position : Nat}
    {text rest : List Char} {inner : Expr}
    (h : Adds line largest (position + 1) text (')' :: rest) inner.leaves) :
    Adds line largest position ('(' :: (text ++ [')'])) rest
      (inner.inParentheses position text.length).leaves := by
  have closing : Adds line largest (position + 1 + text.length) [')'] rest
      [⟨.closeParenthesis, _, some (String.singleton ')'), none⟩] :=
    adds_symbol rest (by decide) (by decide) rfl rfl
  exact (adds_symbol _ (by decide) (by decide) rfl rfl).append (h.append closing)

end Calculator
