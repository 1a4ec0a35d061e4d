import Calculator.Proofs.Text.Numeral
import Calculator.Proofs.Token.Values

/-!
# `Calculator.Proofs.Token.Payload`: what a token says about itself

A token shows by itself whether anything is wrong with it: a bad character is,
and so is a number without a value. `Token.complaint?` reads this off the token,
and `Scans.diagnostics_eq` says that the diagnostics of a text are the complaints
of its tokens, one for each and in order. So there is no diagnostic that no token
shows, and none is recorded twice.

* `IsCut.diagnostics_eq`: the diagnostics of a single cut.
* `IsCut.value_eq_none`, `IsCut.exists_numeral`: only numbers have values, and
  which value they have is a matter of the run of digits alone.

`lex_payload` puts them together for whole lines.
-/

set_option autoImplicit false

namespace Calculator

open Text

/-- What is wrong with a token of a line, as far as the token shows it: it is bad, or it is a
number without a value. The line is needed for the text of the diagnostic only. -/
def Token.complaint? (line : String) (token : Token) : Option Diagnostic :=
  match token.kind, token.value with
  | .bad, _ => token.chars.head?.map .badCharacter
  | .number, none => some (.invalidNumber line)
  | _, _ => none

/-- A token that is neither a number nor bad is in order, so blanks, operators and parentheses
give no diagnostics. -/
theorem Token.complaint?_eq_none {token : Token} (line : String) (noBad : token.kind ≠ .bad)
    (noNumber : token.kind ≠ .number) : token.complaint? line = none := by
  obtain ⟨kind, position, text, value⟩ := token
  cases kind <;> first | rfl | contradiction

namespace Lexeme

variable {line : String} {largest : Int} {position : Nat} {text : List Char}
  {lexemes : List Lexeme} {lexeme : Lexeme}

/-- What is reported when a piece is cut off is what its token complains about, so diagnostics can
be told from the tokens alone. -/
theorem IsCut.diagnostics_eq (h : IsCut line largest lexeme) :
    lexeme.diagnostics = (lexeme.token.complaint? line).toList := by
  cases h with
  | @number position run rest hne digits =>
    simp only [Lexeme.number, Token.complaint?]
    cases numberValue? largest run <;> rfl
  | whitespace => rfl
  | @symbol position c rest noDigit noBlank =>
    cases hc : Kind.ofSymbol? c with
    | none => simp [Lexeme.symbol, hc, Token.complaint?, Token.chars, Token.shown]
    | some kind =>
      -- A character that stands for itself is neither bad nor a number.
      have noBad : (Lexeme.symbol position c rest).token.kind ≠ .bad := fun hbad =>
        Option.some_ne_none kind (hc.symm.trans (ofSymbol?_of_kind_symbol hbad))
      have noNumber := kind_symbol_ne_number position rest noDigit noBlank
      rw [Token.complaint?_eq_none line noBad noNumber]
      simp [Lexeme.symbol, hc]
  | endOfFile => rfl

/-- The diagnostics of the cuts of a text are the complaints of their tokens, in order.
-/
theorem Scans.diagnostics_eq (h : Scans line largest position text lexemes) :
    lexemes.flatMap diagnostics = (lexemes.map token).filterMap (Token.complaint? line) := by
  rw [List.filterMap_map, List.filterMap_eq_flatMap_toList]
  exact List.flatMap_congr fun lexeme hlexeme => (h.isCut lexeme hlexeme).diagnostics_eq

/-- A token that is no number has no value, as values are only worked out for runs of digits. -/
theorem IsCut.value_eq_none (h : IsCut line largest lexeme)
    (noNumber : lexeme.token.kind ≠ .number) : lexeme.token.value = none := by
  cases h with
  | number => exact absurd rfl noNumber
  | _ => rfl

/-- A cut whose token has a value is a number, so all values of a line are those of its runs of
digits. -/
theorem IsCut.kind_of_value (h : IsCut line largest lexeme) (hvalue : lexeme.token.value ≠ none) :
    lexeme.token.kind = .number := by
  by_contra noNumber
  exact hvalue (h.value_eq_none noNumber)

/-- A number of a text is a run of digits, which writes some number in base ten.
That is the value, unless the run is too long or the number too large. -/
theorem IsCut.exists_numeral (h : IsCut line largest lexeme)
    (kind : lexeme.token.kind = .number) :
    ∃ run number, run ≠ [] ∧ IsNumeral run number ∧
      lexeme.token.text = some (String.ofList run) ∧
      lexeme.token.value =
        if run.length ≤ longestNumeral ∧ (number : Int) ≤ largest then some (number : Int)
        else none := by
  cases h with
  | @number position run rest hne digits =>
    exact ⟨run, natOfDigits run, hne, (isNumeral_iff run _).mpr ⟨digits, rfl⟩, rfl, rfl⟩
  | whitespace => exact absurd kind (by simp [Lexeme.whitespace])
  | symbol noDigit noBlank => exact absurd kind (kind_symbol_ne_number _ _ noDigit noBlank)
  | endOfFile => exact absurd kind (by simp [Lexeme.endOfFile, Token.endOfFile])

end Lexeme

/-- The diagnostics of a line that is read to its end are the complaints of its tokens, in the
order of the tokens and one for each that complains. -/
theorem diagnostics_drain (line : String) (largest : Int) :
    (Token.Stream.ofLine line largest).drain.2.diagnostics =
      (lex line largest).filterMap (Token.complaint? line) :=
  (Lexeme.scans_readAll line largest 0 line.toList).diagnostics_eq

/-- The message of the complaint of a token: a bad character is quoted by itself, and a number
without a value quotes the whole line. -/
theorem Token.map_message_complaint? {token : Token} (line : String)
    (admits : token.kind.Admits token.chars) :
    (token.complaint? line).map Diagnostic.message =
      if token.kind = .bad then
        some ("Error: Bad character input->  `" ++ token.shown ++ "`")
      else if token.kind = .number ∧ token.value = none then
        some ("The number " ++ line ++ " is not a valid Int")
      else none := by
  obtain ⟨kind, position, text, value⟩ := token
  cases kind with
  | bad =>
    obtain ⟨c, hchars, -⟩ := admits
    have hshown : (Token.mk .bad position text value).shown = String.singleton c := by
      rw [← String.toList_inj, String.toList_singleton]
      exact hchars
    rw [complaint?, hchars, hshown]
    rfl
  | number => cases value <;> rfl
  | _ => rfl

/-- The values and the diagnostics of a line are exact. A number has a value if
its run of digits has at most 4300 of them and writes, in base ten, a number that
is not above the largest one. Then that is its value. No other token has one. The
diagnostics of the whole line are one message for each bad token and one for each
number without a value, in the order of the tokens, and nothing else. -/
theorem lex_payload (line : String) (largest : Int) :
    let tokens := lex line largest
    (∀ token ∈ tokens, token.kind = .number →
      ∃ run number, run ≠ [] ∧ IsNumeral run number ∧
        token.text = some (String.ofList run) ∧
        token.value =
          if run.length ≤ 4300 ∧ (number : Int) ≤ largest then some (number : Int)
          else none) ∧
    (∀ token ∈ tokens, token.kind ≠ .number → token.value = none) ∧
    (Token.Stream.ofLine line largest).drain.2.diagnostics.map Diagnostic.message =
      tokens.filterMap fun token =>
        if token.kind = .bad then
          some ("Error: Bad character input->  `" ++ token.shown ++ "`")
        else if token.kind = .number ∧ token.value = none then
          some ("The number " ++ line ++ " is not a valid Int")
        else none := by
  intro tokens
  -- Both facts about values are facts about one cut each, and the messages come token by token.
  have scans := Lexeme.scans_readAll line largest 0 line.toList
  refine ⟨fun token htoken kind => ?_, fun token htoken noNumber => ?_, ?_⟩
  · obtain ⟨lexeme, hlexeme, rfl⟩ := List.mem_map.mp htoken
    exact (scans.isCut lexeme hlexeme).exists_numeral kind
  · obtain ⟨lexeme, hlexeme, rfl⟩ := List.mem_map.mp htoken
    exact (scans.isCut lexeme hlexeme).value_eq_none noNumber
  · rw [diagnostics_drain, List.map_filterMap]
    exact List.filterMap_congr fun token htoken =>
      Token.map_message_complaint? line (scans.segmentation.admits token htoken)

end Calculator
