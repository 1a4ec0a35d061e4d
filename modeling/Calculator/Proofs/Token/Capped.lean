import Calculator.Proofs.Grammar.Renaming
import Calculator.Proofs.Token.Payload

/-!
# `Calculator.Proofs.Token.Capped`: what the largest number is for

The largest number decides which numbers have a value, and nothing else
about the tokens of a line. With a smaller one, the numbers above it have
lost theirs, which is what `Token.capped` does to a token
(`lex_eq_map_capped`).

A number without a value is wrong, so more may be wrong with the tokens
under the smaller one. Everything that is wrong under the larger one still
is, in the same order (`diagnostics_drain_sublist`).
-/

set_option autoImplicit false

namespace Calculator

/-- The token without its value, if that is above the largest number. This is the token that a
smaller largest number would have given. -/
def Token.capped (largest : Int) (token : Token) : Token :=
  { token with value := token.value.filter (· ≤ largest) }

/-- Taking values away changes no kinds, and a token that was made up has none to lose. So the
parser does the same with either token. -/
theorem Token.isRenaming_capped (largest : Int) : IsRenaming (capped largest) :=
  ⟨fun _ => rfl, fun _ _ => rfl⟩

/-- A token keeps its value, or it has one that is too large and loses it. Nothing else about a
token depends on the largest number. -/
theorem Token.capped_cases (largest : Int) (token : Token) :
    token.capped largest = token ∨
      (token.capped largest).value = none ∧ token.value ≠ none := by
  obtain ⟨kind, position, text, value⟩ := token
  cases value with
  | none => exact Or.inl rfl
  | some value =>
    rcases lt_or_ge largest value with large | small
    · exact Or.inr ⟨by simpa [capped] using large, Option.some_ne_none value⟩
    · exact Or.inl (by simpa [capped] using small)

/-- A run of digits has the same value under a smaller largest number, as
long as the value is not above it. -/
theorem numberValue?_eq_filter {smaller larger : Int} (hle : smaller ≤ larger)
    (run : List Char) :
    numberValue? smaller run = (numberValue? larger run).filter (· ≤ smaller) := by
  unfold numberValue?
  rw [apply_ite (Option.filter _), Option.filter_none, Option.filter_some]
  by_cases small : (Text.natOfDigits run : Int) ≤ smaller
  · simp only [small, Int.le_trans small hle, and_true, decide_true, if_true]
  · simp [small]

/-- Under a smaller largest number, the tokens of a line are the same, and
the numbers above it have no value. -/
theorem lex_eq_map_capped {smaller larger : Int} (hle : smaller ≤ larger) (line : String) :
    lex line smaller = (lex line larger).map (Token.capped smaller) := by
  have numbers : ∀ position run rest,
      (Lexeme.number line smaller (position + 0) run rest).token =
        (Lexeme.number line larger position run rest).token.capped smaller := by
    intro position run rest
    simp only [Lexeme.number, Token.capped, numberValue?_eq_filter hle]
    rfl
  exact Lexeme.map_token_readAll numbers (fun _ _ _ => rfl) 0 line.toList

/-- Taking its value away adds a complaint to a token that had none, or changes nothing about what
is wrong with it. -/
theorem Token.complaint?_capped (line : String) (largest : Int) (token : Token) :
    token.complaint? line = none ∨
      token.complaint? line = (token.capped largest).complaint? line := by
  obtain ⟨kind, position, text, value⟩ := token
  cases kind with
  | number =>
    cases value with
    | none => exact Or.inr rfl
    | some value => exact Or.inl rfl
  | _ => exact Or.inr rfl

/-- What is wrong with some tokens is still wrong, in the same order, when
values were taken away. -/
theorem complaints_sublist (line : String) (largest : Int) (tokens : List Token) :
    (tokens.filterMap (Token.complaint? line)).Sublist
      ((tokens.map (Token.capped largest)).filterMap (Token.complaint? line)) := by
  induction tokens with
  | nil => exact .slnil
  | cons token tokens ih =>
    rw [List.map_cons]
    rcases token.complaint?_capped line largest with nothing | same
    · rw [List.filterMap_cons_none nothing]
      exact ih.trans ((List.sublist_cons_self _ _).filterMap _)
    · rw [List.filterMap_cons, List.filterMap_cons, ← same]
      cases token.complaint? line with
      | none => exact ih
      | some complaint => exact ih.cons_cons complaint

/-- Everything that is wrong with the tokens of a line is also wrong with
them under a smaller largest number. -/
theorem diagnostics_drain_sublist {smaller larger : Int} (hle : smaller ≤ larger)
    (line : String) :
    (Token.Stream.ofLine line larger).drain.2.diagnostics.Sublist
      (Token.Stream.ofLine line smaller).drain.2.diagnostics := by
  rw [diagnostics_drain, diagnostics_drain, lex_eq_map_capped hle]
  exact complaints_sublist line smaller (lex line larger)

end Calculator
