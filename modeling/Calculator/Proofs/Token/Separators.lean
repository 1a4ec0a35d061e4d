import Calculator.Proofs.Expr.Alike
import Calculator.Proofs.Token.Adds

/-!
# `Calculator.Proofs.Token.Separators`: the tokens of a text in two parts

Where a text is cut in two and no run of digits is cut, its significant
tokens are those of the first part followed by those of the second.

* `significant_append`: the tokens of the first part do not depend on what
  stands behind it, nor on the rest of the line.
* `map_token_readAll_add`: those of the second part depend on what stands
  before it only in their positions.
* `significant_separators`: blanks and bad characters have no significant
  tokens, so what stands behind them comes next.

Blanks may well be cut. A run of them is one token, but not a significant
one. `significant_separated` puts the three together for two texts with
something between them that separates them.
-/

set_option autoImplicit false

namespace Calculator

open Text

/-- Whether two parts of a line can be put together without cutting a run of digits in two: the
first does not end with a digit, or the second does not start with one. -/
def Apart (front behind : List Char) : Prop :=
  ∀ c ∈ front.getLast?, ∀ d ∈ behind.head?, ¬ (isDigit c = true ∧ isDigit d = true)

/-- What stands apart from a text stands apart from the end of the text, as only the last
character of the front matters. -/
theorem Apart.of_append {front middle behind : List Char} (h : Apart (front ++ middle) behind) :
    Apart middle behind := by
  intro c hc d hd
  refine h c ?_ d hd
  rw [List.getLast?_append, Option.mem_def.mp hc]
  rfl

/-- A run of digits that stands apart from a text is stopped by it, so it is a longest run and
becomes a number of its own. -/
theorem Apart.stopsRun {run behind : List Char} (h : Apart run behind) (hne : run ≠ [])
    (digits : ∀ c ∈ run, isDigit c = true) : StopsRun isDigit behind := by
  intro d hd
  rw [Bool.eq_false_iff]
  intro hdigit
  exact h (run.getLast hne) (List.getLast?_eq_some_getLast hne) d hd
    ⟨digits _ (List.getLast_mem hne), hdigit⟩

/-- Blanks and bad characters between two texts. There has to be one if
digits would meet without it. -/
structure Separates (front behind separator : String) : Prop where
  chars : ∀ c ∈ separator.toList, isBlank c = true ∨ IsBad c
  apart : separator = "" → Apart front.toList behind.toList

/-- What is separated from a text does not go on with its digits, as a separator has none itself
and is only empty where the texts stand apart. -/
theorem Separates.apart_append {front behind separator : String}
    (h : Separates front behind separator) :
    Apart front.toList (separator.toList ++ behind.toList) := by
  cases hchars : separator.toList with
  | nil => exact h.apart (String.toList_eq_nil_iff.mp hchars)
  | cons c cs =>
    rintro _ _ _ ⟨⟩ ⟨_, digit⟩
    have separates := h.chars c (by rw [hchars]; exact List.mem_cons_self)
    rcases separates with blank | bad
    · simp [isDigit_of_isBlank blank] at digit
    · exact not_isBad_of_isDigit digit bad

namespace Lexeme

variable {line : String} {largest : Int} {position : Nat} {front : List Char}
  {lexemes : List Lexeme}

/-- The first lexeme has a significant token or none, so significant tokens are counted lexeme by
lexeme. -/
theorem significant_cons (lexeme : Lexeme) (lexemes : List Lexeme) :
    significant (lexeme :: lexemes) = significant [lexeme] ++ significant lexemes :=
  List.filter_append [lexeme.token] (lexemes.map token)

/-- The significant tokens of a text are the same whatever stands behind it,
as long as no run of digits goes on there. Nor do they depend on the rest of
the line. -/
theorem Scans.significant_append (h : Scans line largest position front lexemes) :
    ∃ tokens, significant lexemes = tokens ++ [Token.endOfFile (position + front.length)] ∧
      ∀ (other : String) (rest : List Char), Apart front rest →
        significant (readAll other largest position (front ++ rest)) =
          tokens ++ significant (readAll other largest (position + front.length) rest) := by
  induction h with
  | done => exact ⟨[], rfl, fun other rest _ => rfl⟩
  | @number position run behind lexemes hne digits stop _ ih =>
    obtain ⟨tokens, hend, happend⟩ := ih
    refine ⟨significant [Lexeme.number line largest position run behind] ++ tokens, ?_, ?_⟩
    · rw [significant_cons, hend, List.append_assoc, List.length_append, Nat.add_assoc]
    · intro other rest apart
      -- The run is a longest one with the text behind it, too.
      have stopped : StopsRun isDigit (behind ++ rest) := by
        cases behind with
        | nil => exact (by simpa using apart : Apart run rest).stopsRun hne digits
        | cons c cs => exact stop
      rw [List.append_assoc, readAll_number other largest position hne digits stopped,
        significant_cons, happend other rest apart.of_append, List.append_assoc,
        List.length_append, Nat.add_assoc]
      rfl
  | @whitespace position run behind lexemes hne blanks stop _ ih =>
    obtain ⟨tokens, hend, happend⟩ := ih
    refine ⟨tokens, ?_, fun other rest apart => ?_⟩
    · rw [significant_cons, hend, List.length_append, Nat.add_assoc]
      rfl
    · -- Blanks may go on behind the text, but they add nothing.
      rw [List.append_assoc, (adds_blanks blanks (behind ++ rest)).significant_eq,
        happend other rest apart.of_append, List.length_append, Nat.add_assoc]
      rfl
  | @symbol position c behind lexemes noDigit noBlank _ ih =>
    obtain ⟨tokens, hend, happend⟩ := ih
    have length : position + (c :: behind).length = position + 1 + behind.length := by
      rw [List.length_cons]
      omega
    refine ⟨significant [Lexeme.symbol position c behind] ++ tokens, ?_, ?_⟩
    · rw [significant_cons, hend, List.append_assoc, length]
    · intro other rest apart
      have later : Apart behind rest := (show Apart ([c] ++ behind) rest from apart).of_append
      rw [List.cons_append, readAll_symbol other largest position _ noDigit noBlank,
        significant_cons, happend other rest later, List.append_assoc, length]
      rfl

/-- Blanks and bad characters have no significant tokens, whatever stands
behind them. -/
theorem significant_separators {separators : List Char}
    (h : ∀ c ∈ separators, isBlank c = true ∨ IsBad c) (line : String) (largest : Int)
    (position : Nat) (rest : List Char) :
    significant (readAll line largest position (separators ++ rest)) =
      significant (readAll line largest (position + separators.length) rest) := by
  induction separators generalizing position with
  | nil => rfl
  | cons c separators ih =>
    obtain ⟨hc, hseparators⟩ := List.forall_mem_cons.mp h
    have length : position + (c :: separators).length = position + 1 + separators.length := by
      rw [List.length_cons]
      omega
    rw [length, ← ih hseparators]
    rcases hc with blank | ⟨noDigit, noBlank, noSymbol⟩
    · exact (adds_blank blank (separators ++ rest)).significant_eq
    · -- A bad character is a token, but not a significant one.
      have bad : significant [Lexeme.symbol position c (separators ++ rest)] = [] := by
        simp [significant, Lexeme.symbol, noSymbol, Kind.isSignificant]
      rw [List.cons_append, readAll_symbol line largest position _ noDigit noBlank,
        significant_cons, bad, List.nil_append]

/-- Further on in any line, a text has the same tokens at positions further on. Neither the line
around it nor the place decides how it is cut. -/
theorem map_token_readAll_add (line other : String) (largest : Int) (position shift : Nat)
    (text : List Char) :
    (readAll other largest (position + shift) text).map token =
      ((readAll line largest position text).map token).map (Token.relocate (· + shift)) :=
  map_token_readAll (fun _ _ _ => rfl) (fun _ _ _ => rfl) position text

/-- The significant tokens of a text do not depend on the line that is quoted, and they
move with the text. -/
theorem significant_readAll_add (line other : String) (largest : Int) (position shift : Nat)
    (text : List Char) :
    significant (readAll other largest (position + shift) text) =
      (significant (readAll line largest position text)).map (Token.relocate (· + shift)) := by
  rw [significant, map_token_readAll_add line other, List.filter_map]
  rfl

/-- The significant tokens of a line in two parts with a separator between
them are those of the parts, whatever the separator is. Those of the first
part stand in it, and those of the second part are moved behind the
separator. -/
theorem significant_separated (front behind : String) (largest : Int) :
    ∃ tokens later : List Token, (∀ token ∈ tokens, token.position < front.length) ∧
      ∀ separator, Separates front behind separator →
        let line := front ++ separator ++ behind
        significant (readAll line largest 0 line.toList) =
          tokens ++ later.map (Token.relocate (· + (front.length + separator.length))) := by
  have scans := scans_readAll front largest 0 front.toList
  obtain ⟨tokens, hend, happend⟩ := scans.significant_append
  refine ⟨tokens, significant (readAll behind largest 0 behind.toList), ?_, ?_⟩
  · -- The end of the first part stands behind all its tokens.
    obtain ⟨all, hall, isLine, -⟩ := scans.lineFrom
    have increasing := (isLine.filter fun token => token.kind.isSignificant).increasing
    have htokens : tokens = all.filter fun token => token.kind.isSignificant := by
      rw [significant, hall, List.filter_append] at hend
      exact (List.append_cancel_right hend).symm
    intro token htoken
    have before := (List.pairwise_append.mp increasing).2.2 token (htokens ▸ htoken) _
      (List.mem_singleton.mpr rfl)
    have ends : 0 + front.toList.length = front.length := by
      rw [Nat.zero_add, String.length_toList]
    exact Nat.lt_of_lt_of_eq before ends
  · intro separator h line
    have hline : line.toList = front.toList ++ (separator.toList ++ behind.toList) := by
      simp [line]
    rw [hline, happend line _ h.apart_append, significant_separators h.chars,
      Nat.add_assoc, significant_readAll_add behind line, String.length_toList,
      String.length_toList]

end Lexeme

end Calculator
