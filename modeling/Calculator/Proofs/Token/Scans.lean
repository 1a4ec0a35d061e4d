import Calculator.Proofs.Text.Run
import Calculator.Token.Stream

/-!
# `Calculator.Proofs.Token.Scans`: how a line is cut into tokens

`Lexeme.readAll` cuts one token after another off the front of a text.
`Scans` spells this out with one rule for each kind of cut: a longest run
of digits, a longest run of blanks, a single character of another class,
and the end. `scans_readAll` says that every text is cut by these rules,
and the equations `readAll_number`, `readAll_whitespace` and
`readAll_symbol` say that each rule is what `Lexeme.readAll` does.

The rules give what later proofs need to know of a line.

* `map_token_readAll`: the cuts depend on the text alone, so two readings of
  it have corresponding tokens.
* `Scans.lineFrom`: the tokens end with the end of the line, which no
  other token is, none of them is made up, and their positions increase.
* `Scans.diagnostics_eq_nil_iff`: nothing is wrong with the tokens exactly
  if the text has no bad character and every digit run of it is short
  enough and small enough, which are conditions on the text alone.
-/

set_option autoImplicit false

namespace Calculator

open Text

namespace Lexeme

/-! ### The cuts -/

/-- A longest run of digits at the front is cut off as a number, whether or not it has a value,
and the rest is read from the place behind it. -/
theorem readAll_number (line : String) (largest : Int) (position : Nat)
    {run rest : List Char} (hne : run ≠ []) (digits : ∀ c ∈ run, isDigit c = true)
    (stop : StopsRun isDigit rest) :
    readAll line largest position (run ++ rest) =
      number line largest position run rest ::
        readAll line largest (position + run.length) rest := by
  match run, hne with
  | c :: run, _ =>
    have hc : isDigit c = true := digits c List.mem_cons_self
    have hrun : ∀ d ∈ run, isDigit d = true := fun d hd =>
      digits d (List.mem_cons_of_mem c hd)
    rw [List.cons_append, readAll]
    simp only [read, if_pos hc, takeWhile_run hrun stop, dropWhile_run hrun stop]
    rfl

/-- A longest run of blanks at the front is cut off as one token, and the rest is read from the
place behind it. -/
theorem readAll_whitespace (line : String) (largest : Int) (position : Nat)
    {run rest : List Char} (hne : run ≠ []) (blanks : ∀ c ∈ run, isBlank c = true)
    (stop : StopsRun isBlank rest) :
    readAll line largest position (run ++ rest) =
      whitespace position run rest ::
        readAll line largest (position + run.length) rest := by
  match run, hne with
  | c :: run, _ =>
    have hc : isBlank c = true := blanks c List.mem_cons_self
    have hrun : ∀ d ∈ run, isBlank d = true := fun d hd =>
      blanks d (List.mem_cons_of_mem c hd)
    rw [List.cons_append, readAll]
    simp only [read, isDigit_of_isBlank hc, if_pos hc, takeWhile_run hrun stop,
      dropWhile_run hrun stop, Bool.false_eq_true, if_false]
    rfl

/-- Any character that is neither a digit nor a blank is cut off by itself, as an operator, as a
parenthesis or as a bad character. -/
theorem readAll_symbol (line : String) (largest : Int) (position : Nat) {c : Char}
    (rest : List Char) (noDigit : isDigit c = false) (noBlank : isBlank c = false) :
    readAll line largest position (c :: rest) =
      symbol position c rest :: readAll line largest (position + 1) rest := by
  rw [readAll]
  simp only [read, noDigit, noBlank, Bool.false_eq_true, if_false]
  rfl

/-- How a text is cut into tokens, cut by cut. There is one rule for the end of the text and one
for each sort of piece, and a proof about all tokens of a line is an induction on these rules. -/
inductive Scans (line : String) (largest : Int) :
    Nat → List Char → List Lexeme → Prop where
  -- At the end of the text stands its last token.
  | done {position : Nat} : Scans line largest position [] [endOfFile position]
  -- A longest run of digits is a number.
  | number {position : Nat} {run rest : List Char} {lexemes : List Lexeme}
    (hne : run ≠ []) (digits : ∀ c ∈ run, isDigit c = true) (stop : StopsRun isDigit rest)
    (tail : Scans line largest (position + run.length) rest lexemes) :
    Scans line largest position (run ++ rest)
      (Lexeme.number line largest position run rest :: lexemes)
  -- A longest run of blanks is one token.
  | whitespace {position : Nat} {run rest : List Char} {lexemes : List Lexeme}
    (hne : run ≠ []) (blanks : ∀ c ∈ run, isBlank c = true) (stop : StopsRun isBlank rest)
    (tail : Scans line largest (position + run.length) rest lexemes) :
    Scans line largest position (run ++ rest)
      (Lexeme.whitespace position run rest :: lexemes)
  -- Any other character is a token by itself.
  | symbol {position : Nat} {c : Char} {rest : List Char} {lexemes : List Lexeme}
    (noDigit : isDigit c = false) (noBlank : isBlank c = false)
    (tail : Scans line largest (position + 1) rest lexemes) :
    Scans line largest position (c :: rest) (Lexeme.symbol position c rest :: lexemes)

/-- Every text is cut by these rules, as the first character decides which of them applies. The
induction is on the length of the text, since a rule may take a whole run. -/
theorem scans_readAll (line : String) (largest : Int) (position : Nat) (text : List Char) :
    Scans line largest position text (readAll line largest position text) := by
  induction hlength : text.length using Nat.strongRecOn generalizing position text with
  | ind length ih =>
    match text with
    | [] =>
      rw [readAll]
      exact .done
    | c :: cs =>
      -- The class of the first character decides which rule cuts.
      by_cases hdigit : isDigit c = true
      · obtain ⟨run, rest, htext, hne, digits, stop⟩ := exists_run_cons cs hdigit
        rw [htext] at hlength ⊢
        rw [readAll_number line largest position hne digits stop]
        have := List.length_pos_iff.mpr hne
        exact .number hne digits stop (ih _ (by simp at hlength; omega) _ _ rfl)
      · by_cases hblank : isBlank c = true
        · obtain ⟨run, rest, htext, hne, blanks, stop⟩ := exists_run_cons cs hblank
          rw [htext] at hlength ⊢
          rw [readAll_whitespace line largest position hne blanks stop]
          have := List.length_pos_iff.mpr hne
          exact .whitespace hne blanks stop (ih _ (by simp at hlength; omega) _ _ rfl)
        · rw [Bool.not_eq_true] at hdigit hblank
          rw [readAll_symbol line largest position cs hdigit hblank]
          exact .symbol hdigit hblank (ih _ (by simp at hlength; omega) _ _ rfl)

/-- Where a text is cut depends neither on the line it is part of, nor on
where it stands there, nor on the largest number. So the tokens of two
readings correspond if the numbers do, and all other tokens. -/
theorem map_token_readAll {f : Token → Token} {line other : String}
    {largest otherLargest : Int} {shift : Nat}
    (numbers : ∀ position run rest,
      (number other otherLargest (position + shift) run rest).token =
        f (number line largest position run rest).token)
    (others : ∀ kind position text,
      ⟨kind, position + shift, some text, none⟩ = f ⟨kind, position, some text, none⟩)
    (position : Nat) (text : List Char) :
    (readAll other otherLargest (position + shift) text).map token =
      ((readAll line largest position text).map token).map f := by
  -- By induction on the cuts of the one reading, which are those of the other too.
  have scans := scans_readAll line largest position text
  generalize readAll line largest position text = lexemes at scans
  induction scans with
  | done =>
    rw [readAll]
    exact congrArg (fun last => [last]) (others .endOfFile _ "")
  | @number position run rest lexemes hne digits stop _ ih =>
    rw [readAll_number other otherLargest _ hne digits stop, Nat.add_right_comm]
    exact List.cons_eq_cons.mpr ⟨numbers position run rest, ih⟩
  | @whitespace position run rest lexemes hne blanks stop _ ih =>
    rw [readAll_whitespace other otherLargest _ hne blanks stop, Nat.add_right_comm]
    exact List.cons_eq_cons.mpr ⟨others .whitespace position _, ih⟩
  | @symbol position c rest lexemes noDigit noBlank _ ih =>
    rw [readAll_symbol other otherLargest _ _ noDigit noBlank, Nat.add_right_comm]
    exact List.cons_eq_cons.mpr ⟨others _ position _, ih⟩

/-! ### The tokens of a line -/

end Lexeme

/-- Whether a kind is one of expressions. No token of a line has such a kind, only the nodes of
its tree do. -/
def Kind.isExpression : Kind → Bool
  | numberExpression | binaryExpression | parenthesizedExpression => true
  | _ => false

/-- What the tokens of every line have in common, the last of which is the
end of the line. -/
structure Token.IsLine (tokens : List Token) (last : Token) : Prop where
  -- The last token is the end of the line.
  ends : last.kind = .endOfFile
  -- No other token is.
  noEnd : ∀ token ∈ tokens, token.kind ≠ .endOfFile
  -- Tokens have the kinds of tokens.
  noExpression : ∀ token ∈ tokens, token.kind.isExpression = false
  -- No token was made up.
  real : ∀ token ∈ tokens ++ [last], token.isMissing = false
  -- Every token starts behind the one before.
  increasing : (tokens ++ [last]).Pairwise fun a b => a.position < b.position

/-- A line is still one without some of its tokens, as long as it keeps the last. The parser reads
such a line, with only the significant tokens left. -/
theorem Token.IsLine.filter {tokens : List Token} {last : Token} (h : IsLine tokens last)
    (p : Token → Bool) : IsLine (tokens.filter p) last where
  ends := h.ends
  noEnd := fun token htoken => h.noEnd token ((List.mem_filter.mp htoken).1)
  noExpression := fun token htoken => h.noExpression token ((List.mem_filter.mp htoken).1)
  real := by
    intro token htoken
    refine h.real token ?_
    rcases List.mem_append.mp htoken with htoken | htoken
    · exact List.mem_append_left _ ((List.mem_filter.mp htoken).1)
    · exact List.mem_append_right _ htoken
  increasing := by
    refine h.increasing.sublist ?_
    exact (List.filter_sublist (p := p)).append (List.Sublist.refl [last])

/-- A line is still one with a token in front, if that is a token of the
line and stands before all others. -/
theorem Token.IsLine.cons {token : Token} {tokens : List Token} {last : Token}
    (h : IsLine tokens last) (noEnd : token.kind ≠ .endOfFile)
    (noExpression : token.kind.isExpression = false) (real : token.isMissing = false)
    (first : ∀ later ∈ tokens ++ [last], token.position < later.position) :
    IsLine (token :: tokens) last where
  ends := h.ends
  noEnd := List.forall_mem_cons.mpr ⟨noEnd, h.noEnd⟩
  noExpression := List.forall_mem_cons.mpr ⟨noExpression, h.noExpression⟩
  real := List.forall_mem_cons.mpr ⟨real, h.real⟩
  increasing := .cons first h.increasing

namespace Lexeme

/-- The tokens of some lexemes are those of a line from `position` on, and
`last` is the last of them. -/
def LineFrom (position : Nat) (last : Token) (lexemes : List Lexeme) : Prop :=
  ∃ tokens, lexemes.map token = tokens ++ [last] ∧ Token.IsLine tokens last ∧
    ∀ token ∈ tokens ++ [last], position ≤ token.position

/-- A line stays a line with one more lexeme in front of it, which is neither its end
nor an expression and takes up at least one character. -/
theorem LineFrom.cons {position width : Nat} {last : Token} {lexeme : Lexeme}
    {lexemes : List Lexeme} (h : LineFrom (position + width) last lexemes)
    (hwidth : 0 < width) (hposition : lexeme.token.position = position)
    (noEnd : lexeme.token.kind ≠ .endOfFile)
    (noExpression : lexeme.token.kind.isExpression = false)
    (real : lexeme.token.isMissing = false) :
    LineFrom position last (lexeme :: lexemes) := by
  obtain ⟨tokens, htokens, hline, hfrom⟩ := h
  refine ⟨lexeme.token :: tokens, congrArg (lexeme.token :: ·) htokens,
    hline.cons noEnd noExpression real fun later hlater => ?_, ?_⟩
  · have := hfrom later hlater
    omega
  · intro token htoken
    rcases List.mem_cons.mp htoken with rfl | htoken
    · exact Nat.le_of_eq hposition.symm
    · have := hfrom token htoken
      omega

/-- The kinds of single characters are kinds of tokens within a line: none of them is the end of
the line, and none is a kind of expressions. -/
theorem kind_symbol (position : Nat) (c : Char) (rest : List Char) :
    (symbol position c rest).token.kind ≠ .endOfFile ∧
      (symbol position c rest).token.kind.isExpression = false := by
  simp only [symbol]
  unfold Kind.ofSymbol?
  split <;> exact ⟨by decide, rfl⟩

/-- A single character becomes a bad token only if it is no symbol of the language. -/
theorem ofSymbol?_of_kind_symbol {position : Nat} {c : Char} {rest : List Char}
    (h : (symbol position c rest).token.kind = .bad) : Kind.ofSymbol? c = none := by
  simp only [symbol] at h
  unfold Kind.ofSymbol? at h ⊢
  split at h <;> first | contradiction | rfl

variable {line : String} {largest : Int} {position : Nat} {text : List Char}
  {lexemes : List Lexeme}

/-- The tokens of a text are those of a line from the place where the text starts, and the end of
the line stands behind the last character. -/
theorem Scans.lineFrom (h : Scans line largest position text lexemes) :
    LineFrom position (.endOfFile (position + text.length)) lexemes := by
  induction h with
  | done =>
    refine ⟨[], rfl, ⟨rfl, by simp, by simp, ?_, by simp⟩, ?_⟩
    · simp [Token.endOfFile, Token.isMissing]
    · simp [Token.endOfFile]
  | number hne _ _ _ ih =>
    rw [List.length_append, ← Nat.add_assoc]
    exact ih.cons (List.length_pos_iff.mpr hne) rfl (by simp [Lexeme.number]) rfl rfl
  | whitespace hne _ _ _ ih =>
    rw [List.length_append, ← Nat.add_assoc]
    exact ih.cons (List.length_pos_iff.mpr hne) rfl (by simp [Lexeme.whitespace]) rfl rfl
  | @symbol position c rest lexemes _ _ _ ih =>
    obtain ⟨noEnd, noExpression⟩ := kind_symbol position c rest
    rw [List.length_cons, Nat.add_comm rest.length, ← Nat.add_assoc]
    exact ih.cons Nat.one_pos rfl noEnd noExpression rfl

end Lexeme

/-! ### When nothing is wrong -/

/-- Whether a run of digits is a number that has a value: it has at most 4300 digits, and its
value is not above the largest number. -/
def IsAccepted (largest : Int) (run : List Char) : Prop :=
  run.length ≤ longestNumeral ∧ (natOfDigits run : Int) ≤ largest

/-- A run has a value exactly if it is accepted, and then the value is the number that its digits
write. -/
theorem isSome_numberValue?_iff (largest : Int) (run : List Char) :
    (numberValue? largest run).isSome = true ↔ IsAccepted largest run := by
  unfold numberValue? IsAccepted
  split <;> simp_all

namespace Lexeme

variable {line : String} {largest : Int} {position : Nat} {text : List Char}
  {lexemes : List Lexeme}

/-- Nothing is reported for a number exactly if it is accepted. Otherwise there is one diagnostic,
and it quotes the whole line. -/
theorem diagnostics_number_eq_nil_iff (line : String) (largest : Int) (position : Nat)
    (run rest : List Char) :
    (number line largest position run rest).diagnostics = [] ↔ IsAccepted largest run := by
  rw [← isSome_numberValue?_iff]
  simp only [number]
  split <;> simp_all

/-- Nothing is wrong with a single character of no other class exactly if
it is a symbol. -/
theorem diagnostics_symbol_eq_nil_iff (position : Nat) {c : Char} (rest : List Char)
    (noDigit : isDigit c = false) (noBlank : isBlank c = false) :
    (symbol position c rest).diagnostics = [] ↔ ¬ IsBad c := by
  simp only [symbol, IsBad, noDigit, noBlank, true_and]
  cases Kind.ofSymbol? c <;> simp

/-- Nothing is wrong with the tokens of a text exactly if it has no bad
character and all its runs of digits are accepted. -/
theorem Scans.diagnostics_eq_nil_iff (h : Scans line largest position text lexemes) :
    lexemes.flatMap diagnostics = [] ↔
      (∀ c ∈ text, ¬ IsBad c) ∧ ∀ run, IsDigitRun run text → IsAccepted largest run := by
  induction h with
  | @done position =>
    have noRun : ∀ run, IsDigitRun run [] → IsAccepted largest run := fun run hrun =>
      absurd hrun (not_isDigitRun_nil run)
    simpa [endOfFile] using noRun
  | @number position run rest lexemes hne digits stop _ ih =>
    have noBad : ∀ c ∈ run, ¬ IsBad c := fun c hc => not_isBad_of_isDigit (digits c hc)
    rw [List.flatMap_cons, List.append_eq_nil_iff, ih, diagnostics_number_eq_nil_iff,
      List.forall_mem_append]
    simp only [isDigitRun_append hne digits stop, forall_eq_or_imp]
    constructor
    · rintro ⟨accepted, noBadRest, acceptedRest⟩
      exact ⟨⟨noBad, noBadRest⟩, accepted, acceptedRest⟩
    · rintro ⟨⟨_, noBadRest⟩, accepted, acceptedRest⟩
      exact ⟨accepted, noBadRest, acceptedRest⟩
  | @whitespace position run rest lexemes _ blanks _ _ ih =>
    have noBad : ∀ c ∈ run, ¬ IsBad c := fun c hc => not_isBad_of_isBlank (blanks c hc)
    have noDigits : ∀ c ∈ run, isDigit c = false := fun c hc =>
      isDigit_of_isBlank (blanks c hc)
    have nothing : (Lexeme.whitespace position run rest).diagnostics = [] := rfl
    rw [List.flatMap_cons, nothing, List.nil_append, ih, List.forall_mem_append]
    simp only [isDigitRun_append_of_noDigits noDigits]
    exact and_congr_left fun _ => (and_iff_right noBad).symm
  | @symbol position c rest lexemes noDigit noBlank _ ih =>
    rw [List.flatMap_cons, List.append_eq_nil_iff, ih,
      diagnostics_symbol_eq_nil_iff position rest noDigit noBlank, List.forall_mem_cons,
      and_assoc]
    simp only [isDigitRun_cons noDigit]

/-- If a text has no bad character, none of its tokens is bad, as a bad token is always a single
character. -/
theorem Scans.kind_ne_bad (h : Scans line largest position text lexemes)
    (noBad : ∀ c ∈ text, ¬ IsBad c) :
    ∀ cut ∈ lexemes.map Lexeme.token, cut.kind ≠ .bad := by
  induction h with
  | done => simp [endOfFile, Token.endOfFile]
  | number _ _ _ _ ih =>
    rw [List.map_cons, List.forall_mem_cons]
    exact ⟨by simp [Lexeme.number], ih (List.forall_mem_append.mp noBad).2⟩
  | whitespace _ _ _ _ ih =>
    rw [List.map_cons, List.forall_mem_cons]
    exact ⟨by simp [Lexeme.whitespace], ih (List.forall_mem_append.mp noBad).2⟩
  | @symbol position c rest lexemes noDigit noBlank _ ih =>
    obtain ⟨hc, hrest⟩ := List.forall_mem_cons.mp noBad
    rw [List.map_cons, List.forall_mem_cons]
    exact ⟨fun hbad => hc ⟨noDigit, noBlank, ofSymbol?_of_kind_symbol hbad⟩, ih hrest⟩

end Lexeme

end Calculator
