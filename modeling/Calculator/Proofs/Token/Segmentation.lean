import Calculator.Proofs.Token.Scans
import Mathlib.Data.List.Chain

/-!
# `Calculator.Proofs.Token.Segmentation`: the one way to cut a line

`Token.Segmentation` says what a list of tokens must be like to cut a text
into pieces: the pieces make up the text, each stands at its offset and
has a text of its kind, and runs of digits or blanks are not cut in two.
Nothing in it speaks of reading from the front or of longest runs.

* `Lexeme.Scans.segmentation`: the tokens of a text are such a list.
* `Segmentation.map_withoutValue_eq`: there is no other, up to the values
  of numbers, which are no part of a segmentation.

Both rest on `stopsRun_isDigit_iff` and `stopsRun_isBlank_iff`: a text goes
on with a digit exactly if its first piece is a number, and likewise for
blanks. So the runs that are not cut in two are the longest ones.
`lex_unique_segmentation` puts the two together for whole lines.
-/

set_option autoImplicit false

namespace Calculator

open Text

/-! ### Kinds and their texts -/

/-- Whether a token of a kind may have a text. Numbers and blanks have longest runs of their
characters, the end of the line has no text, and all others have single characters. This is said
without the lexer. -/
def Kind.Admits : Kind → List Char → Prop
  | number, text => text ≠ [] ∧ ∀ c ∈ text, isDigit c = true
  | whitespace, text => text ≠ [] ∧ ∀ c ∈ text, isBlank c = true
  | plus, text => text = ['+']
  | minus, text => text = ['-']
  | star, text => text = ['*']
  | slash, text => text = ['/']
  | openParenthesis, text => text = ['(']
  | closeParenthesis, text => text = [')']
  | bad, text => ∃ c, text = [c] ∧ IsBad c
  | endOfFile, text => text = []
  -- No token is an expression.
  | numberExpression, _ | binaryExpression, _ | parenthesizedExpression, _ => False

namespace Kind.Admits

variable {kind : Kind} {text : List Char}

/-- Only the end of the line has no text, so every other token moves on in the line by at least
one character. -/
theorem eq_nil_iff (h : kind.Admits text) : text = [] ↔ kind = .endOfFile := by
  cases kind <;> simp_all [Admits]
  case bad =>
    obtain ⟨c, rfl, _⟩ := h
    simp

/-- The digits are the characters of numbers, and the blanks are those of
blank tokens. -/
theorem class_iff (h : kind.Admits text) :
    ∀ c ∈ text, (isDigit c = true ↔ kind = .number) ∧ (isBlank c = true ↔ kind = .whitespace) := by
  intro c hc
  cases kind with
  | number =>
    have digit := h.2 c hc
    have noBlank : ¬ isBlank c = true := fun blank => by
      simp [isDigit_of_isBlank blank] at digit
    exact ⟨iff_of_true digit rfl, iff_of_false noBlank (by decide)⟩
  | whitespace =>
    have blank := h.2 c hc
    simp [blank, isDigit_of_isBlank blank]
  | bad =>
    obtain ⟨d, rfl, noDigit, noBlank, _⟩ := h
    obtain rfl := List.mem_singleton.mp hc
    simp [noDigit, noBlank]
  | endOfFile =>
    subst h
    exact absurd hc List.not_mem_nil
  | numberExpression | binaryExpression | parenthesizedExpression => exact h.elim
  | _ =>
    -- The six symbols are neither digits nor blanks.
    subst h
    obtain rfl := List.mem_singleton.mp hc
    decide

/-- A text of one class of characters goes on with that class unless it is
of another kind. -/
theorem stopsRun_iff (h : kind.Admits text) {p : Char → Bool} {run : Kind}
    (noEnd : run ≠ .endOfFile) (hclass : ∀ c ∈ text, p c = true ↔ kind = run) :
    StopsRun p text ↔ kind ≠ run := by
  cases text with
  | nil =>
    obtain rfl := h.eq_nil_iff.mp rfl
    exact iff_of_true (by simp [StopsRun]) noEnd.symm
  | cons c cs => simp [StopsRun, ← hclass c List.mem_cons_self]

/-- All other tokens are single characters, and the character decides the kind, which is that of a
bad token if it is no symbol. -/
theorem exists_symbol (h : kind.Admits text) (noNumber : kind ≠ .number)
    (noBlanks : kind ≠ .whitespace) (noEnd : kind ≠ .endOfFile) :
    ∃ c, text = [c] ∧ (ofSymbol? c).getD .bad = kind := by
  cases kind with
  | number | whitespace | endOfFile => contradiction
  | bad =>
    obtain ⟨c, rfl, _, _, noSymbol⟩ := h
    exact ⟨c, rfl, by rw [noSymbol]; rfl⟩
  | numberExpression | binaryExpression | parenthesizedExpression => exact h.elim
  | _ => exact ⟨_, h, rfl⟩

end Kind.Admits

/-- A character that is neither a digit nor a blank is the text of its own token, which is a
symbol or a bad one. -/
theorem Kind.admits_symbol {c : Char} (noDigit : isDigit c = false)
    (noBlank : isBlank c = false) : ((ofSymbol? c).getD .bad).Admits [c] := by
  by_cases hc : ofSymbol? c = none
  · rw [hc]
    exact ⟨c, rfl, noDigit, noBlank, hc⟩
  · unfold ofSymbol? at hc ⊢
    split at hc <;> first | rfl | contradiction

/-! ### Cutting off one token -/

/-- A token without the value that it may have. A segmentation is about texts only, and the value
depends on the largest number too. -/
def Token.withoutValue (token : Token) : Token :=
  { token with value := none }

/-- The text of a token, character by character. The end of the line has none. -/
def Token.chars (token : Token) : List Char :=
  token.shown.toList

/-- Up to its value, a token of a line is its kind, its place and its text. So two tokens that
agree in these three are the same up to their values. -/
theorem Token.withoutValue_eq {token : Token} (real : token.isMissing = false) :
    token.withoutValue = ⟨token.kind, token.position, some (String.ofList token.chars), none⟩ := by
  obtain ⟨kind, position, text, value⟩ := token
  cases text with
  | none => simp [isMissing] at real
  | some text => simp [withoutValue, chars, shown]

namespace Lexeme

/-- A text of a kind is cut off the front of a line as a token of that
kind, unless it is part of a longer run. -/
theorem exists_cut {kind : Kind} {front rest : List Char} (admits : kind.Admits front)
    (noEnd : kind ≠ .endOfFile) (digits : kind = .number → StopsRun isDigit rest)
    (blanks : kind = .whitespace → StopsRun isBlank rest) (line : String) (largest : Int)
    (position : Nat) :
    ∃ lexeme, readAll line largest position (front ++ rest) =
        lexeme :: readAll line largest (position + front.length) rest ∧
      lexeme.token.withoutValue = ⟨kind, position, some (String.ofList front), none⟩ := by
  by_cases hnumber : kind = .number
  · subst hnumber
    exact ⟨_, readAll_number line largest position admits.1 admits.2 (digits rfl), rfl⟩
  by_cases hblank : kind = .whitespace
  · subst hblank
    exact ⟨_, readAll_whitespace line largest position admits.1 admits.2 (blanks rfl), rfl⟩
  · obtain ⟨c, rfl, hkind⟩ := admits.exists_symbol hnumber hblank noEnd
    obtain ⟨digit, blank⟩ := admits.class_iff c List.mem_cons_self
    refine ⟨_, readAll_symbol line largest position rest ?_ ?_, ?_⟩
    · simpa [hnumber] using digit
    · simpa [hblank] using blank
    · simp only [symbol, Token.withoutValue, hkind]
      rw [String.singleton_eq_ofList]

end Lexeme

/-! ### Segmentations -/

/-- Some tokens cut a text that starts at `start` into pieces: their texts are the whole text one
behind the other, each stands at its place and is one that its kind admits, and neither two
numbers nor two tokens of blanks are neighbours. -/
structure Token.Segmentation (start : Nat) (text : List Char) (tokens : List Token) :
    Prop where
  -- No token was made up, and the texts of all of them make up the text.
  real : ∀ token ∈ tokens, token.isMissing = false
  texts : tokens.flatMap chars = text
  -- A token stands behind the texts of those before it.
  positions : ∀ front token behind, tokens = front ++ token :: behind →
    token.position = start + (front.flatMap chars).length
  -- The last token and no other is the end of the text.
  ending : ∃ front last, tokens = front ++ [last] ∧ last.kind = .endOfFile ∧
    last.text = some "" ∧ last.position = start + text.length ∧
    ∀ token ∈ front, token.kind ≠ .endOfFile
  -- The text of a token is one of its kind.
  admits : ∀ token ∈ tokens, token.kind.Admits token.chars
  -- No two numbers stand next to each other, and no two blank tokens.
  apart : tokens.IsChain fun first second =>
    ¬ (first.kind = .number ∧ second.kind = .number) ∧
      ¬ (first.kind = .whitespace ∧ second.kind = .whitespace)

namespace Token.Segmentation

variable {start : Nat} {text : List Char} {token : Token} {tokens : List Token}

/-- The end of a text by itself is the segmentation of the empty text, in which every segmentation
ends. -/
theorem endOfFile (start : Nat) : Segmentation start [] [.endOfFile start] where
  real := by simp [Token.endOfFile, isMissing]
  texts := rfl
  positions := by
    intro front token behind h
    cases front with
    | nil =>
      obtain ⟨rfl, -⟩ := List.cons_eq_cons.mp h
      rfl
    | cons first front => simp at h
  ending := ⟨[], .endOfFile start, rfl, rfl, rfl, rfl, by simp⟩
  admits := by
    intro token htoken
    obtain rfl := List.mem_singleton.mp htoken
    rfl
  apart := .singleton _

/-- A segmentation stays one with one more token in front, if the token's text is one of
its kind and does not run on into the first of the other tokens. -/
theorem cons {kind : Kind} {run : List Char}
    (h : Segmentation (start + run.length) text tokens) (admits : kind.Admits run)
    (noEnd : kind ≠ .endOfFile)
    (htoken : token.withoutValue = ⟨kind, start, some (String.ofList run), none⟩)
    (apart : ∀ next ∈ tokens.head?, ¬ (kind = .number ∧ next.kind = .number) ∧
      ¬ (kind = .whitespace ∧ next.kind = .whitespace)) :
    Segmentation start (run ++ text) (token :: tokens) := by
  obtain ⟨kind', start', text', value⟩ := token
  simp only [withoutValue, mk.injEq, and_true] at htoken
  obtain ⟨rfl, rfl, rfl⟩ := htoken
  have hchars : (Token.mk kind' start' (some (String.ofList run)) value).chars = run :=
    String.toList_ofList
  exact {
    real := List.forall_mem_cons.mpr ⟨rfl, h.real⟩
    texts := by rw [List.flatMap_cons, h.texts, hchars]
    positions := by
      intro front other behind hfront
      cases front with
      | nil =>
        obtain ⟨rfl, -⟩ := List.cons_eq_cons.mp hfront
        rfl
      | cons first front =>
        obtain ⟨rfl, htokens⟩ := List.cons_eq_cons.mp hfront
        rw [h.positions front other behind htokens, List.flatMap_cons, hchars,
          List.length_append, Nat.add_assoc]
    ending := by
      obtain ⟨front, last, rfl, ends, empty, behind, noEndFront⟩ := h.ending
      refine ⟨_ :: front, last, rfl, ends, empty, ?_,
        List.forall_mem_cons.mpr ⟨noEnd, noEndFront⟩⟩
      rw [behind, List.length_append, Nat.add_assoc]
    admits := List.forall_mem_cons.mpr ⟨by rwa [hchars], h.admits⟩
    apart := List.isChain_cons.mpr ⟨apart, h.apart⟩ }

/-- The first token stands where the text starts, and unless the text ends
there, the others cut what is behind it. -/
theorem of_cons (h : Segmentation start text (token :: tokens)) :
    token.position = start ∧ text = token.chars ++ tokens.flatMap chars ∧
      (token.kind = .endOfFile → tokens = []) ∧
      (token.kind ≠ .endOfFile →
        Segmentation (start + token.chars.length) (tokens.flatMap chars) tokens) := by
  have htext : text = token.chars ++ tokens.flatMap chars := h.texts.symm
  obtain ⟨front, last, hfront, kind, empty, behind, noEnd⟩ := h.ending
  refine ⟨h.positions [] token tokens rfl, htext, fun hend => ?_, fun hne => ?_⟩
  · cases front with
    | nil => exact (List.cons_eq_cons.mp hfront).2
    | cons first front =>
      obtain ⟨rfl, -⟩ := List.cons_eq_cons.mp hfront
      exact absurd hend (noEnd _ List.mem_cons_self)
  · cases front with
    | nil =>
      obtain ⟨rfl, -⟩ := List.cons_eq_cons.mp hfront
      exact absurd kind hne
    | cons first front =>
      obtain ⟨rfl, rfl⟩ := List.cons_eq_cons.mp hfront
      exact {
        real := (List.forall_mem_cons.mp h.real).2
        texts := rfl
        positions := by
          intro first other later hlater
          rw [h.positions (token :: first) other later (congrArg (token :: ·) hlater),
            List.flatMap_cons, List.length_append, Nat.add_assoc]
        ending := by
          refine ⟨front, last, rfl, kind, empty, ?_, (List.forall_mem_cons.mp noEnd).2⟩
          rw [behind, htext, List.length_append, Nat.add_assoc]
        admits := (List.forall_mem_cons.mp h.admits).2
        apart := (List.isChain_cons.mp h.apart).2 }

/-- Some token comes first, and the text starts as that token does, so the class of the first
character can be seen from the first token. -/
theorem exists_head (h : Segmentation start text tokens) :
    ∃ next, tokens.head? = some next ∧ next.kind.Admits next.chars ∧
      ∀ p, StopsRun p text ↔ StopsRun p next.chars := by
  cases tokens with
  | nil =>
    obtain ⟨front, last, hfront, -⟩ := h.ending
    simp at hfront
  | cons next tokens =>
    have admits := h.admits next List.mem_cons_self
    obtain ⟨-, htext, hend, -⟩ := h.of_cons
    refine ⟨next, rfl, admits, fun p => ?_⟩
    cases hchars : next.chars with
    | nil =>
      -- If the end comes first, there is no text.
      rw [htext, hchars, hend (admits.eq_nil_iff.mp hchars)]
      rfl
    | cons c cs => simp [htext, hchars, StopsRun]

/-- A text goes on with digits exactly if a number comes first, so a number that ends in front of
the text is a longest run of digits. -/
theorem stopsRun_isDigit_iff (h : Segmentation start text tokens) :
    StopsRun isDigit text ↔ ∀ next ∈ tokens.head?, next.kind ≠ .number := by
  obtain ⟨next, hnext, admits, hstop⟩ := h.exists_head
  rw [hstop, admits.stopsRun_iff (by decide) fun c hc => (admits.class_iff c hc).1, hnext]
  simp

/-- A text goes on with blanks exactly if a blank token comes first, so a run of blanks that ends
in front of the text is a longest one. -/
theorem stopsRun_isBlank_iff (h : Segmentation start text tokens) :
    StopsRun isBlank text ↔ ∀ next ∈ tokens.head?, next.kind ≠ .whitespace := by
  obtain ⟨next, hnext, admits, hstop⟩ := h.exists_head
  rw [hstop, admits.stopsRun_iff (by decide) fun c hc => (admits.class_iff c hc).2, hnext]
  simp

/-- A segmentation is what is cut off the front of the text, token by
token, whatever values the numbers have. -/
theorem map_withoutValue_eq (h : Segmentation start text tokens) (line : String)
    (largest : Int) :
    tokens.map withoutValue =
      (Lexeme.readAll line largest start text).map fun lexeme =>
        lexeme.token.withoutValue := by
  induction tokens generalizing start text with
  | nil =>
    obtain ⟨next, hnext, -⟩ := h.exists_head
    simp at hnext
  | cons token tokens ih =>
    have admits := h.admits token List.mem_cons_self
    have real := h.real token List.mem_cons_self
    obtain ⟨position, rfl, hend, htail⟩ := h.of_cons
    by_cases kind : token.kind = .endOfFile
    · obtain rfl := hend kind
      have empty : token.chars = [] := admits.eq_nil_iff.mpr kind
      rw [empty, List.map_cons, withoutValue_eq real, empty, kind, position,
        List.flatMap_nil, List.append_nil, Lexeme.readAll]
      rfl
    · have tail := htail kind
      -- The token behind a run is of another kind, so the run stops there.
      have apart := (List.isChain_cons.mp h.apart).1
      obtain ⟨lexeme, hcut, htoken⟩ :=
        Lexeme.exists_cut admits kind
          (fun number => tail.stopsRun_isDigit_iff.mpr fun next hnext both =>
            (apart next hnext).1 ⟨number, both⟩)
          (fun blank => tail.stopsRun_isBlank_iff.mpr fun next hnext both =>
            (apart next hnext).2 ⟨blank, both⟩)
          line largest start
      rw [hcut, List.map_cons, List.map_cons, ih tail, htoken, withoutValue_eq real, position]

/-- The text of a token stands in the line at the place of the token, counted from the place where
the line starts. -/
theorem prefix_drop (h : Segmentation start text tokens) (htoken : token ∈ tokens) :
    token.chars <+: text.drop (token.position - start) := by
  obtain ⟨front, behind, rfl⟩ := List.append_of_mem htoken
  rw [← h.texts, h.positions front token behind rfl, Nat.add_sub_cancel_left,
    List.flatMap_append, List.drop_left, List.flatMap_cons]
  exact List.prefix_append _ _

end Token.Segmentation

/-- The tokens that are cut off a text are a segmentation of it. The induction is on the cuts, and
each rule puts one more token in front. -/
theorem Lexeme.Scans.segmentation {line : String} {largest : Int} {position : Nat}
    {text : List Char} {lexemes : List Lexeme}
    (h : Scans line largest position text lexemes) :
    Token.Segmentation position text (lexemes.map token) := by
  induction h with
  | done => exact .endOfFile _
  | @number position run rest lexemes hne digits stop _ ih =>
    have admits : Kind.Admits .number run := ⟨hne, digits⟩
    refine ih.cons admits (by decide) rfl fun next hnext => ⟨?_, by simp⟩
    rintro ⟨-, number⟩
    exact ih.stopsRun_isDigit_iff.mp stop next hnext number
  | @whitespace position run rest lexemes hne blanks stop _ ih =>
    have admits : Kind.Admits .whitespace run := ⟨hne, blanks⟩
    refine ih.cons admits (by decide) rfl fun next hnext => ⟨by simp, ?_⟩
    rintro ⟨-, blank⟩
    exact ih.stopsRun_isBlank_iff.mp stop next hnext blank
  | @symbol position c rest lexemes noDigit noBlank _ ih =>
    have admits := Kind.admits_symbol noDigit noBlank
    obtain ⟨digit, blank⟩ := admits.class_iff c List.mem_cons_self
    refine ih.cons admits (mt admits.eq_nil_iff.mpr (by simp)) ?_ fun next _ => ?_
    · rw [← String.singleton_eq_ofList]
      rfl
    · simp [← digit, ← blank, noDigit, noBlank]

/-- The tokens of a line are the one and only way to cut it into pieces: a
list of tokens that cuts it has the kinds, the places and the texts of
these. -/
theorem lex_unique_segmentation (line : String) (largest : Int) :
    Token.Segmentation 0 line.toList (lex line largest) ∧
      ∀ tokens, Token.Segmentation 0 line.toList tokens →
        tokens.map Token.withoutValue = (lex line largest).map Token.withoutValue := by
  constructor
  · exact (Lexeme.scans_readAll line largest 0 line.toList).segmentation
  · intro tokens h
    show _ = ((Lexeme.readAll line largest 0 line.toList).map Lexeme.token).map
      Token.withoutValue
    rw [h.map_withoutValue_eq line largest, List.map_map]
    rfl

end Calculator
