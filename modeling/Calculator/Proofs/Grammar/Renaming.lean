import Calculator.Proofs.Expr.Alike
import Calculator.Proofs.Grammar.Reads

/-!
# `Calculator.Proofs.Grammar.Renaming`: reading other tokens of the same kinds

Reading depends on the kinds of tokens alone. Their positions are only
handed on, to tokens that are made up, and their texts and values are not
looked at. So tokens can be replaced by others of the same kinds before or
after they are read. `Token.IsRenaming` says what a replacement has to do
for that, and `read_mapTokens` that it is enough.

It follows from `Reads.mapTokens`, which replaces the tokens in a
derivation, rule by rule.
-/

set_option autoImplicit false

namespace Calculator

/-- Whether a replacement of tokens leaves their kinds as they are, and
replaces a token that was made up at the place of another by one that is
made up at its new place. -/
structure Token.IsRenaming (f : Token → Token) : Prop where
  kind : ∀ token, (f token).kind = token.kind
  missing : ∀ (kind : Kind) (token : Token),
    f (.missing kind token.position) = .missing kind (f token).position

/-- Moving positions is a replacement that keeps kinds, and it takes made-up tokens to made-up
ones. -/
theorem Token.isRenaming_relocate (move : Nat → Nat) : IsRenaming (relocate move) :=
  ⟨fun _ => rfl, fun _ _ => rfl⟩

/-- The reading with every token replaced, in the expression and among those that are left. What
is reported names kinds and the limit only, so it stays. -/
def Reading.mapTokens (f : Token → Token) (reading : Reading) : Reading :=
  ⟨reading.expr.mapTokens f, reading.diagnostics, reading.rest.map f⟩

/-- The required token, with it and all behind it replaced, and with what was reported as it
was. -/
def Required.mapTokens (f : Token → Token) (required : Required) : Required :=
  ⟨f required.token, required.diagnostics, required.rest.map f⟩

namespace Grammar

/-- The grammar with another end of the line, which is replaced like every token. -/
def mapTokens (f : Token → Token) (grammar : Grammar) : Grammar :=
  { grammar with endOfFile := f grammar.endOfFile }

/-- The part with every token replaced, those of the operand it starts from among them. -/
def Part.mapTokens (f : Token → Token) : Part → Part
  | whole level => whole level
  | behind level left => behind level (left.mapTokens f)

variable {f : Token → Token} {grammar : Grammar} {depth : Nat} {part : Part}
  {input : List Token} {reading : Reading}

/-- The current token is replaced like all others, also if it is the end of the line. -/
theorem current_mapTokens (f : Token → Token) (grammar : Grammar) (input : List Token) :
    (grammar.mapTokens f).current (input.map f) = f (grammar.current input) := by
  cases input <;> rfl

/-- A condition on kinds that holds of the first token, if there is one,
holds of the one that replaces it. -/
theorem head_map (h : Token.IsRenaming f) (p : Kind → Prop)
    (head : ∀ token ∈ input.head?, p token.kind) :
    ∀ token ∈ (input.map f).head?, p token.kind := by
  cases input with
  | nil => exact fun _ hnone => nomatch hnone
  | cons token rest =>
    rintro _ ⟨⟩
    rw [h.kind]
    exact head token rfl

/-- What is required is the replaced token, or it is made up in its place, since the kind decides
and it is kept. -/
theorem require_mapTokens (h : Token.IsRenaming f) (grammar : Grammar) (kind : Kind)
    (input : List Token) :
    (grammar.mapTokens f).require kind (input.map f) =
      (grammar.require kind input).mapTokens f := by
  simp only [require, current_mapTokens, h.kind]
  split
  · rw [Required.mapTokens, List.map_tail]
  · rw [Required.mapTokens, h.missing]

/-- A group that is passed over is as long as before, as it is told from kinds only. -/
theorem dropGroup_map (h : Token.IsRenaming f) (opened : Nat) (input : List Token) :
    dropGroup opened (input.map f) = (dropGroup opened input).map f := by
  induction input generalizing opened with
  | nil => rfl
  | cons token rest ih =>
    rw [List.map_cons, dropGroup, dropGroup, h.kind]
    cases token.kind with
    | endOfFile => rfl
    | openParenthesis => exact ih (opened + 1)
    | closeParenthesis =>
      by_cases hlast : opened ≤ 1
      · simp only [if_pos hlast]
      · simp only [if_neg hlast]
        exact ih (opened - 1)
    | _ => exact ih opened

/-- With its tokens replaced, a derivation is one of the replaced reading, rule by rule. -/
theorem Reads.mapTokens (h : Token.IsRenaming f) (reads : Reads grammar depth part input reading) :
    Reads (grammar.mapTokens f) depth (part.mapTokens f) (input.map f) (reading.mapTokens f) := by
  -- Replaced tokens have the same kinds, so every rule applies as before.
  induction reads with
  | @number depth input head =>
    have number : Reads (grammar.mapTokens f) depth (.whole .primary) (input.map f) _ :=
      .number (head_map h (· ≠ .openParenthesis) head)
    rw [readNumber, require_mapTokens h] at number
    exact number
  | @tooDeep depth opening rest kind deep =>
    have skipped : Reads (grammar.mapTokens f) depth (.whole .primary)
        (f opening :: rest.map f) _ :=
      .tooDeep ((h.kind opening).trans kind) deep
    rw [skipGroup, dropGroup_map h, ← h.missing] at skipped
    exact skipped
  | @group depth opening rest inner kind shallow _ ih =>
    have closed : Reads (grammar.mapTokens f) depth (.whole .primary)
        (f opening :: rest.map f) _ :=
      .group ((h.kind opening).trans kind) shallow ih
    rw [closeGroup, show (inner.mapTokens f).rest = inner.rest.map f from rfl,
      require_mapTokens h] at closed
    exact closed
  | operands hne _ _ ihFirst ihBehind => exact .operands hne ihFirst ihBehind
  | @stop depth level left input head =>
    exact .stop (head_map h (level.joins · = false) head)
  | @operator depth level left token rest right whole joins _ _ ihRight ihBehind =>
    exact .operator ((h.kind token).symm ▸ joins) ihRight ihBehind

/-- What is read from replaced tokens is what is read from the tokens, with
its tokens replaced. -/
theorem read_mapTokens (h : Token.IsRenaming f) (grammar : Grammar) (depth : Nat)
    (level : Level) (input : List Token) :
    (grammar.mapTokens f).read depth level (input.map f) =
      (grammar.read depth level input).mapTokens f :=
  ((reads_read grammar depth level input).mapTokens h).eq_read.symm

end Grammar

end Calculator
