import Calculator.Proofs.Expr.Stratified

/-!
# `Calculator.Proofs.Grammar.Reads`: readings as derivations

`Grammar.read` and `Grammar.extend` call each other, and both recurse on
what is left of the tokens. `Reads` spells out what they do as one
inductive relation with a rule for each thing that can happen: a number, a
group that is passed over, a group that is read, a first operand with what
follows it, the end of a chain and one more operator of a chain. The
theorem

* `reads_read`: every reading has a derivation

is the only place where the measure of the recursion matters. Whatever
holds of readings is proved by induction on the derivation, with one case
for each rule. The first such facts stand here:

* `Reads.eq_read`: a derivation ends in what the grammar reads, so two
  readings are equal if one derivation can be turned into the other.
* `Reads.fits`: what is read fits its level, even if tokens had to be made
  up for it, because a made-up token is of the kind its place asks for.
* `Reads.nesting_le`: no more groups lie inside each other than are
  allowed.
* `Reads.endsChains`: a reading ends where no operator of its level, or of
  a tighter one, goes on.
-/

set_option autoImplicit false

namespace Calculator.Grammar

/-- What is read: a whole expression of a level, or whatever follows its
first operands. -/
inductive Part where
  | whole (level : Level)
  | behind (level : Level) (left : Expr)
  deriving Repr

/-- The level at which a part is read, as a whole or behind an operand. -/
def Part.level : Part → Level
  | whole level | behind level _ => level

/-- The expression that a part starts from, if there is one: the operands of a chain that were
read before. -/
def Part.left? : Part → Option Expr
  | whole _ => none
  | behind _ left => some left

/-- One reading of a part inside `depth` open groups, rule by rule. The grammar recurses on the
tokens that are left, which an induction on these rules need not look at. -/
inductive Reads (grammar : Grammar) : Nat → Part → List Token → Reading → Prop where
  -- Where no group opens, a number is read or made up.
  | number {depth : Nat} {input : List Token}
    (head : ∀ token ∈ input.head?, token.kind ≠ .openParenthesis) :
    Reads grammar depth (.whole .primary) input (grammar.readNumber input)
  -- A group inside too many others is passed over.
  | tooDeep {depth : Nat} {opening : Token} {rest : List Token}
    (kind : opening.kind = .openParenthesis) (deep : grammar.maxDepth ≤ depth) :
    Reads grammar depth (.whole .primary) (opening :: rest)
      (grammar.skipGroup opening rest)
  -- Any other group is read and closed.
  | group {depth : Nat} {opening : Token} {rest : List Token} {inner : Reading}
    (kind : opening.kind = .openParenthesis) (shallow : depth < grammar.maxDepth)
    (readsInner : Reads grammar (depth + 1) (.whole .term) rest inner) :
    Reads grammar depth (.whole .primary) (opening :: rest)
      (grammar.closeGroup opening inner)
  -- A first operand is read, and then what follows it.
  | operands {depth : Nat} {level : Level} {input : List Token} {first whole : Reading}
    (hne : level ≠ .primary)
    (readsFirst : Reads grammar depth (.whole level.operand) input first)
    (readsBehind : Reads grammar depth (.behind level first.expr) first.rest whole) :
    Reads grammar depth (.whole level) input
      ⟨whole.expr, first.diagnostics ++ whole.diagnostics, whole.rest⟩
  -- A chain ends where no operator of its level follows.
  | stop {depth : Nat} {level : Level} {left : Expr} {input : List Token}
    (head : ∀ token ∈ input.head?, level.joins token.kind = false) :
    Reads grammar depth (.behind level left) input ⟨left, [], input⟩
  -- An operator joins one more operand to a chain.
  | operator {depth : Nat} {level : Level} {left : Expr} {token : Token}
    {rest : List Token} {right whole : Reading}
    (joins : level.joins token.kind = true)
    (readsRight : Reads grammar depth (.whole level.operand) rest right)
    (readsBehind : Reads grammar depth
      (.behind level (.binary left token right.expr)) right.rest whole) :
    Reads grammar depth (.behind level left) (token :: rest)
      ⟨whole.expr, right.diagnostics ++ whole.diagnostics, whole.rest⟩

mutual

/-- Every reading of a level has a derivation, so what is proved of derivations holds of all that
is read. -/
theorem reads_read (grammar : Grammar) (depth : Nat) (level : Level)
    (input : List Token) :
    Reads grammar depth (.whole level) input (grammar.read depth level input) := by
  by_cases h : level = .primary
  · subst h
    rw [read_primary]
    match input with
    | [] => exact .number (by simp)
    | token :: rest =>
      dsimp only
      by_cases kind : token.kind = .openParenthesis
      · rw [if_pos kind]
        by_cases deep : grammar.maxDepth ≤ depth
        · rw [if_pos deep]
          exact .tooDeep kind deep
        · rw [if_neg deep]
          exact .group kind (Int.not_le.mp deep)
            (reads_read grammar (depth + 1) .term rest)
      · rw [if_neg kind]
        exact .number (by simpa using kind)
  · rw [read_eq_extend grammar depth h]
    exact .operands h (reads_read grammar depth level.operand input)
      (reads_extend grammar depth level _ _)
-- A level reads its operands from the same tokens, so its rank counts as well.
termination_by 3 * input.length + level.rank
decreasing_by
  · simp only [List.length_cons, Level.rank]
    omega
  · have := Level.rank_operand_lt h
    omega
  · have := grammar.length_rest_read_le depth level.operand input
    have := Level.rank_pos h
    omega

/-- Every continuation of a chain has a derivation too. The two are proved together, as each reads
the other's parts. -/
theorem reads_extend (grammar : Grammar) (depth : Nat) (level : Level) (left : Expr)
    (input : List Token) :
    Reads grammar depth (.behind level left) input
      (grammar.extend depth level left input) := by
  match input with
  | [] =>
    rw [extend_nil]
    exact .stop (by simp)
  | token :: rest =>
    rw [extend_cons]
    -- A chain goes on with an operator of its level, and stops at anything else.
    by_cases joins : level.joins token.kind = true
    · rw [if_pos joins]
      exact .operator joins (reads_read grammar depth level.operand rest)
        (reads_extend grammar depth level _ _)
    · rw [if_neg joins]
      exact .stop (by simpa using joins)
termination_by 3 * input.length
decreasing_by
  · have := Level.rank_le_two level.operand
    simp only [List.length_cons]
    omega
  · have := grammar.length_rest_read_le depth level.operand rest
    simp only [List.length_cons]
    omega

end

variable {grammar : Grammar} {depth : Nat} {part : Part} {input : List Token}
  {reading : Reading}

/-- What holds of the first token, if there is one, and of the end of the
line holds of the current token. -/
theorem current_of_head {grammar : Grammar} {input : List Token} {p : Token → Prop}
    (hend : p grammar.endOfFile) (head : ∀ token ∈ input.head?, p token) :
    p (grammar.current input) := by
  cases input with
  | nil => exact hend
  | cons token rest => exact head token rfl

/-- Where no operator of its level follows, nothing extends an operand, and nothing is consumed or
reported. -/
theorem extend_of_not_joins (grammar : Grammar) (depth : Nat) (level : Level)
    (left : Expr) {rest : List Token}
    (head : ∀ token ∈ rest.head?, level.joins token.kind = false) :
    grammar.extend depth level left rest = ⟨left, [], rest⟩ := by
  cases rest with
  | nil => exact extend_nil grammar depth level left
  | cons token rest =>
    rw [extend_cons, if_neg (by simp [head token rfl])]

/-- What the grammar reads as a part, by the function for its sort. -/
def Part.read (grammar : Grammar) (depth : Nat) (input : List Token) : Part → Reading
  | whole level => grammar.read depth level input
  | behind level left => grammar.extend depth level left input

/-- A derivation ends in what the grammar reads, so there is no other one for the same
part of the same tokens. -/
theorem Reads.eq_read (h : Reads grammar depth part input reading) :
    reading = part.read grammar depth input := by
  -- By induction on the derivation: its rules exclude each other, as the conditions of the grammar
  -- do.
  induction h with
  | @number depth input head =>
    rw [Part.read, read_primary]
    cases input with
    | nil => rfl
    | cons token rest =>
      have noGroup : token.kind ≠ .openParenthesis := head token rfl
      exact (if_neg noGroup).symm
  | @tooDeep depth opening rest kind deep =>
    rw [Part.read, read_primary]
    simp only [if_pos kind, if_pos deep]
  | @group depth opening rest inner kind shallow _ ih =>
    have hinner : inner = grammar.read (depth + 1) .term rest := ih
    rw [Part.read, read_primary]
    simp only [if_pos kind, if_neg (Int.not_le.mpr shallow), hinner]
  | @operands depth level input first whole hne _ _ ihFirst ihBehind =>
    have hfirst : first = grammar.read depth level.operand input := ihFirst
    have hwhole : whole = grammar.extend depth level first.expr first.rest := ihBehind
    rw [Part.read, read_eq_extend grammar depth hne]
    simp only [← hfirst, ← hwhole]
  | @stop depth level left input head =>
    exact (extend_of_not_joins grammar depth level left head).symm
  | @operator depth level left token rest right whole joins _ _ ihRight ihBehind =>
    have hright : right = grammar.read depth level.operand rest := ihRight
    have hwhole : whole =
        grammar.extend depth level (.binary left token right.expr) right.rest := ihBehind
    rw [Part.read, extend_cons, if_pos joins]
    simp only [← hright, ← hwhole]

/-! ### The shape of what is read -/

/-- The token that is required has the kind that was required, whether it is there or made up. -/
theorem kind_require (grammar : Grammar) (kind : Kind) (input : List Token) :
    (grammar.require kind input).token.kind = kind := by
  unfold require
  dsimp only
  by_cases h : (grammar.current input).kind = kind
  · rw [if_pos h]
    exact h
  · rw [if_neg h]
    rfl

/-- What fits a part: an expression of its level, provided that the part
starts from one. -/
def Part.Fits (part : Part) (expr : Expr) : Prop :=
  (∀ left ∈ part.left?, Expr.Fits part.level left) → Expr.Fits part.level expr

/-- What is read fits its level, also where something was wrong, as tokens that are made up have
the kinds that were required. -/
theorem Reads.fits (h : Reads grammar depth part input reading) :
    part.Fits reading.expr := by
  induction h with
  | @number depth input head =>
    exact fun _ => .number (kind_require grammar .number input)
  | tooDeep kind deep => exact fun _ => .number rfl
  | @group depth opening rest inner kind shallow _ ih =>
    exact fun _ => .group kind (ih (by simp [Part.left?]))
      (kind_require grammar .closeParenthesis inner.rest)
  | operands hne _ _ ihFirst ihBehind =>
    intro _
    have first := ihFirst (by simp [Part.left?])
    exact ihBehind (by simpa [Part.left?] using .operand hne first)
  | stop head => exact fun left => left _ rfl
  | operator joins _ _ ihRight ihBehind =>
    intro left
    have right := ihRight (by simp [Part.left?])
    exact ihBehind (by simpa [Part.left?] using .chain joins (left _ rfl) right)

/-- The groups that lie inside each other are no more than those of the
operands that were there, or those that the limit still leaves room for. -/
theorem Reads.nesting_le (h : Reads grammar depth part input reading) :
    reading.expr.nesting ≤
      max ((part.left?.map Expr.nesting).getD 0) (grammar.maxDepth - depth).toNat := by
  induction h with
  | number head => exact Nat.zero_le _
  | tooDeep kind deep => exact Nat.zero_le _
  | @group depth opening rest inner kind shallow _ ih =>
    -- Inside the group there is room for one group less.
    have inside : inner.expr.nesting ≤ (grammar.maxDepth - (depth + 1)).toNat := by
      simpa [Part.left?] using ih
    show inner.expr.nesting + 1 ≤ _
    omega
  | operands hne _ _ ihFirst ihBehind =>
    -- What follows the first operand starts from that operand.
    simp only [Part.left?, Option.map_some, Option.getD_some, Option.map_none,
      Option.getD_none] at ihFirst ihBehind ⊢
    omega
  | stop head => exact Nat.le_max_left _ _
  | operator joins _ _ ihRight ihBehind =>
    simp only [Part.left?, Option.map_some, Option.getD_some, Option.map_none,
      Option.getD_none, Expr.nesting] at ihRight ihBehind ⊢
    omega

/-! ### Where reading ends -/

/-- Whether the first of some tokens, if there is one, is no operator of a
level up to `rank`. -/
def EndsChains (rank : Nat) (rest : List Token) : Prop :=
  ∀ token ∈ rest.head?, ∀ level : Level, level.rank ≤ rank →
    level.joins token.kind = false

/-- A reading ends where no operator of its level, or of a tighter one,
follows, provided that a part behind an operand starts behind the tighter
ones. -/
theorem Reads.endsChains (h : Reads grammar depth part input reading)
    (start : ∀ left ∈ part.left?, EndsChains part.level.operand.rank input) :
    EndsChains part.level.rank reading.rest := by
  -- No operators are as tight as primary expressions.
  have primary : ∀ rest : List Token, EndsChains Level.primary.rank rest := by
    intro rest token _ level hrank
    cases level with
    | primary => exact Level.joins_primary _
    | factor => exact absurd hrank (by decide)
    | term => exact absurd hrank (by decide)
  induction h with
  | number head => exact primary _
  | tooDeep kind deep => exact primary _
  | group kind shallow _ ih => exact primary _
  | operands hne _ _ ihFirst ihBehind =>
    exact ihBehind fun _ _ => ihFirst (by simp [Part.left?])
  | @stop depth level left input head =>
    intro token htoken other hrank
    by_cases same : other = level
    · subst same
      exact head token htoken
    · -- The tighter operators are the business of the operand before.
      refine start left rfl token htoken other ?_
      cases level <;> cases other <;> simp_all [Part.level, Level.rank, Level.operand]
  | operator joins _ _ ihRight ihBehind =>
    exact ihBehind fun _ _ => ihRight (by simp [Part.left?])

end Calculator.Grammar
