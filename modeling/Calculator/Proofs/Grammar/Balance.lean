import Calculator.Proofs.Expr.Stratified

/-!
# `Calculator.Proofs.Grammar.Balance`: how many groups are open

`openGroups` counts the parentheses that some tokens leave open: the
opening ones less the closing ones. Two things are said with it.

* `Within limit kinds`: nowhere in front of a token, nor at the end, are
  more than `limit` groups open. `within_append` takes a bound apart, and
  `within_kinds_iff` reads it off a tree: the leaves of a placed
  expression stay within a limit exactly if its groups nest no deeper.
* `IsGroup`: a stretch of tokens is one group, from the parenthesis that
  opens it to the first place where no group is open any more, or to the
  end of the line if there is no such place. `closes_dropGroup` and
  `Closes.isGroup` say that this is what a reading passes over.
-/

set_option autoImplicit false

namespace Calculator

/-- The parentheses left open by tokens of some kinds. The number is
negative if more are closed than were opened. -/
def openGroups (kinds : List Kind) : Int :=
  kinds.count .openParenthesis - kinds.count .closeParenthesis

@[simp] theorem openGroups_nil : openGroups [] = 0 := rfl

/-- What is left open adds up over two parts, with groups that are closed in the second part
counted against it. -/
theorem openGroups_append (front behind : List Kind) :
    openGroups (front ++ behind) = openGroups front + openGroups behind := by
  simp only [openGroups, List.count_append]
  omega

/-- The first token may open or close a group, and all else is about the tokens behind it. -/
theorem openGroups_cons (kind : Kind) (kinds : List Kind) :
    openGroups (kind :: kinds) = openGroups [kind] + openGroups kinds :=
  openGroups_append [kind] kinds

@[simp] theorem openGroups_openParenthesis : openGroups [.openParenthesis] = 1 := rfl

@[simp] theorem openGroups_closeParenthesis : openGroups [.closeParenthesis] = -1 := rfl

/-- Tokens other than parentheses neither open nor close a group, so they leave the count as it
is. -/
theorem openGroups_singleton {kind : Kind} (hopen : kind ≠ .openParenthesis)
    (hclose : kind ≠ .closeParenthesis) : openGroups [kind] = 0 := by
  simp [openGroups, hopen, hclose]

/-- An operator leaves the number of open groups as it is, so only what stands around it
counts. -/
theorem openGroups_operator {kind : Kind} (h : kind.isOperator = true) :
    openGroups [kind] = 0 := by
  refine openGroups_singleton ?_ ?_
  · rintro rfl
    simp [Kind.isOperator] at h
  · rintro rfl
    simp [Kind.isOperator] at h

/-! ### Limits on open groups -/

/-- No more than `limit` groups are open anywhere, so in no front of the tokens either. This is
how the limit on groups can be seen from the kinds alone. -/
def Within (limit : Int) (kinds : List Kind) : Prop :=
  ∀ front, front <+: kinds → openGroups front ≤ limit

/-- Without tokens no group is open, which is within every limit that is not below zero. -/
theorem within_nil (limit : Int) : Within limit [] ↔ 0 ≤ limit := by
  constructor
  · intro h
    exact h [] List.nil_prefix
  · intro h front hfront
    rw [List.prefix_nil.mp hfront]
    exact h

/-- A token in front changes the limit for all that follow: an opening parenthesis leaves less
room, and a closing one more. -/
theorem within_cons (limit : Int) (kind : Kind) (kinds : List Kind) :
    Within limit (kind :: kinds) ↔
      0 ≤ limit ∧ Within (limit - openGroups [kind]) kinds := by
  constructor
  · intro h
    refine ⟨h [] List.nil_prefix, fun front hfront => ?_⟩
    have := h (kind :: front) (List.cons_prefix_cons.mpr ⟨rfl, hfront⟩)
    rw [openGroups_cons] at this
    omega
  · rintro ⟨hlimit, h⟩ front hfront
    rcases List.prefix_cons_iff.mp hfront with rfl | ⟨tail, rfl, htail⟩
    · exact hlimit
    · have := h tail htail
      rw [openGroups_cons]
      omega

/-- A limit holds of two stretches one after the other if it holds of the
first, and of the second with what the first leaves open. -/
theorem within_append (limit : Int) (first second : List Kind) :
    Within limit (first ++ second) ↔
      Within limit first ∧ Within (limit - openGroups first) second := by
  induction first generalizing limit with
  | nil =>
    -- Any limit that holds is at least zero, as the empty prefix shows.
    have nonneg : Within limit second → 0 ≤ limit := fun h => h [] List.nil_prefix
    simpa [within_nil] using nonneg
  | cons kind kinds ih =>
    rw [List.cons_append, within_cons, within_cons, ih, openGroups_cons kind kinds,
      Int.sub_sub, and_assoc]

/-! ### Groups of a tree -/

/-- The kinds of the tokens of an expression, in the order of the line. -/
def Expr.kinds (expr : Expr) : List Kind :=
  expr.leaves.map Token.kind

/-- In a placed expression every group that is opened is closed, as both parentheses are tokens of
one node. -/
theorem openGroups_kinds {expr : Expr} (h : expr.Placed) : openGroups expr.kinds = 0 := by
  induction expr with
  | number literal =>
    have kind : literal.kind = .number := h
    simp [Expr.kinds, Expr.leaves, kind, openGroups]
  | binary left operator right ihLeft ihRight =>
    obtain ⟨placedLeft, operation, placedRight⟩ := h
    have left := ihLeft placedLeft
    have right := ihRight placedRight
    -- An operator neither opens nor closes a group.
    have middle := openGroups_operator operation
    simp only [Expr.kinds, Expr.leaves, List.map_append, List.map_cons] at left right ⊢
    rw [openGroups_append, openGroups_cons, left, middle, right]
    rfl
  | parenthesized opening inner closing ih =>
    obtain ⟨openingKind, placedInner, closingKind⟩ := h
    have inside := ih placedInner
    simp only [Expr.kinds, Expr.leaves, List.map_append, List.map_cons, List.map_nil,
      openingKind, closingKind] at inside ⊢
    rw [openGroups_cons, openGroups_append, inside]
    rfl

/-- The tokens of a placed expression stay within a limit exactly if its groups do, so the depth
of the tree is that of the parentheses. -/
theorem within_kinds_iff {expr : Expr} (h : expr.Placed) (limit : Int) :
    Within limit expr.kinds ↔ (expr.nesting : Int) ≤ limit := by
  induction expr generalizing limit with
  | number literal =>
    have kind : literal.kind = .number := h
    have flat : openGroups [Kind.number] = 0 := rfl
    simp [Expr.kinds, Expr.leaves, Expr.nesting, kind, within_cons, within_nil, flat]
  | binary left operator right ihLeft ihRight =>
    obtain ⟨placedLeft, operation, placedRight⟩ := h
    have middle := openGroups_operator operation
    have left := ihLeft placedLeft limit
    have right := ihRight placedRight limit
    -- Nothing is left open by the left operand, so the right one has the same room.
    have balanced := openGroups_kinds placedLeft
    simp only [Expr.kinds, Expr.leaves, Expr.nesting, List.map_append, List.map_cons]
      at left right balanced ⊢
    rw [within_append, within_cons, balanced, middle, Int.sub_zero, Int.sub_zero, left,
      right]
    omega
  | parenthesized opening inner closing ih =>
    obtain ⟨openingKind, placedInner, closingKind⟩ := h
    -- Inside, one group is open already, and behind the closing token none is.
    have inside := ih placedInner (limit - 1)
    have balanced := openGroups_kinds placedInner
    simp only [Expr.kinds, Expr.leaves, Expr.nesting, List.map_append, List.map_cons,
      List.map_nil, openingKind, closingKind] at inside balanced ⊢
    rw [within_cons, openGroups_openParenthesis, within_append, inside, balanced,
      within_cons, within_nil, openGroups_closeParenthesis]
    omega

/-! ### Groups that are dropped -/

/-- Whether no token follows but the end of the line. Where the line ends, groups are left
unclosed and numbers are made up. -/
def AtEnd (rest : List Token) : Prop :=
  ∀ token ∈ rest.head?, token.kind = .endOfFile

/-- A stretch of tokens is one group. It may be left unclosed if the line
ends behind it. -/
structure IsGroup (ended : Prop) (tokens : List Token) : Prop where
  -- It starts with the parenthesis that opens it.
  opening : tokens.head?.map Token.kind = some .openParenthesis
  -- It does not reach beyond the end of the line.
  noEnd : ∀ token ∈ tokens, token.kind ≠ .endOfFile
  -- Some group is open everywhere inside.
  inside : ∀ front, front <+: tokens → front ≠ [] → front ≠ tokens →
    0 < openGroups (front.map Token.kind)
  -- It ends with the parenthesis that closes it, or it is not closed at
  -- all.
  closed : openGroups (tokens.map Token.kind) = 0 ∨ ended

/-- A group stays one if it may be left unclosed for a weaker reason. A group that is closed does
not need any. -/
theorem IsGroup.imp {ended other : Prop} {tokens : List Token} (h : IsGroup ended tokens)
    (hended : ended → other) : IsGroup other tokens :=
  ⟨h.opening, h.noEnd, h.inside, h.closed.imp id hended⟩

/-- A stretch of tokens closes `opened` groups and no more, or the line
ends behind it before they are closed. -/
structure Closes (opened : Int) (tokens behind : List Token) : Prop where
  -- It does not reach beyond the end of the line.
  noEnd : ∀ token ∈ tokens, token.kind ≠ .endOfFile
  -- Some group is open everywhere before its end.
  inside : ∀ front, front <+: tokens → front ≠ tokens →
    0 < opened + openGroups (front.map Token.kind)
  -- All groups are closed at its end, if they ever are.
  closed : opened + openGroups (tokens.map Token.kind) = 0 ∨ AtEnd behind

/-- Tokens that close the open groups still do so with one more token in front, if the
groups are counted after this token. -/
theorem Closes.cons {opened next : Int} {token : Token} {tokens behind : List Token}
    (hopened : 0 < opened) (kind : token.kind ≠ .endOfFile)
    (hnext : next = opened + openGroups [token.kind]) (h : Closes next tokens behind) :
    Closes opened (token :: tokens) behind where
  noEnd := by simpa using ⟨kind, h.noEnd⟩
  inside := by
    intro front hfront hne
    rcases List.prefix_cons_iff.mp hfront with rfl | ⟨tail, rfl, htail⟩
    · simpa using hopened
    · have := h.inside tail htail (by simpa using hne)
      rw [List.map_cons, openGroups_cons]
      omega
  closed := by
    rw [List.map_cons, openGroups_cons]
    exact h.closed.imp (fun hclosed => by omega) id

/-- With its opening parenthesis, what closes one group is a group, which may be unclosed only at
the end of the line. -/
theorem Closes.isGroup {opening : Token} {tokens behind : List Token}
    (kind : opening.kind = .openParenthesis) (h : Closes 1 tokens behind) :
    IsGroup (AtEnd behind) (opening :: tokens) where
  opening := by simpa using kind
  noEnd := by simpa [kind] using h.noEnd
  inside := by
    intro front hfront hnil hne
    rcases List.prefix_cons_iff.mp hfront with rfl | ⟨tail, rfl, htail⟩
    · exact absurd rfl hnil
    · have := h.inside tail htail (by simpa using hne)
      rw [List.map_cons, openGroups_cons, kind, openGroups_openParenthesis]
      exact this
  closed := by
    rw [List.map_cons, openGroups_cons, kind, openGroups_openParenthesis]
    exact h.closed

/-- Dropping what closes some open groups drops just that. The induction is on the tokens, with
any number of open groups. -/
theorem closes_dropGroup (opened : Nat) (hopened : 0 < opened) (input : List Token) :
    ∃ dropped, input = dropped ++ Grammar.dropGroup opened input ∧
      Closes opened dropped (Grammar.dropGroup opened input) := by
  induction input generalizing opened with
  | nil =>
    exact ⟨[], rfl, ⟨by simp, by simp, Or.inr (by simp [AtEnd, Grammar.dropGroup])⟩⟩
  | cons token rest ih =>
    -- A token that leaves some group open is dropped, and so is what closes the rest.
    have goesOn : ∀ next : Nat, 0 < next → token.kind ≠ .endOfFile →
        (next : Int) = opened + openGroups [token.kind] →
        Grammar.dropGroup opened (token :: rest) = Grammar.dropGroup next rest →
        ∃ dropped, token :: rest = dropped ++ Grammar.dropGroup opened (token :: rest) ∧
          Closes opened dropped (Grammar.dropGroup opened (token :: rest)) := by
      intro next hpos hkind hnext hdrop
      obtain ⟨dropped, hrest, hcloses⟩ := ih next hpos
      rw [hdrop]
      exact ⟨token :: dropped, congrArg (token :: ·) hrest,
        .cons (by omega) hkind hnext hcloses⟩
    cases hkind : token.kind with
    | endOfFile =>
      have hdrop : Grammar.dropGroup opened (token :: rest) = token :: rest := by
        simp [Grammar.dropGroup, hkind]
      rw [hdrop]
      exact ⟨[], rfl, ⟨by simp, by simp, Or.inr (by simpa [AtEnd] using hkind)⟩⟩
    | openParenthesis =>
      exact goesOn (opened + 1) (by omega) (by simp [hkind]) (by simp [hkind])
        (by simp [Grammar.dropGroup, hkind])
    | closeParenthesis =>
      by_cases hlast : opened ≤ 1
      · -- The parenthesis closes the last open group.
        have hdrop : Grammar.dropGroup opened (token :: rest) = rest := by
          simp [Grammar.dropGroup, hkind, hlast]
        have done : Closes 0 [] rest := ⟨by simp, by simp, Or.inl rfl⟩
        have balanced : (0 : Int) = opened + openGroups [token.kind] := by
          rw [hkind, openGroups_closeParenthesis]
          omega
        rw [hdrop]
        exact ⟨[token], rfl, done.cons (by omega) (by simp [hkind]) balanced⟩
      · refine goesOn (opened - 1) (by omega) (by simp [hkind]) ?_
          (by simp [Grammar.dropGroup, hkind, hlast])
        rw [hkind, openGroups_closeParenthesis]
        omega
    | _ =>
      -- Any other token is dropped, and as many groups are open behind it.
      exact goesOn opened hopened (by simp [hkind])
        (by rw [hkind, openGroups_singleton (by decide) (by decide)]; omega)
        (by simp [Grammar.dropGroup, hkind])

end Calculator
