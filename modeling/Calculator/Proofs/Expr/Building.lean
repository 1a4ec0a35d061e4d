import Calculator.Expr.Draft
import Calculator.Proofs.Evaluation.FirstFault
import Calculator.Proofs.Expr.Sketch

/-!
# `Calculator.Proofs.Expr.Building`: expressions that were checked

A draft is built if its tokens and its operators are in order. `Describes` relates a
draft to the expression it stands for, and building gives just that expression
(`Draft.build_eq_ok_iff`), so what is needed for it can be read off the draft
(`Draft.exists_describes_iff`).

An expression that was built with all checks has no operators but the four
(`Describes.hasOperators`). So `Draft.evaluate_of_build` says what evaluation can come
to: a value, a number without a value, or a division by zero.
-/

set_option autoImplicit false

namespace Calculator

/-! ### Tokens -/

/-- A draft describes the token that has the same kind, position, text and value. Whether there is
one depends on the name of the kind and on the sign of the position. -/
structure TokenDraft.Describes (draft : TokenDraft) (token : Token) : Prop where
  kind : token.kind.name = draft.kind
  position : (token.position : Int) = draft.position
  text : token.text = draft.text
  value : token.value = draft.value

/-- A kind has the name by which it is found, so no kind is found by the name of another one. -/
theorem Kind.name_of_ofName? {name : String} {kind : Kind} (h : ofName? name = some kind) :
    kind.name = name := by
  simpa using List.find?_some h

/-- Building a draft of a token gives the token that is described, and fails if none is. -/
theorem TokenDraft.build_eq_ok_iff {draft : TokenDraft} {token : Token} :
    draft.build = .ok token ↔ draft.Describes token := by
  constructor
  · intro h
    unfold build at h
    dsimp only at h
    split at h
    · cases h
    · next kind hkind =>
      by_cases negative : draft.position < 0
      · simp [negative] at h
      · simp only [negative, if_false, List.isEmpty_nil, if_true, Except.ok.injEq] at h
        subst h
        exact ⟨Kind.name_of_ofName? hkind, Int.toNat_of_nonneg (Int.not_lt.mp negative), rfl, rfl⟩
  · rintro ⟨hkind, hposition, htext, hvalue⟩
    -- A position that is described is a natural number, so it passes the check unchanged.
    have nonnegative : ¬draft.position < 0 := by omega
    have same : draft.position.toNat = token.position := by omega
    unfold build
    rw [← hkind, Kind.ofName?_name]
    simp [nonnegative, same, ← htext, ← hvalue]

/-- A draft describes a token if its kind is known and its position is not negative. -/
theorem TokenDraft.exists_describes_iff (draft : TokenDraft) :
    (∃ token, draft.Describes token) ↔
      0 ≤ draft.position ∧ ∃ kind : Kind, kind.name = draft.kind := by
  constructor
  · rintro ⟨token, h⟩
    exact ⟨h.position ▸ Int.natCast_nonneg _, token.kind, h.kind⟩
  · rintro ⟨nonnegative, kind, hkind⟩
    exact ⟨⟨kind, draft.position.toNat, draft.text, draft.value⟩,
      hkind, Int.toNat_of_nonneg nonnegative, rfl, rfl⟩

/-! ### Expressions -/

namespace Draft

/-- A draft describes the expression of the same shape with the tokens described. An
operator that is checked is one of the four. -/
inductive Describes : Draft → Expr → Prop where
  | number {draft : TokenDraft} {literal : Token} (describes : draft.Describes literal) :
    Describes (.number draft) (.number literal)
  | binary {leftDraft rightDraft : Draft} {left right : Expr} {draft : TokenDraft}
    {operator : Token} {checked : Bool} (describesLeft : Describes leftDraft left)
    (describes : draft.Describes operator) (describesRight : Describes rightDraft right)
    (isOperator : checked = true → operator.kind.isOperator = true) :
    Describes (.binary leftDraft draft rightDraft checked) (.binary left operator right)
  | parenthesized {openingDraft closingDraft : TokenDraft} {innerDraft : Draft}
    {opening closing : Token} {inner : Expr} (describesOpening : openingDraft.Describes opening)
    (describesInner : Describes innerDraft inner)
    (describesClosing : closingDraft.Describes closing) :
    Describes (.parenthesized openingDraft innerDraft closingDraft)
      (.parenthesized opening inner closing)

/-- What is done with a result is a result only if there was one. This takes a building apart into
its parts. -/
theorem bind_eq_ok_iff {ε α β : Type} {first : Except ε α} {next : α → Except ε β} {result : β} :
    (first >>= next) = .ok result ↔ ∃ value, first = .ok value ∧ next value = .ok result := by
  cases first with
  | error error => simp [Bind.bind, Except.bind]
  | ok value => simp [Bind.bind, Except.bind]

/-- Parts are joined if the operator is one of the four, or is not checked, and the result is the
operation of the parts. -/
theorem join_eq_ok_iff {checked : Bool} {left right expr : Expr} {operator : Token} :
    join checked left operator right = .ok expr ↔
      (checked = true → operator.kind.isOperator = true) ∧ .binary left operator right = expr := by
  unfold join
  cases checked <;> cases operator.kind.isOperator <;> simp

/-- Building gives the expression that is described, and it gives nothing if none is. The
induction is on the draft. -/
theorem build_eq_ok_iff {draft : Draft} {expr : Expr} :
    draft.build = .ok expr ↔ draft.Describes expr := by
  induction draft generalizing expr with
  | number literal =>
    simp only [build, bind_eq_ok_iff, TokenDraft.build_eq_ok_iff]
    constructor
    · rintro ⟨token, describes, ⟨⟩⟩
      exact .number describes
    · intro h
      cases h with
      | number describes => exact ⟨_, describes, rfl⟩
  | binary left operator right checked ihLeft ihRight =>
    simp only [build, bind_eq_ok_iff, TokenDraft.build_eq_ok_iff, ihLeft, ihRight, join_eq_ok_iff]
    constructor
    · rintro ⟨_, describesLeft, _, describes, _, describesRight, isOperator, rfl⟩
      exact .binary describesLeft describes describesRight isOperator
    · intro h
      cases h with
      | binary describesLeft describes describesRight isOperator =>
        exact ⟨_, describesLeft, _, describes, _, describesRight, isOperator, rfl⟩
  | parenthesized opening inner closing ih =>
    simp only [build, bind_eq_ok_iff, TokenDraft.build_eq_ok_iff, ih]
    constructor
    · rintro ⟨_, describesOpening, _, describesInner, _, describesClosing, ⟨⟩⟩
      exact .parenthesized describesOpening describesInner describesClosing
    · intro h
      cases h with
      | parenthesized describesOpening describesInner describesClosing =>
        exact ⟨_, describesOpening, _, describesInner, _, describesClosing, rfl⟩

/-- Every token of a draft, from left to right, as they would stand in a line. -/
def tokens : Draft → List TokenDraft
  | number literal => [literal]
  | binary left operator right _ => left.tokens ++ operator :: right.tokens
  | parenthesized opening inner closing => opening :: (inner.tokens ++ [closing])

/-- The tokens between two operands, from left to right. Only these have to be operators. -/
def operators : Draft → List TokenDraft
  | number _ => []
  | binary left operator right _ => left.operators ++ operator :: right.operators
  | parenthesized _ inner _ => inner.operators

/-- Whether every operator is to be checked, which a draft may leave out at any of its
operations. -/
def IsChecked : Draft → Prop
  | number _ => True
  | binary left _ right checked => left.IsChecked ∧ checked = true ∧ right.IsChecked
  | parenthesized _ inner _ => inner.IsChecked

/-- The names of the four operators, by which a draft has to name them. -/
def operatorNames : List String :=
  ["PlusToken", "MinusToken", "StarToken", "SlashToken"]

/-- A name is that of an operator exactly if the kind that it names is one, so names can be
checked instead of kinds. -/
theorem name_mem_operatorNames_iff (kind : Kind) :
    kind.name ∈ operatorNames ↔ kind.isOperator = true := by
  cases kind <;> decide

/-- What is checked of a token between two operands: what is checked of every token, and that it
has the name of an operator. -/
theorem exists_describes_operator_iff (draft : TokenDraft) :
    (∃ token, draft.Describes token ∧ token.kind.isOperator = true) ↔
      (0 ≤ draft.position ∧ ∃ kind : Kind, kind.name = draft.kind) ∧
        draft.kind ∈ operatorNames := by
  rw [← draft.exists_describes_iff]
  constructor
  · rintro ⟨token, h, isOperator⟩
    exact ⟨⟨token, h⟩, h.kind ▸ (name_mem_operatorNames_iff _).mpr isOperator⟩
  · rintro ⟨⟨token, h⟩, name⟩
    rw [← h.kind, name_mem_operatorNames_iff] at name
    exact ⟨token, h, name⟩

/-- A draft of a number describes an expression exactly if its token is described. The kind need
not be that of numbers. -/
theorem exists_describes_number_iff (literal : TokenDraft) :
    (∃ expr, (number literal).Describes expr) ↔ ∃ token, literal.Describes token := by
  constructor
  · rintro ⟨_, h⟩
    cases h with
    | number describes => exact ⟨_, describes⟩
  · rintro ⟨token, describes⟩
    exact ⟨_, .number describes⟩

/-- A draft of a checked operation describes an expression if its parts do, and its
operator is one of the four. -/
theorem exists_describes_binary_iff (left right : Draft) (operator : TokenDraft) :
    (∃ expr, (binary left operator right true).Describes expr) ↔
      (∃ expr, left.Describes expr) ∧
        (∃ token, operator.Describes token ∧ token.kind.isOperator = true) ∧
        ∃ expr, right.Describes expr := by
  constructor
  · rintro ⟨_, h⟩
    cases h with
    | binary describesLeft describes describesRight isOperator =>
      exact ⟨⟨_, describesLeft⟩, ⟨_, describes, isOperator rfl⟩, _, describesRight⟩
  · rintro ⟨⟨_, describesLeft⟩, ⟨_, describes, isOperator⟩, _, describesRight⟩
    exact ⟨_, .binary describesLeft describes describesRight fun _ => isOperator⟩

/-- A draft of a group describes an expression exactly if all its three parts are described. -/
theorem exists_describes_parenthesized_iff (opening closing : TokenDraft) (inner : Draft) :
    (∃ expr, (parenthesized opening inner closing).Describes expr) ↔
      (∃ token, opening.Describes token) ∧ (∃ expr, inner.Describes expr) ∧
        ∃ token, closing.Describes token := by
  constructor
  · rintro ⟨_, h⟩
    cases h with
    | parenthesized describesOpening describesInner describesClosing =>
      exact ⟨⟨_, describesOpening⟩, ⟨_, describesInner⟩, _, describesClosing⟩
  · rintro ⟨⟨_, describesOpening⟩, ⟨_, describesInner⟩, _, describesClosing⟩
    exact ⟨_, .parenthesized describesOpening describesInner describesClosing⟩

/-- If every operator is checked, a draft describes an expression if all its tokens and
operators are in order. -/
theorem exists_describes_iff {draft : Draft} (h : draft.IsChecked) :
    (∃ expr, draft.Describes expr) ↔
      (∀ token ∈ draft.tokens, 0 ≤ token.position ∧ ∃ kind : Kind, kind.name = token.kind) ∧
        ∀ operator ∈ draft.operators, operator.kind ∈ operatorNames := by
  induction draft with
  | number literal =>
    rw [exists_describes_number_iff, TokenDraft.exists_describes_iff]
    simp [tokens, operators]
  | binary left operator right checked ihLeft ihRight =>
    obtain ⟨checkedLeft, rfl, checkedRight⟩ := h
    rw [exists_describes_binary_iff, exists_describes_operator_iff, ihLeft checkedLeft,
      ihRight checkedRight]
    simp only [tokens, operators, List.forall_mem_append, List.forall_mem_cons]
    -- The conditions of the parts are the same ones in another order.
    constructor
    · rintro ⟨⟨leftTokens, leftOperators⟩, ⟨token, name⟩, rightTokens, rightOperators⟩
      exact ⟨⟨leftTokens, token, rightTokens⟩, leftOperators, name, rightOperators⟩
    · rintro ⟨⟨leftTokens, token, rightTokens⟩, leftOperators, name, rightOperators⟩
      exact ⟨⟨leftTokens, leftOperators⟩, ⟨token, name⟩, rightTokens, rightOperators⟩
  | parenthesized opening inner closing ih =>
    rw [exists_describes_parenthesized_iff, TokenDraft.exists_describes_iff,
      TokenDraft.exists_describes_iff, ih h]
    rw [tokens, operators, List.forall_mem_cons, List.forall_mem_append, List.forall_mem_singleton]
    constructor
    · rintro ⟨first, ⟨innerTokens, innerOperators⟩, last⟩
      exact ⟨⟨first, innerTokens, last⟩, innerOperators⟩
    · rintro ⟨⟨first, innerTokens, last⟩, innerOperators⟩
      exact ⟨first, ⟨innerTokens, innerOperators⟩, last⟩

/-- An expression that was checked has no operators but the four, so evaluating it never meets
another one. -/
theorem Describes.hasOperators {draft : Draft} {expr : Expr} (h : draft.Describes expr)
    (checked : draft.IsChecked) : expr.HasOperators := by
  induction h with
  | number describes => trivial
  | binary describesLeft describes describesRight isOperator ihLeft ihRight =>
    exact ⟨ihLeft checked.1, isOperator checked.2.1, ihRight checked.2.2⟩
  | parenthesized describesOpening describesInner describesClosing ih => exact ih checked

/-- What a draft comes to if every operator is checked. It is built if its tokens have
known kinds and positions that are not negative, and its operators are the four. What is
built is the expression described. Its evaluation has no fault but a number without a
value and a division by zero. It gives a value if every number has one and no value is
divided by zero, and else the first of these faults in post-order, at the position of
the number or of the operator. -/
theorem evaluate_of_build (draft : Draft) (checked : draft.IsChecked) :
    ((∃ expr, draft.build = .ok expr) ↔
      (∀ token ∈ draft.tokens, 0 ≤ token.position ∧ ∃ kind : Kind, kind.name = token.kind) ∧
        ∀ operator ∈ draft.operators,
          operator.kind ∈ ["PlusToken", "MinusToken", "StarToken", "SlashToken"]) ∧
    ∀ expr, draft.build = .ok expr →
      draft.Describes expr ∧
      (∀ fault, expr.evaluate = .error fault →
        ∃ position, fault = .missingValue position ∨ fault = .divisionByZero position) ∧
      ((∃ value, expr.evaluate = .ok value) ↔
        (∀ literal, .number literal ∈ expr.postorder → ∃ value, literal.value = some value) ∧
        ∀ left operator right dividend divisor, .binary left operator right ∈ expr.postorder →
          operator.kind = .slash → left.evaluate = .ok dividend → right.evaluate = .ok divisor →
          divisor ≠ 0) ∧
      ∀ fault, expr.evaluate = .error fault ↔
        expr.postorder.findSome? Expr.fault? = some fault := by
  constructor
  · simp only [build_eq_ok_iff]
    exact exists_describes_iff checked
  · intro expr built
    have describes : draft.Describes expr := build_eq_ok_iff.mp built
    have hasOperators := describes.hasOperators checked
    refine ⟨describes, fun fault hfault => ?_, Expr.exists_evaluate_eq_ok_iff hasOperators,
      Expr.evaluate_eq_error_iff hasOperators⟩
    -- A fault is that of a part, and a part has no other faults of its own than these two.
    rw [Expr.evaluate_eq_error_iff hasOperators] at hfault
    obtain ⟨part, -, here⟩ := List.exists_of_findSome?_eq_some hfault
    rcases Expr.fault?_cases here with
      ⟨literal, -, -, rfl⟩ | ⟨left, operator, right, dividend, -, -, -, -, rfl⟩
    · exact ⟨_, Or.inl rfl⟩
    · exact ⟨_, Or.inr rfl⟩

/-- A division by zero in front of a number without a value. Some tokens have kinds that
no line would give them there. -/
theorem evaluate_of_build_division_before_missing_value :
    let quotient : Draft := .binary (.number ⟨"NumberToken", 1, none, some (-4)⟩)
      ⟨"SlashToken", 9, none, none⟩
      (.parenthesized ⟨"BadToken", 7, none, none⟩ (.number ⟨"StarToken", 3, some "x", some 0⟩)
        ⟨"NumberToken", 0, none, some 5⟩) true
    let draft : Draft := .binary quotient ⟨"PlusToken", 2, none, none⟩
      (.number ⟨"NumberToken", 8, some "8", none⟩) true
    draft.IsChecked ∧ ∃ expr, draft.build = .ok expr ∧
      expr.evaluate = .error (.divisionByZero 9) ∧
      expr.postorder.filterMap Expr.fault? = [.divisionByZero 9, .missingValue 8] := by
  intro quotient draft
  have checked : draft.IsChecked := by simp [draft, quotient, IsChecked]
  obtain ⟨-, evaluates⟩ := evaluate_of_build draft checked
  have built : draft.build = .ok (.binary
      (.binary (.number ⟨.number, 1, none, some (-4)⟩) ⟨.slash, 9, none, none⟩
        (.parenthesized ⟨.bad, 7, none, none⟩ (.number ⟨.star, 3, some "x", some 0⟩)
          ⟨.number, 0, none, some 5⟩))
      ⟨.plus, 2, none, none⟩ (.number ⟨.number, 8, some "8", none⟩)) := by rfl
  refine ⟨checked, _, built, ((evaluates _ built).2.2.2 _).mpr ?_, ?_⟩
  · decide +kernel
  · decide +kernel

end Draft

end Calculator
