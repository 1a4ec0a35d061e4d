import Calculator.Proofs.Grammar.Reads

/-!
# `Calculator.Proofs.Grammar.Lookahead`: how far reading looks ahead

A reading leaves some tokens, and it has looked at the first of them and no
further. So the tokens behind that one can be replaced by any others, and the
end of the line by any other end, and the reading is the same. A group that is
passed over is no exception, however long it is: it ends with the parenthesis
that closes it, or in front of the end of the line, which is then the token
that was looked at.

* `require_of_head?`, `dropGroup_of_head?`: this is so of the two operations
  that take tokens.
* `Reads.of_head?`: so it is of every derivation. What a derivation consumes
  is carried along as `front`, and the induction holds for any tokens behind
  it that start alike, because the parts of a reading follow each other.
-/

set_option autoImplicit false

namespace Calculator.Grammar

variable {grammar : Grammar} {depth : Nat} {part : Part} {input front behind : List Token}
  {reading : Reading} {next : Token}

/-- With some tokens in front, the first token is the first of these, or the
one that was first before. -/
theorem head?_append (front : List Token) (h : behind.head? = some next) :
    (front ++ behind).head? = some (front.headD next) := by
  cases front with
  | nil => exact h
  | cons token rest => rfl

/-- The first token, if there is one, is the current one, and the end of the line does not matter
then. -/
theorem current_of_head? (grammar : Grammar) (h : input.head? = some next) :
    grammar.current input = next := by
  rw [current, List.headD_eq_head?_getD, h]
  rfl

/-- A condition on the first token, if there is one, holds of any tokens that
start alike. -/
theorem head_of_head? {p : Token → Prop} (head : ∀ token ∈ input.head?, p token)
    (h : input.head? = some next) (hbehind : behind.head? = some next) :
    ∀ token ∈ behind.head?, p token := by
  rw [hbehind, ← h]
  exact head

/-- Requiring a token looks no further than the first token that is left behind it, so all tokens
behind that one may be others. -/
theorem require_of_head? {kind : Kind} (h : (grammar.require kind input).rest.head? = some next) :
    ∃ front, input = front ++ (grammar.require kind input).rest ∧
      ∀ (last : Token) (behind : List Token), behind.head? = some next →
        ({ grammar with endOfFile := last } : Grammar).require kind (front ++ behind) =
          { grammar.require kind input with rest := behind } := by
  by_cases found : (grammar.current input).kind = kind
  · have hrequire : grammar.require kind input = ⟨grammar.current input, [], input.tail⟩ :=
      if_pos found
    rw [hrequire] at h ⊢
    cases input with
    | nil => cases h
    | cons token rest =>
      -- The token is taken, and what is left is not looked at.
      refine ⟨[token], rfl, fun last behind _ => ?_⟩
      exact if_pos found
  · have hrequire : grammar.require kind input =
        ⟨.missing kind (grammar.current input).position,
          [.unexpectedToken (grammar.current input).kind kind], input⟩ := if_neg found
    rw [hrequire] at h ⊢
    refine ⟨[], rfl, fun last behind hbehind => ?_⟩
    have same : ({ grammar with endOfFile := last } : Grammar).current behind =
        grammar.current input := by
      rw [current_of_head? _ hbehind, current_of_head? _ h]
    rw [List.nil_append, require, same]
    exact if_neg found

/-- Passing over a group looks no further than the first token behind the group, if there is one,
so the group is the same in front of other tokens. -/
theorem dropGroup_of_head? {opened : Nat} (h : (dropGroup opened input).head? = some next) :
    ∃ front, input = front ++ dropGroup opened input ∧
      ∀ behind : List Token, behind.head? = some next →
        dropGroup opened (front ++ behind) = behind := by
  induction input generalizing opened with
  | nil => cases h
  | cons token rest ih =>
    -- A token that leaves some group open is dropped, whatever follows.
    have goesOn : ∀ more : Nat,
        (∀ rest, dropGroup opened (token :: rest) = dropGroup more rest) →
        ∃ front, token :: rest = front ++ dropGroup opened (token :: rest) ∧
          ∀ behind : List Token, behind.head? = some next →
            dropGroup opened (front ++ behind) = behind := by
      intro more hdrop
      rw [hdrop] at h ⊢
      obtain ⟨front, hrest, hfront⟩ := ih h
      refine ⟨token :: front, congrArg (token :: ·) hrest, fun behind hbehind => ?_⟩
      rw [List.cons_append, hdrop]
      exact hfront behind hbehind
    cases hkind : token.kind with
    | endOfFile =>
      -- The end of the line is looked at, and it stays.
      have stays : ∀ rest, dropGroup opened (token :: rest) = token :: rest := by
        intro rest
        rw [dropGroup, hkind]
      rw [stays] at h ⊢
      refine ⟨[], rfl, fun behind hbehind => ?_⟩
      obtain ⟨_, rfl⟩ := List.head?_eq_some_iff.mp (hbehind.trans h.symm)
      exact stays _
    | openParenthesis =>
      exact goesOn (opened + 1) fun rest => by rw [dropGroup, hkind]
    | closeParenthesis =>
      by_cases closed : opened ≤ 1
      · have ends : ∀ rest, dropGroup opened (token :: rest) = rest := by
          intro rest
          rw [dropGroup, hkind]
          exact if_pos closed
        rw [ends]
        exact ⟨[token], rfl, fun behind _ => ends behind⟩
      · refine goesOn (opened - 1) fun rest => ?_
        rw [dropGroup, hkind]
        exact if_neg closed
    | _ =>
      exact goesOn opened fun rest => by rw [dropGroup, hkind]

/-- A reading looks no further than the first token that it leaves. With the
tokens behind that one replaced, and with any end of the line, it is the same
reading. -/
theorem Reads.of_head? (h : Reads grammar depth part input reading)
    (hnext : reading.rest.head? = some next) :
    ∃ front, input = front ++ reading.rest ∧
      ∀ (last : Token) (behind : List Token), behind.head? = some next →
        Reads { grammar with endOfFile := last } depth part (front ++ behind)
          { reading with rest := behind } := by
  induction h generalizing next with
  | @number depth input head =>
    obtain ⟨front, hinput, hfront⟩ := require_of_head? hnext
    refine ⟨front, hinput, fun last behind hbehind => ?_⟩
    have number : Reads { grammar with endOfFile := last } depth (.whole .primary)
        (front ++ behind) _ :=
      .number (head_of_head? head (by rw [hinput]; exact head?_append front hnext)
        (head?_append front hbehind))
    rw [readNumber, hfront last behind hbehind] at number
    exact number
  | @tooDeep depth opening rest kind deep =>
    obtain ⟨front, hrest, hfront⟩ := dropGroup_of_head? hnext
    refine ⟨opening :: front, congrArg (opening :: ·) hrest, fun last behind hbehind => ?_⟩
    have skipped : Reads { grammar with endOfFile := last } depth (.whole .primary)
        (opening :: (front ++ behind)) _ := .tooDeep kind deep
    rw [skipGroup, hfront behind hbehind] at skipped
    exact skipped
  | @group depth opening rest inner kind shallow _ ih =>
    obtain ⟨closed, hinner, hclosed⟩ := require_of_head? hnext
    -- The first token that is left inside is the closing one, or the next one.
    obtain ⟨front, hrest, hfront⟩ := ih (by rw [hinner]; exact head?_append closed hnext)
    refine ⟨opening :: (front ++ closed), ?_, fun last behind hbehind => ?_⟩
    · show _ = opening :: ((front ++ closed) ++ (grammar.require .closeParenthesis inner.rest).rest)
      rw [List.append_assoc, ← hinner, ← hrest]
    · have group : Reads { grammar with endOfFile := last } depth (.whole .primary)
          (opening :: (front ++ (closed ++ behind))) _ :=
        .group kind shallow (hfront last (closed ++ behind) (head?_append closed hbehind))
      rw [closeGroup, hclosed last behind hbehind, ← List.append_assoc] at group
      exact group
  | @operands depth level input first whole hne _ _ ihFirst ihBehind =>
    obtain ⟨second, hfirst, hsecond⟩ := ihBehind hnext
    obtain ⟨front, hinput, hfront⟩ := ihFirst (by rw [hfirst]; exact head?_append second hnext)
    refine ⟨front ++ second, ?_, fun last behind hbehind => ?_⟩
    · rw [List.append_assoc, ← hfirst]
      exact hinput
    · rw [List.append_assoc]
      exact .operands hne (hfront last (second ++ behind) (head?_append second hbehind))
        (hsecond last behind hbehind)
  | @stop depth level left input head =>
    exact ⟨[], rfl, fun last behind hbehind => .stop (head_of_head? head hnext hbehind)⟩
  | @operator depth level left token rest right whole joins _ _ ihRight ihBehind =>
    obtain ⟨second, hright, hsecond⟩ := ihBehind hnext
    obtain ⟨front, hrest, hfront⟩ := ihRight (by rw [hright]; exact head?_append second hnext)
    refine ⟨token :: (front ++ second), ?_, fun last behind hbehind => ?_⟩
    · rw [List.cons_append, List.append_assoc, ← hright, ← hrest]
    · rw [List.cons_append, List.append_assoc]
      exact .operator joins (hfront last (second ++ behind) (head?_append second hbehind))
        (hsecond last behind hbehind)

end Calculator.Grammar
