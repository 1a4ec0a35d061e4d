import Calculator.Proofs.Cursor.Remaining
import Calculator.Proofs.Token.Payload

/-!
# `Calculator.Proofs.Token.Calls`: one stream, however it is taken

The tokens of a line can be taken one at a time (`Token.Stream.next`) or all that
are left (`Token.Stream.drain`), and both can be mixed. `drain` cuts the rest of
the text at once. `next_of_ended` and `drain_cons` say how the two go together: at
the end of the text both give the end-of-file token and stay there, and before it
the tokens that are left are the next one and those left behind it.

So `drain` is the loop that takes tokens until the end-of-file token comes, and a
loop that passes over some of them gives the others. `Pulls` is that loop and
`pulls_iff` says so. It covers the loop by which a cursor gets its significant
tokens.

`Follows line largest given stream` is the invariant of a stream that gave the
tokens `given` so far: with those that are left they are the tokens of the line
and copies of the last one, and the diagnostics are the complaints of the tokens
given. `Follows.next` is the step, a loop keeps it by its steps, and
`Follows.perform` is the law of all runs of calls.
-/

set_option autoImplicit false

namespace Calculator

open Text

/-! ### The next token -/

namespace Lexeme

variable (line : String) (largest : Int) (position : Nat) (text : List Char)

/-- The characters that the first cut takes up and those that it leaves are all the
characters of the text. -/
theorem width_add_length_rest :
    (read line largest position text).width +
      (read line largest position text).rest.length = text.length := by
  cases text with
  | nil => rfl
  | cons c cs =>
    have digits : (cs.takeWhile isDigit).length + (cs.dropWhile isDigit).length = cs.length := by
      rw [← List.length_append, List.takeWhile_append_dropWhile]
    have blanks : (cs.takeWhile isBlank).length + (cs.dropWhile isBlank).length = cs.length := by
      rw [← List.length_append, List.takeWhile_append_dropWhile]
    -- Runs are cut off at the first character of another class, and a symbol is one character.
    simp only [read]
    split
    · simp only [number, List.length_cons]
      omega
    · split
      · simp only [whitespace, List.length_cons]
        omega
      · simp only [symbol, List.length_cons]
        omega

/-- What the stream reads first from a text is one of the cuts of the text, so all that holds of
cuts holds of the next token. -/
theorem isCut_read : IsCut line largest (read line largest position text) := by
  have scans := scans_readAll line largest position text
  refine scans.isCut _ ?_
  cases text with
  | nil => rw [readAll]; exact List.mem_cons_self
  | cons c cs => rw [readAll]; exact List.mem_cons_self

/-- The first token of a text is the end-of-file token exactly if the text is empty. -/
theorem kind_read_eq_endOfFile_iff :
    (read line largest position text).token.kind = .endOfFile ↔ text = [] := by
  cases text with
  | nil => exact iff_of_true rfl rfl
  | cons c cs =>
    refine iff_of_false ?_ (List.cons_ne_nil c cs)
    simp only [read]
    split
    · simp [number]
    · split
      · simp [whitespace]
      · exact (kind_symbol position c cs).1

end Lexeme

namespace Token.Stream

variable {stream : Token.Stream}

/-- A stream has ended exactly if the end-of-file token comes next. No other token has that kind,
also where nothing can be read from a character. -/
theorem kind_next_eq_endOfFile_iff (stream : Token.Stream) :
    stream.next.1.kind = .endOfFile ↔ stream.rest = [] :=
  Lexeme.kind_read_eq_endOfFile_iff _ _ _ _

/-- A stream that has ended gives the end-of-file token, however often it is asked, and stays as
it is. -/
theorem next_of_ended (h : stream.rest = []) :
    stream.next = (.endOfFile stream.position, stream) := by
  obtain ⟨line, largest, position, rest, diagnostics⟩ := stream
  cases h
  simp [next, Lexeme.read, Lexeme.endOfFile]

/-- At the end of its text, a stream has nothing left but the end-of-file token, however
often it is drained. -/
theorem drain_of_ended (h : stream.rest = []) :
    stream.drain = ([.endOfFile stream.position], stream) := by
  obtain ⟨line, largest, position, rest, diagnostics⟩ := stream
  cases h
  simp [drain, Lexeme.readAll, Lexeme.endOfFile]

/-- Before its end, a stream that is drained gives the next token, and then what draining gives
behind it. This is the step of all inductions on what is left of a stream. -/
theorem drain_cons (h : stream.rest ≠ []) :
    stream.drain = (stream.next.1 :: stream.next.2.drain.1, stream.next.2.drain.2) := by
  obtain ⟨line, largest, position, rest, diagnostics⟩ := stream
  have length := Lexeme.width_add_length_rest line largest position rest
  cases rest with
  | nil => exact absurd rfl h
  | cons c cs =>
    simp only [drain, next, Lexeme.readAll, List.map_cons, List.flatMap_cons, Prod.mk.injEq,
      List.append_assoc, mk.injEq, and_true, true_and]
    omega

/-! ### Loops -/

/-- The loop that takes tokens up to and including the end-of-file token, and
keeps some of them. -/
inductive Pulls (keep : Token → Bool) :
    Token.Stream → List Token → Token.Stream → Prop where
  -- The end-of-file token is the last to be taken.
  | last {stream : Token.Stream} (kind : stream.next.1.kind = .endOfFile) :
    Pulls keep stream ([stream.next.1].filter keep) stream.next.2
  -- Behind any other token the loop goes on.
  | more {stream final : Token.Stream} {tokens : List Token}
    (kind : stream.next.1.kind ≠ .endOfFile) (later : Pulls keep stream.next.2 tokens final) :
    Pulls keep stream ([stream.next.1].filter keep ++ tokens) final

/-- The loop that pulls token after token up to the end takes what is left of the stream, and
keeps the tokens it is told to keep. -/
theorem pulls_drain (keep : Token → Bool) (stream : Token.Stream) :
    Pulls keep stream (stream.drain.1.filter keep) stream.drain.2 := by
  -- By induction on what is left, as each token takes at least one character.
  induction hlength : stream.rest.length using Nat.strongRecOn generalizing stream with
  | ind length ih =>
    by_cases ended : stream.rest = []
    · have loop : Pulls keep stream ([stream.next.1].filter keep) stream.next.2 :=
        .last ((kind_next_eq_endOfFile_iff stream).mpr ended)
      rw [next_of_ended ended] at loop
      rwa [drain_of_ended ended]
    · have shorter : stream.next.2.rest.length < length := by
        obtain ⟨c, cs, hrest⟩ := List.exists_cons_of_ne_nil ended
        rw [← hlength, next, hrest]
        exact Lexeme.length_rest_read_lt _ _ _ c cs
      rw [drain_cons ended]
      show Pulls keep stream (([stream.next.1] ++ _).filter keep) _
      rw [List.filter_append]
      exact .more (mt (kind_next_eq_endOfFile_iff stream).mp ended) (ih _ shorter _ rfl)

/-- A loop that takes tokens up to the end-of-file token takes what draining the stream
gives, and keeps those tokens of it that it is to keep. -/
theorem pulls_iff (keep : Token → Bool) (stream final : Token.Stream) (tokens : List Token) :
    Pulls keep stream tokens final ↔
      tokens = stream.drain.1.filter keep ∧ final = stream.drain.2 := by
  constructor
  · intro h
    induction h with
    | @last stream kind =>
      have ended := (kind_next_eq_endOfFile_iff stream).mp kind
      rw [drain_of_ended ended, next_of_ended ended]
      exact ⟨rfl, rfl⟩
    | @more stream final tokens kind _ ih =>
      rw [drain_cons (mt (kind_next_eq_endOfFile_iff stream).mpr kind), ih.1, ih.2]
      exact ⟨(List.filter_append [stream.next.1] _).symm, rfl⟩
  · rintro ⟨rfl, rfl⟩
    exact pulls_drain keep stream

/-! ### Calls -/

/-- What can be asked of a stream: its next token, or all tokens that are left. -/
inductive Call where
  | next
  | drain
  deriving Repr

/-- The tokens that a call gives, and the stream behind them, which later calls go on with. -/
def Call.apply : Call → Token.Stream → List Token × Token.Stream
  | next, stream => ([stream.next.1], stream.next.2)
  | drain, stream => stream.drain

/-- The tokens that some calls give one after the other, and the stream behind
them. -/
def perform (stream : Token.Stream) : List Call → List Token × Token.Stream
  | [] => ([], stream)
  | call :: calls =>
    let (given, reached) := call.apply stream
    let (later, final) := reached.perform calls
    (given ++ later, final)

/-- What holds of a stream that gave some tokens of a line: the tokens given and those left
are the tokens of the line, up to copies of the last one, and its diagnostics are those of
the tokens given so far. -/
structure Follows (line : String) (largest : Int) (given : List Token)
    (stream : Token.Stream) : Prop where
  line_eq : stream.line = line
  -- The end of the text is the end of the line.
  ends : stream.position + stream.rest.length = line.length
  -- What was given and what is left is the line, with copies of its last token.
  tokens : ∃ copies, given ++ stream.drain.1 =
    lex line largest ++ List.replicate copies (.endOfFile line.length)
  diagnostics : stream.diagnostics = given.filterMap (Token.complaint? line)

variable {line : String} {largest : Int} {given : List Token}

/-- A stream follows its line at the start, where no token was given and nothing was reported. -/
theorem follows_ofLine (line : String) (largest : Int) :
    Follows line largest [] (ofLine line largest) where
  line_eq := rfl
  ends := (Nat.zero_add _).trans String.length_toList
  tokens := ⟨0, (List.append_nil _).symm⟩
  diagnostics := rfl

/-- A stream that follows its line still does so behind the next token, also where the line has
ended and the end-of-file token is given once more. -/
theorem Follows.next (h : Follows line largest given stream) :
    Follows line largest (given ++ [stream.next.1]) stream.next.2 where
  line_eq := h.line_eq
  ends := by
    have length :=
      Lexeme.width_add_length_rest stream.line stream.largest stream.position stream.rest
    have ends := h.ends
    simp only [Token.Stream.next]
    omega
  tokens := by
    obtain ⟨copies, htokens⟩ := h.tokens
    by_cases ended : stream.rest = []
    · -- The end-of-file token is still left, so one more copy of it was given.
      have place : stream.position = line.length := by simpa [ended] using h.ends
      rw [drain_of_ended ended, place] at htokens
      refine ⟨copies + 1, ?_⟩
      rw [next_of_ended ended, drain_of_ended ended, place, htokens, List.append_assoc,
        ← List.replicate_succ']
    · refine ⟨copies, ?_⟩
      rw [← htokens, drain_cons ended, List.append_assoc]
      rfl
  diagnostics := by
    have cut := Lexeme.isCut_read stream.line stream.largest stream.position stream.rest
    rw [List.filterMap_append, ← h.diagnostics, ← h.line_eq]
    show _ ++ Lexeme.diagnostics _ = _ ++ _
    rw [cut.diagnostics_eq]
    cases hcomplaint : (stream.next.1).complaint? stream.line <;>
      simp_all [Token.Stream.next]

/-- A stream that follows its line still does so behind a loop, which only takes tokens
one after the other. -/
theorem Follows.pulls {final : Token.Stream} {tokens : List Token}
    (h : Follows line largest given stream) (loop : Pulls (fun _ => true) stream tokens final) :
    Follows line largest (given ++ tokens) final := by
  induction loop generalizing given with
  | last _ => exact h.next
  | more _ _ ih =>
    have later := ih h.next
    rwa [List.append_assoc] at later

/-- A stream that follows its line still does so behind every call. Draining is one call of many
tokens, which is an induction on what is left. -/
theorem Follows.apply (h : Follows line largest given stream) (call : Call) :
    Follows line largest (given ++ (call.apply stream).1) (call.apply stream).2 := by
  cases call with
  | next => exact h.next
  | drain =>
    have loop := pulls_drain (fun _ => true) stream
    rw [List.filter_true] at loop
    exact h.pulls loop

/-- A stream that follows its line still does so behind any run of calls. This is the invariant,
carried from call to call by induction. -/
theorem Follows.perform (h : Follows line largest given stream) (calls : List Call) :
    Follows line largest (given ++ (stream.perform calls).1) (stream.perform calls).2 := by
  induction calls generalizing given stream with
  | nil => rwa [Token.Stream.perform, List.append_nil]
  | cons call calls ih =>
    have later := ih (h.apply call)
    rwa [List.append_assoc] at later

/-- What is left of a line ends with its end-of-file token and has no other, so whoever drains a
stream knows where the line ends. -/
theorem Follows.exists_drain (h : Follows line largest given stream) :
    ∃ front, stream.drain.1 = front ++ [.endOfFile line.length] ∧
      ∀ token ∈ front, token.kind ≠ .endOfFile := by
  obtain ⟨front, hfront, isLine, -⟩ :=
    (Lexeme.scans_readAll stream.line stream.largest stream.position stream.rest).lineFrom
  rw [h.ends] at hfront
  exact ⟨front, hfront, isLine.noEnd⟩

end Token.Stream

open Token.Stream in
/-- The tokens of a line are one stream, however they are taken. Whatever was
asked of the stream before, the tokens given so far are the first ones of the
line, with copies of its last token behind them. What is left then are the tokens
up to the first end-of-file token that comes next, and taking all of them is the
same as taking one after the other. The diagnostics are the complaints of the
tokens given.

A cursor takes the tokens in a loop of its own and passes over blanks and bad
characters. What it gets are the other tokens of the line, of which only the last
is an end-of-file token and each stands behind the one before, and all
diagnostics of the line. -/
theorem perform_one_stream (line : String) (largest : Int) :
    let start := ofLine line largest
    let last := Token.endOfFile line.length
    let endless := fun copies => lex line largest ++ List.replicate copies last
    (∀ calls : List Call,
      let (given, reached) := start.perform calls
      (∃ copies, given <+: endless copies) ∧
      (∃ copies front, given ++ reached.drain.1 = endless copies ∧
        reached.drain.1 = front ++ [last] ∧ ∀ token ∈ front, token.kind ≠ .endOfFile) ∧
      (∀ tokens final, Pulls (fun _ => true) reached tokens final ↔
        (tokens, final) = reached.drain) ∧
      reached.diagnostics = given.filterMap (Token.complaint? line)) ∧
    ∀ maxDepth, let cursor := Cursor.ofLine line largest maxDepth
      (∃ final, Pulls (fun token => token.kind ≠ .whitespace ∧ token.kind ≠ .bad)
        start cursor.tokens final ∧ cursor.diagnostics = final.diagnostics) ∧
      cursor.tokens = (lex line largest).filter
        (fun token => token.kind ≠ .whitespace ∧ token.kind ≠ .bad) ∧
      cursor.diagnostics = (lex line largest).filterMap (Token.complaint? line) ∧
      (∃ front, cursor.tokens = front ++ [last] ∧ ∀ token ∈ front, token.kind ≠ .endOfFile) ∧
      cursor.tokens.Pairwise fun token later => token.position < later.position := by
  intro start last endless
  constructor
  · intro calls
    -- What was given and what is still to come are kept together through all calls.
    have follows := (follows_ofLine line largest).perform calls
    rw [List.nil_append] at follows
    obtain ⟨copies, htokens⟩ := follows.tokens
    obtain ⟨front, hfront, noEnd⟩ := follows.exists_drain
    refine ⟨⟨copies, _, htokens⟩, ⟨copies, front, htokens, hfront, noEnd⟩,
      fun tokens final => ?_, follows.diagnostics⟩
    rw [pulls_iff, List.filter_true]
    exact Prod.mk_inj.symm
  · intro maxDepth cursor
    obtain ⟨tokens, h⟩ := Cursor.onLine_ofLine line largest maxDepth
    -- The cursor keeps the tokens that are neither blanks nor bad, under another name.
    have significant :
        (fun token : Token => decide (token.kind ≠ .whitespace ∧ token.kind ≠ .bad)) =
          fun token => token.kind.isSignificant := by
      funext token
      cases token.kind <;> rfl
    refine ⟨⟨start.drain.2, ?_, rfl⟩, ?_, diagnostics_drain line largest,
      ⟨tokens, h.tokens_eq, h.isLine.noEnd⟩, ?_⟩
    · rw [significant]
      exact pulls_drain _ start
    · rw [significant]
      rfl
    · rw [h.tokens_eq]
      exact h.isLine.increasing

end Calculator
