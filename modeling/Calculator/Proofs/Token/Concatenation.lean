import Calculator.Proofs.Cursor.Remaining
import Calculator.Proofs.Token.Payload
import Calculator.Proofs.Token.Separators

/-!
# `Calculator.Proofs.Token.Concatenation`: the tokens of one text behind another

A token is cut off a text without looking at what is before it, and what is
behind it matters only if a run of digits or blanks goes on there. So the tokens
of two texts, one behind the other, are those of the first and those of the
second, moved, unless the first text ends and the second starts with characters of
one run (`Meets`). Then the two tokens that meet are one, and all others are the
same.

* `Scans.exists_gives`: every text gives some tokens (`Gives`), whatever stands
  behind it, as long as no run goes on there, and whatever the rest of the line is.
* `map_token_readAll_run`: a longest run at the front is one token.
* `exists_run_last`: a text that ends with a character of a run ends with the
  whole run. In front of it nothing goes on, so the first law applies there, and
  the second tells what becomes of the run (`lex_append_of_meets`).

`lex_append` puts them together. What it says of the diagnostics follows from the
tokens, of which the diagnostics are the complaints.
-/

set_option autoImplicit false

namespace Calculator

open Text

/-! ### Runs that meet -/

/-- Whether tokens of a kind are runs of characters like this one. Only numbers and blanks run on,
all other tokens are single characters. -/
def Kind.runsOver : Kind → Char → Bool
  | number, c => isDigit c
  | whitespace, c => isBlank c
  | _, _ => false

/-- Whether a text ends and another starts with characters of runs of one kind, so that putting
the texts together makes one token of two. -/
def Meets (kind : Kind) (front behind : List Char) : Prop :=
  ∃ c ∈ front.getLast?, ∃ d ∈ behind.head?, kind.runsOver c = true ∧ kind.runsOver d = true

/-- Bad characters do not run on, so two of them next to each other remain two tokens. -/
theorem Meets.kind_ne_bad {kind : Kind} {front behind : List Char}
    (h : Meets kind front behind) : kind ≠ .bad := by
  rintro rfl
  obtain ⟨c, _, d, _, runs, _⟩ := h
  cases runs

/-- The token of a run of a kind, with the value of the run if it is a number that is accepted. -/
def Token.ofRun (largest : Int) (kind : Kind) (position : Nat) (run : List Char) : Token :=
  ⟨kind, position, some (String.ofList run),
    if kind = .number then numberValue? largest run else none⟩

/-- The token of two runs that meet. Its value is worked out anew from all digits, so it may be
missing where both parts have one. -/
def Token.join (largest : Int) (first second : Token) : Token :=
  ofRun largest first.kind first.position (first.chars ++ second.chars)

@[simp] theorem Token.chars_ofRun (largest : Int) (kind : Kind) (position : Nat)
    (run : List Char) : (ofRun largest kind position run).chars = run :=
  String.toList_ofList

/-- What does not meet the text behind a part does not meet it at the end of that
part. -/
theorem not_meets_of_append {kind : Kind} {front middle behind : List Char}
    (h : ¬ Meets kind (front ++ middle) behind) : ¬ Meets kind middle behind := by
  rintro ⟨c, hc, both⟩
  refine h ⟨c, ?_, both⟩
  rw [List.getLast?_append, Option.mem_def.mp hc]
  rfl

/-- A run that has stopped does not go on in a text that does not meet it, whatever stands between
the two. -/
theorem stopsRun_append {kind : Kind} {run behind rest : List Char} (hne : run ≠ [])
    (hrun : ∀ c ∈ run, kind.runsOver c = true) (stop : StopsRun kind.runsOver behind)
    (apart : ¬ Meets kind (run ++ behind) rest) : StopsRun kind.runsOver (behind ++ rest) := by
  cases behind with
  | cons c cs => exact stop
  | nil =>
    intro d hd
    rw [List.append_nil] at apart
    rw [Bool.eq_false_iff]
    intro hover
    exact apart ⟨run.getLast hne, List.getLast?_eq_some_getLast hne, d, hd,
      hrun _ (List.getLast_mem hne), hover⟩

/-- A text that ends with a character of a class ends with a longest run of it, which is not
empty. This is `exists_run_cons` seen from behind. -/
theorem exists_run_last {p : Char → Bool} {text : List Char} {c : Char}
    (hc : c ∈ text.getLast?) (hp : p c = true) :
    ∃ front run, text = front ++ run ∧ run ≠ [] ∧ (∀ d ∈ run, p d = true) ∧
      ∀ d ∈ front.getLast?, p d = false := by
  -- Read backwards, this is a text that starts with such a character.
  obtain ⟨cs, hcs⟩ := List.getLast?_eq_some_iff.mp hc
  obtain ⟨run, front, htext, hne, hrun, stop⟩ := exists_run_cons cs.reverse hp
  refine ⟨front.reverse, run.reverse, ?_, by simpa using hne, by simpa using hrun, ?_⟩
  · rw [← List.reverse_append, ← htext, hcs]
    simp
  · intro d hd
    rw [List.getLast?_reverse] at hd
    exact stop d hd

namespace Lexeme

variable {line : String} {largest : Int} {position : Nat} {front : List Char}
  {lexemes : List Lexeme}

/-- A longest run at the front of a text is one token, whether it is a number or a blank. -/
theorem map_token_readAll_run (line : String) (largest : Int) (position : Nat) {kind : Kind}
    {run rest : List Char} (hne : run ≠ []) (hrun : ∀ c ∈ run, kind.runsOver c = true)
    (stop : StopsRun kind.runsOver rest) :
    (readAll line largest position (run ++ rest)).map token =
      Token.ofRun largest kind position run ::
        (readAll line largest (position + run.length) rest).map token := by
  cases kind with
  | number =>
    rw [readAll_number line largest position hne hrun stop]
    rfl
  | whitespace =>
    rw [readAll_whitespace line largest position hne hrun stop]
    rfl
  | _ =>
    -- Tokens of other kinds are no runs.
    obtain ⟨c, cs, rfl⟩ := List.exists_cons_of_ne_nil hne
    cases hrun c List.mem_cons_self

/-- At `position` in any line, a text gives the tokens `tokens`, whatever stands
behind it, as long as no run goes on there. -/
def Gives (largest : Int) (position : Nat) (front : List Char) (tokens : List Token) : Prop :=
  ∀ (line : String) (rest : List Char), (∀ kind, ¬ Meets kind front rest) →
    (readAll line largest position (front ++ rest)).map token =
      tokens ++ (readAll line largest (position + front.length) rest).map token

/-- A run in front of a text gives one token more, if the text does not go on with characters of
the run. -/
theorem Gives.run (kind : Kind) {run front : List Char} {tokens : List Token} (hne : run ≠ [])
    (hrun : ∀ c ∈ run, kind.runsOver c = true) (stop : StopsRun kind.runsOver front)
    (h : Gives largest (position + run.length) front tokens) :
    Gives largest position (run ++ front) (Token.ofRun largest kind position run :: tokens) := by
  intro line rest apart
  have stopped := stopsRun_append hne hrun stop (apart kind)
  rw [List.append_assoc, map_token_readAll_run line largest position hne hrun stopped,
    h line rest fun kind => not_meets_of_append (apart kind), List.length_append, Nat.add_assoc]
  rfl

/-- Every text gives some tokens, those that it is cut into without the end of the line. The
induction is on the cuts. -/
theorem Scans.exists_gives (h : Scans line largest position front lexemes) :
    ∃ tokens, Gives largest position front tokens := by
  induction h with
  | done => exact ⟨[], fun line rest _ => rfl⟩
  | number hne digits stop _ ih =>
    obtain ⟨tokens, h⟩ := ih
    exact ⟨_, h.run .number hne digits stop⟩
  | whitespace hne blanks stop _ ih =>
    obtain ⟨tokens, h⟩ := ih
    exact ⟨_, h.run .whitespace hne blanks stop⟩
  | @symbol position c front lexemes noDigit noBlank _ ih =>
    obtain ⟨tokens, h⟩ := ih
    refine ⟨(Lexeme.symbol position c front).token :: tokens, fun line rest apart => ?_⟩
    -- The characters behind the first one meet what follows exactly as the whole text does.
    have later : ∀ kind, ¬ Meets kind front rest := fun kind =>
      not_meets_of_append (show ¬ Meets kind ([c] ++ front) rest from apart kind)
    have length : position + (c :: front).length = position + 1 + front.length := by
      rw [List.length_cons]
      omega
    rw [List.cons_append, readAll_symbol line largest position _ noDigit noBlank,
      List.map_cons, h line rest later, length]
    rfl

/-- By itself, a text has the tokens that it gives and the end of the line, as an empty text meets
no run. -/
theorem Gives.map_token {tokens : List Token} (h : Gives largest position front tokens)
    (line : String) :
    (readAll line largest position front).map token =
      tokens ++ [Token.endOfFile (position + front.length)] := by
  have alone := h line [] fun kind => by simp [Meets]
  rw [List.append_nil] at alone
  rw [alone, readAll]
  rfl

end Lexeme

/-- The tokens of the second text are those that it has by itself, moved behind the first one. -/
theorem map_token_readAll_moved (line behind : String) (largest : Int) (shift : Nat) :
    (Lexeme.readAll line largest shift behind.toList).map Lexeme.token =
      (lex behind largest).map (Token.relocate (· + shift)) := by
  have moved := Lexeme.map_token_readAll_add behind line largest 0 shift behind.toList
  rwa [Nat.zero_add] at moved

/-! ### Diagnostics -/

/-- Whether a diagnostic is about a bad character. These are counted apart, as joining two texts
neither adds nor loses any of them. -/
def Diagnostic.isBadCharacter : Diagnostic → Bool
  | badCharacter _ => true
  | _ => false

/-- Whether a diagnostic is about a number. Joining two texts may add one of them, or make one of
two. -/
def Diagnostic.isInvalidNumber : Diagnostic → Bool
  | invalidNumber _ => true
  | _ => false

/-- Whether a token is a number that has no value, because it is too large or has too many
digits. -/
def Token.isRefused (token : Token) : Bool :=
  token.kind = .number && token.value.isNone

/-- What is wrong with a token other than a number, which is a bad character if anything is. -/
def Token.badCharacter? (token : Token) : Option Diagnostic :=
  if token.kind = .bad then token.chars.head?.map .badCharacter else none

/-- A token that is not bad is no bad character to complain about, so only single characters of no
class count. -/
theorem Token.badCharacter?_of_kind_ne_bad {token : Token} (h : token.kind ≠ .bad) :
    token.badCharacter? = none :=
  if_neg h

/-- The complaint of a token is about a bad character exactly if the token is a bad one, and then
this is all that is wrong with it. -/
theorem Token.filter_isBadCharacter (line : String) (token : Token) :
    (token.complaint? line).filter Diagnostic.isBadCharacter = token.badCharacter? := by
  obtain ⟨kind, position, text, value⟩ := token
  cases kind with
  | bad =>
    show ((Token.chars _).head?.map Diagnostic.badCharacter).filter _ = _
    cases hc : (Token.mk .bad position text value).chars.head? <;>
      simp [badCharacter?, hc, Diagnostic.isBadCharacter]
  | number => cases value <;> rfl
  | _ => rfl

/-- The complaint of a token is about a number exactly if the token is a number without a
value. -/
theorem Token.map_isInvalidNumber (line : String) (token : Token) :
    ((token.complaint? line).map Diagnostic.isInvalidNumber).getD false = token.isRefused := by
  obtain ⟨kind, position, text, value⟩ := token
  cases kind with
  | bad =>
    show (((Token.chars _).head?.map Diagnostic.badCharacter).map _).getD false = _
    cases (Token.mk .bad position text value).chars.head? <;> rfl
  | number => cases value <;> rfl
  | _ => rfl

/-- The diagnostics of a line that are about bad characters are those of its bad tokens, in
order. -/
theorem filter_diagnostics (line : String) (largest : Int) :
    (Token.Stream.ofLine line largest).drain.2.diagnostics.filter Diagnostic.isBadCharacter =
      (lex line largest).filterMap Token.badCharacter? := by
  rw [diagnostics_drain, List.filter_filterMap]
  exact List.filterMap_congr fun token _ => token.filter_isBadCharacter line

/-- A line has as many diagnostics about numbers as it has numbers without a value. -/
theorem countP_diagnostics (line : String) (largest : Int) :
    (Token.Stream.ofLine line largest).drain.2.diagnostics.countP Diagnostic.isInvalidNumber =
      (lex line largest).countP Token.isRefused := by
  rw [diagnostics_drain, List.countP_filterMap]
  exact List.countP_congr fun token _ => by rw [token.map_isInvalidNumber line]

/-! ### Two texts -/

/-- If no runs meet, the tokens of both texts are kept, those of the second at positions further
on. Only the end of the first text is left out. -/
theorem lex_append_of_not_meets {front behind : String}
    (h : ∀ kind, ¬ Meets kind front.toList behind.toList) (largest : Int) :
    ∃ tokens, lex front largest = tokens ++ [Token.endOfFile front.length] ∧
      lex (front ++ behind) largest =
        tokens ++ (lex behind largest).map (Token.relocate (· + front.length)) := by
  obtain ⟨tokens, gives⟩ := (Lexeme.scans_readAll front largest 0 front.toList).exists_gives
  have alone := gives.map_token front
  have together := gives (front ++ behind) behind.toList h
  rw [Nat.zero_add, String.length_toList] at alone together
  rw [map_token_readAll_moved, ← String.toList_append] at together
  exact ⟨tokens, alone, together⟩

/-- No character belongs to runs of two kinds, as no blank is a digit. So at most one kind can
make two texts meet. -/
theorem Kind.eq_of_runsOver {kind other : Kind} {c : Char} (h : kind.runsOver c = true)
    (hother : other.runsOver c = true) : kind = other := by
  have digitOrBlank : ∀ {kind : Kind}, kind.runsOver c = true →
      kind = .number ∧ isDigit c = true ∨ kind = .whitespace ∧ isBlank c = true := by
    intro kind
    cases kind <;> simp [runsOver]
  rcases digitOrBlank h with ⟨rfl, digit⟩ | ⟨rfl, blank⟩ <;>
    rcases digitOrBlank hother with ⟨rfl, otherDigit⟩ | ⟨rfl, otherBlank⟩
  · rfl
  · simp [isDigit_of_isBlank otherBlank] at digit
  · simp [isDigit_of_isBlank blank] at otherDigit
  · rfl

/-- A longest run does not meet what is in front of it, in runs of its own kind or of any
other. -/
theorem not_meets_run {kind : Kind} {before run rest : List Char} (hne : run ≠ [])
    (hrun : ∀ c ∈ run, kind.runsOver c = true)
    (stop : ∀ c ∈ before.getLast?, kind.runsOver c = false) (other : Kind) :
    ¬ Meets other before (run ++ rest) := by
  rintro ⟨c, hc, d, hd, runs, overRun⟩
  obtain ⟨first, later, rfl⟩ := List.exists_cons_of_ne_nil hne
  obtain rfl : first = d := Option.some.inj hd
  obtain rfl := Kind.eq_of_runsOver overRun (hrun first List.mem_cons_self)
  rw [stop c hc] at runs
  cases runs

/-- If runs of one kind meet, the last token of the first text and the first of the second become
one, and all other tokens are kept. -/
theorem lex_append_of_meets {kind : Kind} {front behind : String}
    (h : Meets kind front.toList behind.toList) (largest : Int) :
    ∃ before last next later,
      lex front largest = before ++ [last, Token.endOfFile front.length] ∧
      (lex behind largest).map (Token.relocate (· + front.length)) = next :: later ∧
      last.kind = kind ∧ next.kind = kind ∧
      lex (front ++ behind) largest = before ++ last.join largest next :: later := by
  obtain ⟨c, hc, d, hd, runs, overBehind⟩ := h
  obtain ⟨before, run, hfront, hne, hrun, stopBefore⟩ := exists_run_last hc runs
  obtain ⟨cs, hcs⟩ := List.head?_eq_some_iff.mp hd
  obtain ⟨more, rest, hbehind, hneMore, hmore, stop⟩ := exists_run_cons cs overBehind
  rw [← hcs] at hbehind
  have hlength : before.length + run.length = front.length := by
    rw [← List.length_append, ← hfront, String.length_toList]
  -- In front of the run nothing goes on, whatever becomes of the run.
  obtain ⟨tokens, gives⟩ := (Lexeme.scans_readAll front largest 0 before).exists_gives
  have cut : ∀ (line : String) {longer rest : List Char}, longer ≠ [] →
      (∀ c ∈ longer, kind.runsOver c = true) → StopsRun kind.runsOver rest →
      (Lexeme.readAll line largest 0 (before ++ (longer ++ rest))).map Lexeme.token =
        tokens ++ Token.ofRun largest kind before.length longer ::
          (Lexeme.readAll line largest (before.length + longer.length) rest).map
            Lexeme.token := by
    intro line longer rest hneLonger hlonger stopLonger
    rw [gives line _ fun other => not_meets_run hneLonger hlonger stopBefore other, Nat.zero_add,
      Lexeme.map_token_readAll_run line largest _ hneLonger hlonger stopLonger]
  refine ⟨tokens, Token.ofRun largest kind before.length run,
    Token.ofRun largest kind front.length more,
    (Lexeme.readAll (front ++ behind) largest (front.length + more.length) rest).map Lexeme.token,
    ?_, ?_, rfl, rfl, ?_⟩
  · have ends : StopsRun kind.runsOver [] := by simp [StopsRun]
    have alone := cut front hne hrun ends
    rw [List.append_nil, ← hfront, hlength, Lexeme.readAll] at alone
    exact alone
  · rw [← map_token_readAll_moved (front ++ behind), hbehind,
      Lexeme.map_token_readAll_run _ largest _ hneMore hmore stop]
  · have hboth : ∀ c ∈ run ++ more, kind.runsOver c = true :=
      List.forall_mem_append.mpr ⟨hrun, hmore⟩
    have whole := cut (front ++ behind) (List.append_ne_nil_of_left_ne_nil hne more) hboth stop
    have htext : (front ++ behind).toList = before ++ (run ++ more ++ rest) := by
      simp [hfront, hbehind]
    rw [← htext, List.length_append, ← Nat.add_assoc, hlength] at whole
    rw [Token.join, Token.chars_ofRun, Token.chars_ofRun]
    exact whole

/-- The bad characters of a text that is put together are those of both parts, whether or not runs
meet. -/
theorem filterMap_badCharacter?_append (front behind : String) (largest : Int) :
    (lex (front ++ behind) largest).filterMap Token.badCharacter? =
      (lex front largest).filterMap Token.badCharacter? ++
        (lex behind largest).filterMap Token.badCharacter? := by
  -- Where a token stands does not matter for what is wrong with it.
  have moved : (lex behind largest).filterMap Token.badCharacter? =
      ((lex behind largest).map (Token.relocate (· + front.length))).filterMap
        Token.badCharacter? := by
    rw [List.filterMap_map]
    rfl
  have badEnd : (Token.endOfFile front.length).badCharacter? = none := rfl
  rw [moved]
  by_cases h : ∀ kind, ¬ Meets kind front.toList behind.toList
  · obtain ⟨tokens, hfront, hwhole⟩ := lex_append_of_not_meets h largest
    rw [hfront, hwhole]
    simp only [List.filterMap_append, List.filterMap_cons, List.filterMap_nil, badEnd,
      List.append_nil]
  · push Not at h
    obtain ⟨kind, h⟩ := h
    have hkind := h.kind_ne_bad
    obtain ⟨before, last, next, later, hfront, hmoved, rfl, hnext, hwhole⟩ :=
      lex_append_of_meets h largest
    -- Neither of the tokens that meet is a bad character, and nor is their join.
    have badLast := Token.badCharacter?_of_kind_ne_bad hkind
    have badNext : next.badCharacter? = none :=
      Token.badCharacter?_of_kind_ne_bad (hnext ▸ hkind)
    have badJoin : (last.join largest next).badCharacter? = none :=
      Token.badCharacter?_of_kind_ne_bad hkind
    rw [hfront, hmoved, hwhole]
    simp only [List.filterMap_append, List.filterMap_cons, List.filterMap_nil, badLast, badNext,
      badJoin, badEnd, List.append_nil]

/-- The tokens of two texts, one behind the other, are those of the first, without
its end, and those of the second, moved behind it. If the first text ends and the
second starts with digits, or with blanks, then the two tokens that meet there are
one token at the place of the first, which holds the whole run, and all others are
the same. In either case the bad characters are those of both texts. The numbers
that are refused are those of both texts as well, but for the numbers that meet,
in place of which their join is refused or not. -/
theorem lex_append (front behind : String) (largest : Int) :
    let moved := (lex behind largest).map (Token.relocate (· + front.length))
    let whole := lex (front ++ behind) largest
    let badCharacters := fun text =>
      (Token.Stream.ofLine text largest).drain.2.diagnostics.filter Diagnostic.isBadCharacter
    let invalidNumbers := fun text =>
      (Token.Stream.ofLine text largest).drain.2.diagnostics.countP Diagnostic.isInvalidNumber
    ((∀ kind, ¬ Meets kind front.toList behind.toList) →
      whole = (lex front largest).dropLast ++ moved ∧
      invalidNumbers (front ++ behind) = invalidNumbers front + invalidNumbers behind) ∧
    (∀ kind, Meets kind front.toList behind.toList →
      ∃ before last next later,
        lex front largest = before ++ [last, Token.endOfFile front.length] ∧
        moved = next :: later ∧ last.kind = kind ∧ next.kind = kind ∧
        whole = before ++ last.join largest next :: later ∧
        invalidNumbers (front ++ behind) + [last, next].countP Token.isRefused =
          invalidNumbers front + invalidNumbers behind +
            [last.join largest next].countP Token.isRefused) ∧
    badCharacters (front ++ behind) = badCharacters front ++ badCharacters behind := by
  intro moved whole badCharacters invalidNumbers
  -- Tokens that are moved are refused as before, as only their position changes.
  have refusedMoved :
      moved.countP Token.isRefused = (lex behind largest).countP Token.isRefused := by
    rw [List.countP_map]
    rfl
  refine ⟨fun h => ?_, fun kind h => ?_, ?_⟩
  · obtain ⟨tokens, hfront, hwhole⟩ := lex_append_of_not_meets h largest
    refine ⟨by rw [show whole = _ from hwhole, hfront, List.dropLast_concat], ?_⟩
    simp only [invalidNumbers, countP_diagnostics]
    rw [hfront, ← refusedMoved, hwhole]
    simp [moved, Token.isRefused, Token.endOfFile]
  · obtain ⟨before, last, next, later, hfront, hmoved, hlast, hnext, hwhole⟩ :=
      lex_append_of_meets h largest
    refine ⟨before, last, next, later, hfront, hmoved, hlast, hnext, hwhole, ?_⟩
    simp only [invalidNumbers, countP_diagnostics]
    rw [hfront, ← refusedMoved, show moved = _ from hmoved, hwhole]
    -- The two tokens that meet are counted on the one side, and their join on the other.
    have ending : Token.isRefused (.endOfFile front.length) = false := rfl
    simp only [List.countP_append, List.countP_cons, List.countP_nil, ending,
      Bool.false_eq_true, if_false]
    omega
  · simp only [badCharacters, filter_diagnostics]
    exact filterMap_badCharacter?_append front behind largest

/-- Two texts that do not meet, and two whose numbers, each within the largest number, become one
that is above it. -/
theorem lex_append_apart_and_joined :
    lex ("1 +" ++ "$2") 9 =
        (lex "1 +" 9).dropLast ++ (lex "$2" 9).map (Token.relocate (· + 3)) ∧
      ∃ before last next later, lex "4+1" 9 = before ++ [last, Token.endOfFile 3] ∧
        (lex "2*" 9).map (Token.relocate (· + 3)) = next :: later ∧
        lex ("4+1" ++ "2*") 9 = before ++ last.join 9 next :: later ∧
        last.join 9 next = ⟨.number, 2, some "12", none⟩ := by
  have apart : ∀ kind, ¬ Meets kind "1 +".toList "$2".toList := by
    rintro kind ⟨c, hc, d, -, runs, -⟩
    obtain rfl : '+' = c := by simpa using hc
    revert runs
    cases kind <;> decide
  have meet : Meets .number "4+1".toList "2*".toList :=
    ⟨'1', by simp, '2', by simp, by decide, by decide⟩
  obtain ⟨hapart, -⟩ := lex_append "1 +" "$2" 9
  obtain ⟨-, hmeet, -⟩ := lex_append "4+1" "2*" 9
  obtain ⟨before, last, next, later, hfront, hmoved, -, -, hwhole, -⟩ := hmeet _ meet
  -- The tokens that meet are found by comparing with the cuts of both texts.
  have first : lex "4+1" 9 = [⟨.number, 0, some "4", some 4⟩, ⟨.plus, 1, some "+", none⟩] ++
      [⟨.number, 2, some "1", some 1⟩, Token.endOfFile 3] := by
    decide +kernel
  have second : (lex "2*" 9).map (Token.relocate (· + 3)) =
      [⟨.number, 3, some "2", some 2⟩, ⟨.star, 4, some "*", none⟩, Token.endOfFile 5] := by
    decide +kernel
  obtain ⟨rfl, -⟩ := List.cons_eq_cons.mp (List.append_inj' (hfront.symm.trans first) rfl).2
  obtain ⟨rfl, -⟩ := List.cons_eq_cons.mp (hmoved.symm.trans second)
  exact ⟨(hapart apart).1, before, _, _, later, hfront, hmoved, hwhole, by decide +kernel⟩

end Calculator
