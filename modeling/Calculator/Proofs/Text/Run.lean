import Calculator.Kind
import Calculator.Text.Basic

/-!
# `Calculator.Proofs.Text.Run`: classes and runs of characters

A line is cut where the class of its characters changes. This file says
what the classes and their runs are, without tokens.

* `isDigit_of_isBlank`: no character is both a blank and a digit, so the
  order in which the classes are tried does not matter.
* `StopsRun`: a text does not go on with characters of a class.
  `takeWhile_run` and `dropWhile_run` say that a run in front of such a
  text is what is taken off.
* `IsDigitRun`: a longest run of digits anywhere in a text, by what stands
  on either side of it. `isDigitRun_cons` and `isDigitRun_append` find the
  runs of a text from the front.
* `IsBad`: a character of no class.
-/

set_option autoImplicit false

namespace Calculator

open Text

/-! ### Classes of characters -/

/-- A digit lies in one of the blocks of ten, which is all that the table is asked for. -/
theorem isDigit_iff (c : Char) :
    isDigit c = true ↔ ∃ start ∈ digitZeros, start ≤ c.toNat ∧ c.toNat < start + 10 := by
  simp [isDigit, digitValue?]

/-- A blank lies in one of the ranges of the table, the ends of the range included. -/
theorem isBlank_iff (c : Char) :
    isBlank c = true ↔ ∃ range ∈ blankRanges, range.1 ≤ c.toNat ∧ c.toNat ≤ range.2 := by
  simp [isBlank]

/-- No blank is a digit, as no range of blanks meets a block of digits. The tables are small
enough to compare each range with each block. -/
theorem isDigit_of_isBlank {c : Char} (h : isBlank c = true) : isDigit c = false := by
  have apart : ∀ start ∈ digitZeros, ∀ range ∈ blankRanges,
      start + 10 ≤ range.1 ∨ range.2 < start := by decide
  obtain ⟨range, hrange, hlow, hhigh⟩ := (isBlank_iff c).mp h
  rw [Bool.eq_false_iff]
  intro hdigit
  obtain ⟨start, hstart, hfrom, hto⟩ := (isDigit_iff c).mp hdigit
  have := apart start hstart range hrange
  omega

/-- A character of no class: neither a digit nor a blank nor a symbol. Only such a character is
reported as bad. -/
def IsBad (c : Char) : Prop :=
  isDigit c = false ∧ isBlank c = false ∧ Kind.ofSymbol? c = none

/-- Digits of all scripts belong to a class, so they are not bad, also where a run of them is not
accepted as a number. -/
theorem not_isBad_of_isDigit {c : Char} (h : isDigit c = true) : ¬ IsBad c :=
  fun hbad => Bool.false_ne_true (hbad.1.symm.trans h)

/-- Blanks belong to a class, although nothing is read from them, so they are not bad. -/
theorem not_isBad_of_isBlank {c : Char} (h : isBlank c = true) : ¬ IsBad c :=
  fun hbad => Bool.false_ne_true (hbad.2.1.symm.trans h)

/-! ### Runs of characters -/

/-- Whether the first character, if there is one, is not of a class. A run of the class that ends
there is a longest one. -/
def StopsRun (p : Char → Bool) (text : List Char) : Prop :=
  ∀ c ∈ text.head?, p c = false

/-- A character that is not of the class stops a run, whatever follows it. -/
theorem stopsRun_cons {p : Char → Bool} {c : Char} (hc : p c = false) (cs : List Char) :
    StopsRun p (c :: cs) := by
  simpa [StopsRun] using hc

/-- Every text starts with a longest run of a class, which may be empty. This is how a text is
taken apart in the proofs, where the program takes characters while they are of the class. -/
theorem exists_run (p : Char → Bool) (text : List Char) :
    ∃ run rest, text = run ++ rest ∧ (∀ d ∈ run, p d = true) ∧ StopsRun p rest := by
  refine ⟨text.takeWhile p, text.dropWhile p, List.takeWhile_append_dropWhile.symm,
    fun d hd => List.all_eq_true.mp List.all_takeWhile d hd, fun d hd => ?_⟩
  have h := List.head?_dropWhile_not p text
  rwa [Option.mem_def.mp hd] at h

/-- If the first character is of the class, the longest run at the start has this character in it,
and so it is not empty. -/
theorem exists_run_cons {p : Char → Bool} {c : Char} (cs : List Char) (h : p c = true) :
    ∃ run rest, c :: cs = run ++ rest ∧ run ≠ [] ∧ (∀ d ∈ run, p d = true) ∧
      StopsRun p rest := by
  obtain ⟨run, rest, rfl, hrun, stop⟩ := exists_run p cs
  exact ⟨c :: run, rest, rfl, List.cons_ne_nil c run,
    List.forall_mem_cons.mpr ⟨h, hrun⟩, stop⟩

/-- A longest run is what the program takes off the front, as the character behind it is not of
the class. -/
theorem takeWhile_run {p : Char → Bool} {run rest : List Char}
    (hrun : ∀ d ∈ run, p d = true) (hrest : StopsRun p rest) :
    (run ++ rest).takeWhile p = run := by
  have stop : rest.takeWhile p = [] := by
    cases rest with
    | nil => rfl
    | cons c cs => simp [hrest c rfl]
  rw [List.takeWhile_append_of_pos hrun, stop, List.append_nil]

/-- What follows a longest run is what the program leaves when it has taken off the front. -/
theorem dropWhile_run {p : Char → Bool} {run rest : List Char}
    (hrun : ∀ d ∈ run, p d = true) (hrest : StopsRun p rest) :
    (run ++ rest).dropWhile p = rest := by
  have stop : rest.dropWhile p = rest := by
    cases rest with
    | nil => rfl
    | cons c cs => simp [hrest c rfl]
  rw [List.dropWhile_append_of_pos hrun, stop]

/-! ### Runs of digits -/

/-- Digits do not go on behind blanks if they do not go on without them, as a blank is no digit.
So blanks can be put in front of any text that stops a number. -/
theorem StopsRun.behind_blanks {blanks rest : List Char} (stop : StopsRun isDigit rest)
    (hblanks : ∀ c ∈ blanks, isBlank c = true) : StopsRun isDigit (blanks ++ rest) := by
  cases blanks with
  | nil => exact stop
  | cons c blanks => exact stopsRun_cons (isDigit_of_isBlank (hblanks c List.mem_cons_self)) _

/-- A longest run of digits in a text, with no digit on either side of it. There may be several of
them, and each is one number of the text. -/
def IsDigitRun (run text : List Char) : Prop :=
  run ≠ [] ∧ (∀ c ∈ run, isDigit c = true) ∧
    ∃ before behind, text = before ++ run ++ behind ∧
      (∀ c ∈ before.getLast?, isDigit c = false) ∧ StopsRun isDigit behind

/-- An empty text has no runs, since a run has at least one digit. -/
theorem not_isDigitRun_nil (run : List Char) : ¬ IsDigitRun run [] := by
  rintro ⟨hne, _, before, behind, htext, _⟩
  exact hne (by simp_all)

/-- A character that is no digit belongs to no run, so the runs of a text are those behind it. -/
theorem isDigitRun_cons {c : Char} (hc : isDigit c = false) (run cs : List Char) :
    IsDigitRun run (c :: cs) ↔ IsDigitRun run cs := by
  constructor
  · rintro ⟨hne, digits, before, behind, htext, hbefore, hbehind⟩
    refine ⟨hne, digits, ?_⟩
    cases before with
    | nil =>
      -- The run would start with the character.
      match run, hne with
      | d :: run, _ =>
        simp only [List.nil_append, List.cons_append, List.cons.injEq] at htext
        have hd := digits d List.mem_cons_self
        rw [← htext.1, hc] at hd
        exact absurd hd (by decide)
    | cons d before =>
      simp only [List.cons_append, List.cons.injEq] at htext
      refine ⟨before, behind, htext.2, fun e he => hbefore e ?_, hbehind⟩
      rw [List.getLast?_cons, Option.mem_def.mp he]
      rfl
  · rintro ⟨hne, digits, before, behind, rfl, hbefore, hbehind⟩
    refine ⟨hne, digits, c :: before, behind, rfl, fun e he => ?_, hbehind⟩
    rw [List.getLast?_cons, Option.mem_def, Option.some.injEq] at he
    cases hlast : before.getLast? with
    | none => simpa [hlast, ← he] using hc
    | some d => simpa [hlast, ← he] using hbefore d hlast

/-- Characters that are no digits belong to no run, so they can be put in front of a text and its
runs stay the same. -/
theorem isDigitRun_append_of_noDigits {front : List Char}
    (hfront : ∀ c ∈ front, isDigit c = false) (run rest : List Char) :
    IsDigitRun run (front ++ rest) ↔ IsDigitRun run rest := by
  induction front with
  | nil => exact Iff.rfl
  | cons c front ih =>
    rw [List.cons_append, isDigitRun_cons (hfront c List.mem_cons_self),
      ih fun d hd => hfront d (List.mem_cons_of_mem c hd)]

/-- The digits at the front of a text are a run of digits, and all other runs lie behind
them. -/
theorem isDigitRun_append {front rest : List Char} (hne : front ≠ [])
    (digits : ∀ c ∈ front, isDigit c = true) (stop : StopsRun isDigit rest)
    (run : List Char) :
    IsDigitRun run (front ++ rest) ↔ run = front ∨ IsDigitRun run rest := by
  constructor
  · rintro ⟨hrun, runDigits, before, behind, htext, hbefore, hbehind⟩
    cases before with
    | nil =>
      left
      rw [List.nil_append] at htext
      rw [← takeWhile_run runDigits hbehind, ← htext, takeWhile_run digits stop]
    | cons c before =>
      right
      -- What is before the run ends with a character that is no digit, so it reaches
      -- beyond the digits at the front.
      have hlast : (c :: before).getLast (by simp) ∉ front := fun hmem => by
        have := hbefore _ (List.getLast?_eq_some_getLast (by simp))
        rw [digits _ hmem] at this
        exact absurd this (by decide)
      rw [List.append_assoc] at htext
      rcases List.append_eq_append_iff.mp htext with ⟨middle, hmiddle, hrest⟩ | ⟨middle, hmiddle, _⟩
      · refine ⟨hrun, runDigits, middle, behind, by rw [hrest, List.append_assoc],
          fun d hd => hbefore d ?_, hbehind⟩
        rw [hmiddle, List.getLast?_append, Option.mem_def.mp hd]
        rfl
      · refine absurd ?_ hlast
        rw [hmiddle]
        exact List.mem_append_left _ (List.getLast_mem _)
  · rintro (rfl | ⟨hrun, runDigits, before, behind, rfl, hbefore, hbehind⟩)
    · exact ⟨hne, digits, [], rest, rfl, by simp, stop⟩
    · refine ⟨hrun, runDigits, front ++ before, behind, by simp, ?_, hbehind⟩
      cases before with
      | nil =>
        -- The run would follow the digits at the front at once.
        match run, hrun with
        | d :: run, _ =>
          have := stop d rfl
          rw [runDigits d List.mem_cons_self] at this
          exact absurd this (by decide)
      | cons c before =>
        intro d hd
        refine hbefore d ?_
        rw [List.getLast?_append] at hd
        simpa [List.getLast?_cons] using hd

end Calculator
