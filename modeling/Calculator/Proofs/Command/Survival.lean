import Calculator.Proofs.Command.Session

/-!
# `Calculator.Proofs.Command.Survival`: what ends a session

A session is to go on whatever its lines are, and to end well at the first blank
line. What comes of a line is printed: its diagnostics, its result, or why it has
none. No failure of evaluation gets by, as a line without diagnostics has a tree
in order, and all numbers of a drawing can be printed. But a result may be too long
to be printed, and then the session ends there.

* `converse_cases`: a session with a prompt that the console takes ends in one of
  these two ways, by induction on its lines.
* `session_of_refused`: a session whose prompt the console refuses does not start.

`session_survives` puts this together with what is known of lines with long results.
-/

set_option autoImplicit false

namespace Calculator

open Text

namespace Command

/-- The lines before the first blank one, which are all lines that a session is meant to
process. -/
def untilBlank (lines : List String) : List String :=
  lines.takeWhile fun line => !endsSession line

/-- A session gets to its end, or to a line whose result is too long. There is no third way, by
induction on the lines. -/
theorem converse_cases (host : Host) (config : Config) (prompt : String) (lines : List String) :
    (∀ line ∈ untilBlank lines, ¬HasLongResult config line) ∧
        converse host config prompt lines =
          ⟨0, transcript host config prompt (untilBlank lines) ++ prompt, none⟩ ∨
      ∃ done line, done ++ [line] <+: untilBlank lines ∧
        (∀ earlier ∈ done, ¬HasLongResult config earlier) ∧ HasLongResult config line ∧
        converse host config prompt lines =
          ⟨1, transcript host config prompt done ++ (prompt ++ heading config false line),
            some (longCrash host config line)⟩ := by
  induction lines with
  | nil =>
    refine Or.inl ⟨List.forall_mem_nil _, ?_⟩
    rw [converse_ends (by simp)]
    simp [untilBlank, transcript]
  | cons line lines ih =>
    cases hline : endsSession line with
    | true =>
      have noLines : untilBlank (line :: lines) = [] := by
        simp [untilBlank, hline]
      rw [noLines, converse_ends (by simpa using hline)]
      exact Or.inl ⟨List.forall_mem_nil _, by simp [transcript]⟩
    | false =>
      have oneMore : untilBlank (line :: lines) = line :: untilBlank lines := by
        simp [untilBlank, hline]
      rw [oneMore]
      by_cases long : HasLongResult config line
      · refine Or.inr ⟨[], line, by simp, List.forall_mem_nil _, long, ?_⟩
        rw [converse_cons_of_hasLongResult long]
        simp [transcript]
      · -- The line is done, and the rest of the session decides how it ends.
        rw [converse_cons ⟨hline, long⟩]
        rcases ih with ⟨short, outcome⟩ | ⟨done, last, before, short, longLast, outcome⟩
        · refine Or.inl ⟨List.forall_mem_cons.mpr ⟨long, short⟩, ?_⟩
          rw [outcome]
          simp [Outcome.behind, transcript, String.append_assoc]
        · refine Or.inr ⟨line :: done, last, ?_, List.forall_mem_cons.mpr ⟨long, short⟩,
            longLast, ?_⟩
          · simpa using before
          · rw [outcome]
            simp [Outcome.behind, transcript, String.append_assoc]

/-- A session whose prompt is refused crashes where it first asks for a line, before it reads
any. -/
theorem session_of_refused {host : Host} {config : Config}
    (refused : host.console.asked config.prompt = none) (lines : List String) :
    session host config lines = ⟨1, "", some .promptRefused⟩ := by
  rw [session, refused]

/-- A session with a prompt that is taken crashes exactly if one of its lines before the
first blank one has a result that is too long. -/
theorem crash_session_eq_none_iff {host : Host} {config : Config} {prompt : String}
    (asked : host.console.asked config.prompt = some prompt) (lines : List String) :
    (session host config lines).crash = none ↔
      ∀ line ∈ untilBlank lines, ¬HasLongResult config line := by
  rw [session_of_asked asked]
  rcases converse_cases host config prompt lines with
    ⟨short, ended⟩ | ⟨done, line, before, -, long, stopped⟩
  · rw [ended]
    exact iff_of_true rfl short
  · rw [stopped]
    have hline : line ∈ untilBlank lines := before.subset (by simp)
    exact iff_of_false (Option.some_ne_none _) fun short => short line hline long

/-- What ends a session. It does not start if the console refuses its prompt, and a plain
prompt without brackets is not refused. Otherwise it crashes exactly if one of its lines
before the first blank one has a result that is too long. If none has, it processes all of
them and ends well. If one has, it processes those before the first one that has, draws
that one and ends with a failure, which is that of the text of the result, or that of the
log if this records evaluations. No line with up to 4300 digits can do this, but under all
settings that accept a number above zero some line can. No number that is drawn is too
long. Under settings of which the largest number is too long itself, the command crashes
before it asks for a line. -/
theorem session_survives (host : Host) (config : Config) (lines : List String) :
    let outcome := session host config lines
    (IsPlain host.console.isPicture config.prompt.toList → '[' ∉ config.prompt.toList →
      (∀ c ∈ config.prompt.toList.getLast?, isBlank c = false) →
      host.console.asked config.prompt = some config.prompt) ∧
    (host.console.asked config.prompt = none → outcome = ⟨1, "", some .promptRefused⟩) ∧
    (∀ prompt, host.console.asked config.prompt = some prompt →
      (outcome.crash = none ↔ ∀ line ∈ untilBlank lines, ¬HasLongResult config line) ∧
      (outcome.crash = none →
        outcome = ⟨0, transcript host config prompt (untilBlank lines) ++ prompt, none⟩) ∧
      ∀ crash, outcome.crash = some crash →
        ∃ done line, done ++ [line] <+: untilBlank lines ∧
          (∀ earlier ∈ done, ¬HasLongResult config earlier) ∧ HasLongResult config line ∧
          outcome =
            ⟨1, transcript host config prompt done ++ (prompt ++ heading config false line),
              some (longCrash host config line)⟩) ∧
    (∀ line, longCrash host config line = .numberTooLong ∨
      longCrash host config line = .stackExhausted ∧ config.logLevel.recordsEvaluations = true) ∧
    (∀ line, HasLongResult config line → 4300 < line.toList.countP isDigit) ∧
    ((∃ line, HasLongResult config line) ↔ 0 < config.largest) ∧
    (∀ line, ∀ leaf ∈ (parse line config.largest defaultMaxDepth).root.leaves,
      ∀ value ∈ leaf.value, digitCount value ≤ 4300) ∧
    ∀ files path level input, CommandLine.Chosen host files path level config →
      CommandLine.outcomeOn host files input
          (CommandLine.globalArguments path level ++ ["repl"]) =
        if digitCount config.largest ≤ 4300 then session host config (Text.lines input)
        else ⟨1, "", some .numberTooLong⟩ := by
  intro outcome
  refine ⟨host.console.asked_plain _, fun refused => session_of_refused refused lines,
    fun prompt asked =>
      ⟨crash_session_eq_none_iff asked lines, fun survives => ?_, fun crash hcrash => ?_⟩,
    longCrash_cases host config, fun line long => long.lt_countP_digits,
    exists_hasLongResult_iff config, fun line leaf hleaf value hvalue =>
      digitCount_le_of_mem_leaves hleaf hvalue,
    fun files path level input chosen => outcomeOn_session chosen input⟩
  · have conversed : outcome = _ := session_of_asked asked lines
    rw [conversed] at survives ⊢
    -- The way that stops at a long result has a crash, so this is the other one.
    rcases converse_cases host config prompt lines with ⟨-, ended⟩ | ⟨done, line, -, -, -, stopped⟩
    · exact ended
    · rw [stopped] at survives
      cases survives
  · have conversed : outcome = _ := session_of_asked asked lines
    rw [conversed] at hcrash ⊢
    rcases converse_cases host config prompt lines with ⟨-, ended⟩ | stopped
    · rw [ended] at hcrash
      cases hcrash
    · exact stopped

/-- A console that shows all texts as they are and refuses prompts with brackets, as if none of
them were in order. -/
def strictConsole : Console :=
  { Console.plain with
    asked := fun prompt => if prompt.toList.all (· != '[') then some prompt else none
    asked_plain := fun prompt _ noBracket _ => by
      have all : prompt.toList.all (· != '[') = true := by
        refine List.all_eq_true.mpr fun c hc => bne_iff_ne.mpr ?_
        rintro rfl
        exact noBracket hc
      rw [if_pos all] }

/-- A line of 461 factors ends a session, so that the next one is not processed. A
division by zero does not. A prompt with a mark that is not in order ends it before its first
line. -/
theorem session_survives_long_product_fault_refused_prompt :
    let config : Config := ⟨">", false, 2147483647, .warning⟩
    let marked : Config := { config with prompt := "[/calc]> " }
    let strict : Host := { Host.plain with console := strictConsole }
    Host.plain.console.asked config.prompt = some ">" ∧
      session .plain config [longProduct, "1+1"] = ⟨1, ">", some .numberTooLong⟩ ∧
      (session .plain config ["7/0", "1+1"]).exitCode = 0 ∧
      strict.console.asked config.prompt = some config.prompt ∧
      strict.console.asked marked.prompt = none ∧
      session strict marked ["1+1"] = ⟨1, "", some .promptRefused⟩ ∧
      CommandLine.Chosen .plain (fun _ => .missing) none none Config.default ∧
      CommandLine.outcome (fun _ => .missing) "7/0\n1+1\n" ["repl"] =
        session .plain Config.default ["7/0", "1+1"] := by
  intro config marked strict
  have asked : Host.plain.console.asked config.prompt = some ">" := rfl
  have long : HasLongResult config longProduct := hasLongResult_longProduct (by decide)
  have untilEnd : untilBlank [longProduct, "1+1"] = [longProduct, "1+1"] := by
    have last : endsSession "1+1" = false := by decide +kernel
    simp [untilBlank, long.endsSession_eq_false, last]
  have short : ∀ line ∈ untilBlank ["7/0", "1+1"], ¬HasLongResult config line := by
    have few : ∀ line ∈ untilBlank ["7/0", "1+1"], line.toList.countP isDigit ≤ 4300 := by
      decide +kernel
    intro line hline longLine
    exact Nat.not_le.mpr longLine.lt_countP_digits (few line hline)
  have refuses : strict.console.asked marked.prompt = none := by decide +kernel
  obtain ⟨-, -, product, -⟩ := session_survives .plain config [longProduct, "1+1"]
  obtain ⟨-, -, fault, -⟩ := session_survives .plain config ["7/0", "1+1"]
  obtain ⟨takes, -⟩ := session_survives strict config []
  obtain ⟨-, refused, -⟩ := session_survives strict marked ["1+1"]
  obtain ⟨-, -, -, -, -, -, -, called⟩ := session_survives .plain Config.default []
  obtain ⟨crashes, -, stops⟩ := product ">" asked
  obtain ⟨comesThrough, ends, -⟩ := fault ">" asked
  rw [untilEnd] at crashes stops
  refine ⟨asked, ?_, by rw [ends (comesThrough.mpr short)],
    takes (.of_steady (by decide)) (by decide) (by decide), refuses, refused refuses,
    chosen_default .plain, ?_⟩
  · obtain ⟨crash, hcrash⟩ := Option.ne_none_iff_exists'.mp fun survives =>
      crashes.mp survives longProduct (by simp) long
    obtain ⟨done, line, before, shortDone, -, outcome⟩ := stops crash hcrash
    cases done with
    | cons earlier done =>
      -- The product comes first, so no line is done before it.
      obtain rfl : earlier = longProduct := (List.cons_prefix_cons.mp before).1
      exact absurd long (shortDone _ List.mem_cons_self)
    | nil =>
      rw [outcome]
      rfl
  · refine (called _ none none _ (chosen_default .plain)).trans ?_
    rw [if_pos digitCount_default_le]
    exact congrArg (session .plain Config.default) (by decide +kernel)

end Command

end Calculator
