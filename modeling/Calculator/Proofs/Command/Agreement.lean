import Calculator.Proofs.Command.Invocation
import Calculator.Proofs.Command.LongResults
import Calculator.Proofs.Command.Printing
import Calculator.Proofs.Config.RoundTrip

/-!
# `Calculator.Proofs.Command.Agreement`: the commands agree with `calculate`

The commands for one line look at its diagnostics and its value by themselves.
What they do is nevertheless a function of the result that `calculate` gives
for the line, and of the drawing of its tree.

* `answer` says for each result what is printed behind a heading and with which
  exit code. `evaluate_eq_answer`: this is what the command that evaluates a
  line does, with the drawing as the heading where it is shown.
* `longCrash` is the crash of a result that has too many digits. It depends on the
  log level and on the stack, and the output does not.
* `failure_cases`: of all failures, a line has only those two kinds that
  `answer` tells apart.
* `answer_eq_behind`: the heading comes first and changes nothing else.
* `drawTree_eq`: what the command that draws a line does.

`commands_agree` puts them together, also for the command lines by which the
commands are called. Settings may have a largest number of more than 4300 digits, and
all commands crash under them (`outcomeOn_chosen`), whatever `calculate` says.
-/

set_option autoImplicit false

namespace Calculator

namespace Command

/-! ### What is printed -/

/-- What is printed for two lists of texts is printed one behind the other, as each text is shown
by itself. -/
theorem printed_append (console : Console) (texts more : List String) :
    printed console (texts ++ more) = printed console texts ++ printed console more := by
  rw [printed, List.map_append, String.join_append]
  rfl

/-- A single text that is shown as it is is printed with a newline behind it, on any console. -/
theorem printed_singleton {console : Console} {text : String} (h : console.shown text = text) :
    printed console [text] = text ++ "\n" := by
  simp [printed, h]

/-- The drawing of the tree of a line, as it is printed, with a newline behind its last line. -/
def drawing (config : Config) (line : String) : String :=
  (Node.expr (parse line config.largest defaultMaxDepth).root).drawn ++ "\n"

/-- What is printed before the answer to a line: its drawing, if the settings ask for it and the
command does not hide it. -/
def heading (config : Config) (hideTree : Bool) (line : String) : String :=
  if config.showTree && !hideTree then drawing config line else ""

/-- The drawing of a tree is printed as it is on every console, whatever the line has in it. -/
theorem printed_drawingLines (console : Console) (config : Config) (line : String) :
    printed console (drawingLines (parse line config.largest defaultMaxDepth)) =
      drawing config line :=
  printed_singleton (console.shown_drawn _)

/-- The crash of a line whose result has too many digits to be printed. Where the log
records evaluations, the record comes first, and the stack may not be large enough for
the report on it. -/
def longCrash (host : Host) (config : Config) (line : String) : Crash :=
  if config.logLevel.recordsEvaluations &&
      !host.spellsOut (parse line config.largest defaultMaxDepth).root then
    .stackExhausted
  else
    .numberTooLong

/-- What a line is answered with on a console, by its result and behind a heading, where
`crash` is the crash of a result with too many digits. -/
def answer (console : Console) (crash : Crash) (heading : String) :
    Except Failure Int → Outcome
  | .ok value =>
    if digitCount value ≤ 4300 then ⟨0, heading ++ (toString value ++ "\n"), none⟩
    else ⟨1, heading, some crash⟩
  | .error (.diagnosed diagnostics) => ⟨1, heading ++ printed console diagnostics, none⟩
  | .error failure => ⟨1, heading ++ ("Evaluation error: " ++ failure.message ++ "\n"), none⟩

/-! ### One line -/

/-- An accepted line fails only if its evaluation does, so the failure is one that is reported and
does not stop the command. -/
theorem isEvaluation_of_accepted {line : String} {largest maxDepth : Int} {fault : Fault}
    (accepted : (parse line largest maxDepth).diagnostics = [])
    (h : (parse line largest maxDepth).root.evaluate = .error fault) :
    fault.failure.isEvaluation = true := by
  have outcome := outcome_parse line largest maxDepth
  simp only [h] at outcome
  rcases outcome with (⟨value, hvalue⟩ | ⟨position, -, hfault⟩) | ⟨literal, hliteral, kind, none, -⟩
  · cases hvalue
  · rw [Except.error.inj hfault]
    rfl
  · obtain ⟨value, hvalue, -⟩ := (numbers_of_accepted accepted).2 literal hliteral kind
    exact absurd (hvalue.symm.trans none) (Option.some_ne_none value)

/-- The result of a line is a value, its diagnostics, or a failure of its
evaluation. -/
theorem failure_cases {line : String} {largest : Int} {failure : Failure}
    (h : calculate line largest = .error failure) :
    let diagnostics := (parse line largest defaultMaxDepth).diagnostics
    failure = .diagnosed (diagnostics.map Diagnostic.message) ∧ diagnostics ≠ [] ∨
      failure.isEvaluation = true := by
  rw [calculate_eq] at h
  split at h
  · next accepted =>
    cases hvalue : (parse line largest defaultMaxDepth).root.evaluate with
    | ok value =>
      rw [hvalue] at h
      cases h
    | error fault =>
      rw [hvalue] at h
      rw [← Except.error.inj h]
      exact Or.inr (isEvaluation_of_accepted accepted hvalue)
  · next refused => exact Or.inl ⟨(Except.error.inj h).symm, refused⟩

/-- An accepted line that has no value has a division by zero, as all its numbers have values and
its tree was built by the parser. -/
theorem exists_divisionByZero_of_accepted {line : String} {largest maxDepth : Int} {fault : Fault}
    (accepted : (parse line largest maxDepth).diagnostics = [])
    (h : (parse line largest maxDepth).root.evaluate = .error fault) :
    ∃ position, fault = .divisionByZero position := by
  cases fault with
  | divisionByZero position => exact ⟨position, rfl⟩
  | _ => cases isEvaluation_of_accepted accepted h

/-- What is printed behind the drawing of an accepted line that has a value: the value, or nothing
if it is too long. Which crash it is then depends on what the log records. -/
theorem conclude_of_value (host : Host) (level : LogLevel) {tree : Tree Diagnostic} {value : Int}
    (noErrors : tree.hasErrors = false) (hvalue : tree.root.evaluate = .ok value) :
    conclude host level tree =
      if isPrintable value then ([toString value], .result)
      else ([], .stopped (if level.recordsEvaluations && !host.spellsOut tree.root then
        .stackExhausted else .numberTooLong)) := by
  simp only [conclude, noErrors, Bool.false_eq_true, if_false, hvalue, logCrash]
  cases isPrintable value with
  | true => simp only [Bool.not_true, Bool.and_false, Bool.false_and, Bool.false_eq_true, if_false,
      if_true]
  | false =>
    simp only [Bool.not_false, Bool.and_true, Bool.false_eq_true, if_false]
    cases level.recordsEvaluations && !host.spellsOut tree.root <;> rfl

/-- The command that evaluates a line answers it by its result, behind the drawing. So the command
and `calculate` cannot disagree. -/
theorem evaluate_eq_answer (host : Host) (config : Config) (hideTree : Bool) (line : String) :
    evaluate host config hideTree line =
      answer host.console (longCrash host config line) (heading config hideTree line)
        (calculate line config.largest) := by
  have head : printed host.console (if config.showTree && !hideTree then
        drawingLines (parse line config.largest defaultMaxDepth) else []) =
      heading config hideTree line := by
    rw [heading]
    split
    · exact printed_drawingLines host.console config line
    · rfl
  -- Both sides look at the diagnostics first, then at the value, and then at its digits.
  rw [evaluate, runLine, printed_append, head, calculate_eq]
  by_cases accepted : (parse line config.largest defaultMaxDepth).diagnostics = []
  · have noErrors : (parse line config.largest defaultMaxDepth).hasErrors = false := by
      simp [Tree.hasErrors, accepted]
    rw [if_pos accepted]
    cases hvalue : (parse line config.largest defaultMaxDepth).root.evaluate with
    | ok value =>
      rw [conclude_of_value host config.logLevel noErrors hvalue,
        show (Except.ok value : Except Fault Int).mapError Fault.failure = .ok value from rfl,
        answer]
      by_cases short : digitCount value ≤ 4300
      · rw [if_pos short, if_pos ((isPrintable_iff value).mpr short),
          printed_singleton (host.console.shown_integer value)]
        rfl
      · rw [if_neg short, if_neg fun h => short ((isPrintable_iff value).mp h)]
        exact congrArg (Outcome.mk 1 · _) String.append_empty
    | error fault =>
      -- A division by zero is the only fault of an accepted line, so its message is plain.
      obtain ⟨position, rfl⟩ := exists_divisionByZero_of_accepted accepted hvalue
      simp only [conclude, noErrors, Bool.false_eq_true, if_false, hvalue]
      rw [if_pos (isEvaluation_of_accepted accepted hvalue),
        printed_singleton (host.console.shown_divisionByZero position)]
      rfl
  · have errors : (parse line config.largest defaultMaxDepth).hasErrors = true := by
      simp [Tree.hasErrors, accepted]
    rw [if_neg accepted, conclude, errors]
    rfl

/-- The command succeeds exactly if the line has a value that can be printed. All other results
have the exit code one. -/
theorem exitCode_answer_eq_zero_iff (console : Console) (crash : Crash) (heading : String)
    (result : Except Failure Int) :
    (answer console crash heading result).exitCode = 0 ↔
      ∃ value, result = .ok value ∧ digitCount value ≤ 4300 := by
  cases result with
  | ok value =>
    rw [answer]
    split
    · next short => simp [short]
    · next long => simp [long]
  | error failure => cases failure <;> simp [answer]

/-- Whatever is answered comes behind the heading, and the heading changes nothing about it. -/
theorem answer_eq_behind (console : Console) (crash : Crash) (heading : String)
    (result : Except Failure Int) :
    answer console crash heading result =
      Outcome.behind heading (answer console crash "" result) := by
  cases result with
  | ok value =>
    simp only [answer]
    split <;> simp [Outcome.behind]
  | error failure => cases failure <;> simp [answer, Outcome.behind]

/-- What the command that draws a line does: it prints the drawing and the messages, and it fails
if there are any. -/
theorem drawTree_eq (host : Host) (config : Config) (line : String) :
    let diagnostics := (parse line config.largest defaultMaxDepth).diagnostics
    drawTree host config line =
      ⟨if diagnostics = [] then 0 else 1,
        drawing config line ++ printed host.console (diagnostics.map Diagnostic.message),
        none⟩ := by
  intro diagnostics
  have errors : (parse line config.largest defaultMaxDepth).hasErrors = true ↔
      diagnostics ≠ [] := by
    simp [Tree.hasErrors, diagnostics]
  rw [drawTree, printed_append, printed_drawingLines]
  simp only [errors, ite_not]
  rfl

/-- A long result stops the command that evaluates its line behind the drawing, and nothing is
printed for the result. -/
theorem evaluate_of_hasLongResult (host : Host) {config : Config} {line : String}
    (long : HasLongResult config line) (hideTree : Bool) :
    evaluate host config hideTree line =
      ⟨1, heading config hideTree line, some (longCrash host config line)⟩ := by
  obtain ⟨value, hvalue, hdigits⟩ := long
  rw [evaluate_eq_answer, hvalue, answer, if_neg (Nat.not_le.mpr hdigits)]

/-! ### All commands for one line -/

/-- The crash of a result with too many digits is that of its text, or that of the log where
the log records evaluations. -/
theorem longCrash_cases (host : Host) (config : Config) (line : String) :
    longCrash host config line = .numberTooLong ∨
      longCrash host config line = .stackExhausted ∧ config.logLevel.recordsEvaluations = true := by
  rw [longCrash]
  split
  · next report => exact Or.inr ⟨rfl, (Bool.and_eq_true_iff.mp report).1⟩
  · exact Or.inl rfl

/-- What a command line does under the settings that it chooses is what its job does, if the
largest number of these settings has at most 4300 digits. If it has more, the command
crashes before it prints anything. -/
theorem outcomeOn_chosen {host : Host} {files : String → ConfigFile} {path level : Option String}
    {config : Config} (h : CommandLine.Chosen host files path level config) {name : String}
    {command : CommandName} (hname : CommandName.ofText? name = some command)
    {arguments : List String} {job : Job}
    (hjob : (Request.mk (path.getD CommandLine.defaultConfigPath) level command arguments).job? =
      some job) (input : String) :
    CommandLine.outcomeOn host files input
        (CommandLine.globalArguments path level ++ name :: arguments) =
      if digitCount config.largest ≤ 4300 then job.outcome host config (Text.lines input)
      else ⟨1, "", some .numberTooLong⟩ := by
  rw [CommandLine.outcomeOn_of_chosen h hname hjob input]
  simp only [isPrintable_iff]

/-- The command line with a line behind `--` evaluates this line, or crashes before that if the
largest number cannot be printed. -/
theorem outcomeOn_evaluate {host : Host} {files : String → ConfigFile} {path level : Option String}
    {config : Config} (h : CommandLine.Chosen host files path level config) (line input : String) :
    CommandLine.outcomeOn host files input
        (CommandLine.globalArguments path level ++ ["eval", "--", line]) =
      if digitCount config.largest ≤ 4300 then evaluate host config false line
      else ⟨1, "", some .numberTooLong⟩ :=
  outcomeOn_chosen h (show CommandName.ofText? "eval" = some .evaluate from rfl)
    (Request.job?_evaluate _ _ line) input

/-- The command line with `--no-tree` in front of that evaluates the line without its drawing, or
crashes before that in the same way. -/
theorem outcomeOn_hideTree {host : Host} {files : String → ConfigFile} {path level : Option String}
    {config : Config} (h : CommandLine.Chosen host files path level config) (line input : String) :
    CommandLine.outcomeOn host files input
        (CommandLine.globalArguments path level ++ ["eval", "--no-tree", "--", line]) =
      if digitCount config.largest ≤ 4300 then evaluate host config true line
      else ⟨1, "", some .numberTooLong⟩ :=
  outcomeOn_chosen h (show CommandName.ofText? "eval" = some .evaluate from rfl)
    (Request.job?_hideTree _ _ line) input

/-- The commands agree with `calculate`, on every console and for every line. The command
that evaluates a line succeeds exactly if the line has a value of at most 4300 digits. It
answers the line by its result, which is a value, the diagnostics of the line, or a
failure of its evaluation, and it does so behind the drawing where that is shown. The
command that draws a line prints the drawing and the diagnostics, and fails if there are
any, whatever the settings say about drawings. So both do the same with a line that has
diagnostics, and with any other line the first one goes on behind the second.

Messages that are plain are printed as they are, and those for a plain line are plain. A
result with more than 4300 digits ends in the crash of its text, or in that of the log if
the log records evaluations.

The commands are called by command lines in which the line stands behind `--`. All of
these crash if the largest number of the settings has more than 4300 digits. -/
theorem commands_agree (host : Host) (config : Config) (line : String) :
    let result := calculate line config.largest
    let diagnostics := (parse line config.largest defaultMaxDepth).diagnostics
    let messages := diagnostics.map Diagnostic.message
    let crash := longCrash host config line
    let shown := evaluate host { config with showTree := true } false line
    let bare := evaluate host config true line
    (∀ hideTree,
      ((evaluate host config hideTree line).exitCode = 0 ↔
        ∃ value, result = .ok value ∧ digitCount value ≤ 4300) ∧
      evaluate host config hideTree line =
        answer host.console crash (heading config hideTree line) result) ∧
    (∀ failure, result = .error failure →
      failure = .diagnosed messages ∧ diagnostics ≠ [] ∨ failure.isEvaluation = true) ∧
    shown = Outcome.behind (drawing config line) bare ∧
    evaluate host { config with showTree := false } false line = bare ∧
    (∀ showTree, drawTree host { config with showTree := showTree } line =
      ⟨if diagnostics = [] then 0 else 1, drawing config line ++ printed host.console messages,
        none⟩) ∧
    (if diagnostics = [] then
      shown.output = (drawTree host config line).output ++ bare.output
    else shown = drawTree host config line) ∧
    ((∀ message ∈ messages, IsPlain host.console.isPicture message.toList) →
      printed host.console messages = printed .plain messages) ∧
    (IsPlain host.console.isPicture line.toList →
      ∀ message ∈ messages, IsPlain host.console.isPicture message.toList) ∧
    (crash = .numberTooLong ∨
      crash = .stackExhausted ∧ config.logLevel.recordsEvaluations = true) ∧
    ∀ files path level input, CommandLine.Chosen host files path level config →
      let run := fun arguments =>
        CommandLine.outcomeOn host files input (CommandLine.globalArguments path level ++ arguments)
      (digitCount config.largest ≤ 4300 →
        run ["eval", "--", line] = evaluate host config false line ∧
          run ["eval", "--no-tree", "--", line] = evaluate host config true line ∧
          run ["tree", "--", line] = drawTree host config line) ∧
      (4300 < digitCount config.largest →
        ∀ arguments ∈ [["eval", "--", line], ["eval", "--no-tree", "--", line],
          ["tree", "--", line]], run arguments = ⟨1, "", some .numberTooLong⟩) := by
  intro result diagnostics messages crash shown bare
  have hshown : shown = answer host.console crash (drawing config line) result :=
    evaluate_eq_answer host { config with showTree := true } false line
  have hbare : bare = answer host.console crash "" result := by
    rw [show bare = _ from evaluate_eq_answer host config true line, heading]
    simp [result, crash]
  -- Both commands are answers behind a heading, so everything follows from what `answer` does.
  refine ⟨fun hideTree => ?_, fun failure hfailure => ?_, ?_, ?_, fun showTree => ?_, ?_,
    fun plain => ?_, fun plain => ?_, longCrash_cases host config line, ?_⟩
  · rw [evaluate_eq_answer]
    exact ⟨exitCode_answer_eq_zero_iff _ _ _ _, rfl⟩
  · exact failure_cases hfailure
  · rw [hshown, hbare, ← answer_eq_behind]
  · rw [hbare]
    exact evaluate_eq_answer host { config with showTree := false } false line
  · exact drawTree_eq host { config with showTree := showTree } line
  · rw [drawTree_eq]
    split
    · next accepted =>
      -- No messages are printed behind the drawing, so the answer follows it at once.
      show shown.output = _ ++ printed _ (diagnostics.map _) ++ _
      rw [hshown, hbare, answer_eq_behind, accepted]
      exact congrArg (· ++ (answer _ _ "" result).output) String.append_empty.symm
    · next refused =>
      have hresult : result = .error (.diagnosed messages) := by
        rw [show result = _ from calculate_eq line config.largest, if_neg refused]
      rw [hshown, hresult]
      rfl
  · exact printed_of_isPlain host.console fun diagnostic h => plain _ (List.mem_map_of_mem h)
  · exact List.forall_mem_map.mpr fun diagnostic h => host.console.isPlain_message plain h
  · intro files path level input chosen run
    have tree : CommandName.ofText? "tree" = some .drawTree := rfl
    have evaluated := outcomeOn_evaluate chosen line input
    have hidden := outcomeOn_hideTree chosen line input
    have drawn := outcomeOn_chosen chosen tree (Request.job?_drawTree _ _ line) input
    -- The size of the largest number alone decides whether the commands get to their line.
    constructor <;> intro digits
    · simp only [if_pos digits] at evaluated hidden drawn
      exact ⟨evaluated, hidden, drawn⟩
    · simp only [if_neg (Nat.not_le.mpr digits)] at evaluated hidden drawn
      exact List.forall_mem_cons.mpr ⟨evaluated, List.forall_mem_cons.mpr
        ⟨hidden, List.forall_mem_singleton.mpr drawn⟩⟩

/-- Without a file and without options, the chosen settings are the default ones, on every
host. -/
theorem chosen_default (host : Host) :
    CommandLine.Chosen host (fun _ => .missing) none none Config.default :=
  rfl

/-- Without a file, the level that is given is set in the default settings. At this level
evaluations are recorded. -/
theorem chosen_recorded :
    CommandLine.Chosen crampedHost (fun _ => .missing) none (some "DEBUG")
      { Config.default with logLevel := .debug } := by
  show Request.chosenSettings _ _ _ = .ok _
  rfl

/-- The largest number of the default settings can be printed, so no command crashes on it. -/
theorem digitCount_default_le : digitCount Config.default.largest ≤ 4300 :=
  digitCount_le_of_lt_pow (by decide) (show _ < 10 ^ 10 by decide) (by decide)

/-- A division with a value, one that lacks its divisor, and settings with a number of
4302 digits, under which a command crashes. -/
theorem commands_agree_quotient_lost_divisor_long_number :
    let run := CommandLine.outcome (fun _ => .missing) ""
    let messages :=
      (parse "7/" Config.default.largest defaultMaxDepth).diagnostics.map Diagnostic.message
    CommandLine.Chosen .plain (fun _ => .missing) none none Config.default ∧
      run ["eval", "--no-tree", "--", "7/2"] = ⟨0, "3\n", none⟩ ∧
      run ["eval", "--", "7/"] = run ["tree", "--", "7/"] ∧
      IsPlain Console.plain.isPicture "7/".toList ∧
      (∀ message ∈ messages, IsPlain Console.plain.isPicture message.toList) ∧
      printed Host.plain.console messages = printed .plain messages ∧
      CommandLine.outcome (fun _ => Config.powerFile 3572) "" ["tree", "--", "7/2"] =
        ⟨1, "", some .numberTooLong⟩ := by
  intro run messages
  have accepted : (parse "7/2" Config.default.largest defaultMaxDepth).diagnostics = [] := by
    decide +kernel
  have refused : (parse "7/" Config.default.largest defaultMaxDepth).diagnostics ≠ [] := by
    decide +kernel
  have value : calculate "7/2" Config.default.largest = .ok 3 := by
    rw [calculate_eq, if_pos accepted, Expr.evaluate_eq_value]
    decide +kernel
  have plainLine : IsPlain Console.plain.isPicture "7/".toList :=
    .of_steady (by decide)
  obtain ⟨answers, -, -, -, -, -, -, -, -, called⟩ := commands_agree .plain Config.default "7/2"
  obtain ⟨-, -, -, -, -, both, kept, plain, -, calledRefused⟩ :=
    commands_agree .plain Config.default "7/"
  obtain ⟨-, -, -, -, -, -, -, -, -, calledLong⟩ :=
    commands_agree .plain (Config.powerSettings 3572) "7/2"
  have short := digitCount_default_le
  have evaluated := (called _ none none "" (chosen_default .plain)).1 short
  have refusedRuns := (calledRefused _ none none "" (chosen_default .plain)).1 short
  have crashes := (calledLong _ none none "" (chosen_powerFile .plain 3572)).2
  refine ⟨chosen_default .plain, ?_, ?_, plainLine, plain plainLine, kept (plain plainLine),
    crashes (lt_digitCount_powerSettings (Nat.le_refl 3572)) ["tree", "--", "7/2"] (by decide)⟩
  · refine evaluated.2.1.trans ((answers true).2.trans ?_)
    rw [value]
    decide +kernel
  · rw [if_neg refused] at both
    exact refusedRuns.1.trans (both.trans refusedRuns.2.2.symm)

/-- Without a file, the product of 461 factors crashes the command that evaluates it. -/
theorem outcomeOn_longProduct {host : Host} {level : Option String} {config : Config}
    (chosen : CommandLine.Chosen host (fun _ => .missing) none level config)
    (largest : config.largest = Config.default.largest) :
    CommandLine.outcomeOn host (fun _ => .missing) ""
        (CommandLine.globalArguments none level ++ ["eval", "--no-tree", "--", longProduct]) =
      ⟨1, "", some (longCrash host config longProduct)⟩ := by
  have long : HasLongResult config longProduct :=
    hasLongResult_longProduct (largest ▸ (by decide))
  have called := outcomeOn_hideTree chosen longProduct ""
  rw [if_pos (largest ▸ digitCount_default_le)] at called
  refine called.trans ((evaluate_of_hasLongResult host long true).trans ?_)
  simp [heading]

/-- The commands do not always agree with `calculate`. Settings in order may have a number
of more than 4300 digits, and then a line with a short value crashes the command that
evaluates it. Where the log records evaluations, a line with a long result crashes it on
the report of the log and not on the result, if the stack is not large enough. -/
theorem commands_disagree_long_number_recorded_evaluation :
    let config := Config.powerSettings 3572
    let recorded : Config := { Config.default with logLevel := .debug }
    (Config.load (Config.powerFile 3572) = .ok config ∧ calculate "1" config.largest = .ok 1 ∧
      CommandLine.outcome (fun _ => Config.powerFile 3572) "" ["eval", "--no-tree", "--", "1"] =
        ⟨1, "", some .numberTooLong⟩) ∧
      CommandLine.Chosen crampedHost (fun _ => .missing) none (some "DEBUG") recorded ∧
      HasLongResult recorded longProduct ∧
      CommandLine.outcomeOn crampedHost (fun _ => .missing) ""
          ["--log-level", "DEBUG", "eval", "--no-tree", "--", longProduct] =
        ⟨1, "", some .stackExhausted⟩ := by
  intro config recorded
  have accepted : (parse "1" config.largest defaultMaxDepth).diagnostics = [] := by
    decide +kernel
  have value : calculate "1" config.largest = .ok 1 := by
    rw [calculate_eq, if_pos accepted, Expr.evaluate_eq_value]
    decide +kernel
  refine ⟨⟨Config.loadBy_powerFile .lax 3572, value, ?_⟩, chosen_recorded,
    hasLongResult_longProduct (by decide), outcomeOn_longProduct chosen_recorded rfl⟩
  have called := outcomeOn_hideTree (chosen_powerFile .plain 3572) "1" ""
  rwa [if_neg (Nat.not_le.mpr (lt_digitCount_powerSettings (Nat.le_refl 3572)))] at called

end Command

end Calculator
