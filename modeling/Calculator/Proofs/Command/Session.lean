import Calculator.Proofs.Command.Agreement

/-!
# `Calculator.Proofs.Command.Session`: a session is the sequence of its runs

A session does with each of its lines what the command for one line does, and
carries nothing over to the next one. A line that is not blank and whose result
is not too long leaves the session going (`converse_cons`). So a session over
such lines and some more is a session over the rest behind the transcript of the
first ones (`converse_append`, `converse_eq_behind`), and it remains to see how a
session ends: where there are no more lines or a blank one (`converse_ends`), or
where a result is too long (`converse_cons_of_hasLongResult`).

All this is about `converse`, which has the prompt as it is shown. A session
converses if the console takes its prompt (`session_of_asked`). `session_eq_runs`
puts this together.
-/

set_option autoImplicit false

namespace Calculator

open Text

namespace Command

section Turns

variable {host : Host} {config : Config} {prompt line : String}

/-! ### One turn -/

/-- The run of a line does not crash if its result is not too long, be it a value, a fault or a
list of diagnostics. -/
theorem crash_evaluate_of_not_hasLongResult (short : ¬HasLongResult config line)
    (hideTree : Bool) : (evaluate host config hideTree line).crash = none := by
  rw [evaluate_eq_answer]
  cases hresult : calculate line config.largest with
  | ok value =>
    have hdigits : digitCount value ≤ 4300 := Nat.le_of_not_lt fun h => short ⟨value, hresult, h⟩
    rw [answer, if_pos hdigits]
  | error failure => cases failure <;> rfl

/-- A turn at a line that is not blank is a run of that line. It is the last one
if the run crashes. -/
theorem turn_eq_run (host : Host) (config : Config) (hline : endsSession line = false) :
    let run := evaluate host config false line
    turn host config (some line) =
      if run.crash = none then .next run.output else .stop run := by
  intro run
  have hrun : run = outcomeOfLine (runLine host config config.showTree line) := by
    simp only [run, evaluate, Bool.not_false, Bool.and_true]
  rw [hrun, turn, hline]
  rcases runLine host config config.showTree line with ⟨output, result | noResult | crash⟩ <;> rfl

/-- Two headings in front of an outcome are one heading, so the output of a session can be put
together from the left. -/
theorem Outcome.behind_behind (first second : String) (outcome : Outcome) :
    Outcome.behind first (Outcome.behind second outcome) =
      Outcome.behind (first ++ second) outcome := by
  simp only [Outcome.behind, String.append_assoc]

/-- Whether a line leaves a session going: it is not blank, and its result is not too long. -/
def Continues (config : Config) (line : String) : Prop :=
  endsSession line = false ∧ ¬HasLongResult config line

/-- A session goes on behind the output of a line that leaves it going, and the rest does not
depend on that line. -/
theorem converse_cons (going : Continues config line) (lines : List String) :
    converse host config prompt (line :: lines) =
      Outcome.behind (prompt ++ (evaluate host config false line).output)
        (converse host config prompt lines) := by
  rw [converse, turn_eq_run host config going.1,
    if_pos (crash_evaluate_of_not_hasLongResult going.2 false)]

/-- A session ends at a long result as the run of that line does, with the lines behind it
unread. -/
theorem converse_cons_of_hasLongResult (long : HasLongResult config line) (lines : List String) :
    converse host config prompt (line :: lines) =
      ⟨1, prompt ++ heading config false line, some (longCrash host config line)⟩ := by
  have run := evaluate_of_hasLongResult host long false
  rw [converse, turn_eq_run host config long.endsSession_eq_false, run]
  rfl

/-- A session ends well where there is no line, or a blank one, behind one more prompt. -/
theorem converse_ends {lines : List String}
    (h : ∀ line ∈ lines.head?, endsSession line = true) :
    converse host config prompt lines = ⟨0, prompt, none⟩ := by
  have blank : Outcome.behind prompt ⟨0, "", none⟩ = ⟨0, prompt, none⟩ :=
    congrArg (Outcome.mk 0 · none) String.append_empty
  cases lines with
  | nil => exact blank
  | cons line lines =>
    rw [converse, turn, if_pos (h line rfl)]
    exact blank

/-! ### Whole sessions -/

/-- What is printed for lines that are run one by one, each behind a prompt and by the command for
one line. -/
def transcript (host : Host) (config : Config) (prompt : String) (lines : List String) : String :=
  String.join (lines.map fun line => prompt ++ (evaluate host config false line).output)

/-- A session over some lines that leave it going and some more goes on with
those behind the transcript of the first ones. -/
theorem converse_append {front : List String} (going : ∀ line ∈ front, Continues config line)
    (lines : List String) :
    converse host config prompt (front ++ lines) =
      Outcome.behind (transcript host config prompt front)
        (converse host config prompt lines) := by
  induction front with
  | nil => simp [transcript, Outcome.behind]
  | cons line front ih =>
    obtain ⟨goingLine, goingFront⟩ := List.forall_mem_cons.mp going
    rw [List.cons_append, converse_cons goingLine, ih goingFront, Outcome.behind_behind]
    simp only [transcript, List.map_cons, String.join_cons]

/-- A session can be cut at any place up to which its lines leave it going: it goes on with the
lines from there behind the transcript of the others. -/
theorem converse_eq_behind {lines : List String} {place : Nat}
    (going : ∀ line ∈ lines.take place, Continues config line) :
    converse host config prompt lines =
      Outcome.behind (transcript host config prompt (lines.take place))
        (converse host config prompt (lines.drop place)) := by
  rw [← converse_append going, List.take_append_drop]

/-- Lines that end a session, with all that follows, do the same as the lack of
any. -/
theorem converse_append_ends (front : List String) {rest : List String}
    (hrest : ∀ line ∈ rest.head?, endsSession line = true) :
    converse host config prompt (front ++ rest) = converse host config prompt front := by
  induction front with
  | nil => rw [List.nil_append, converse_ends hrest, converse_ends (by simp)]
  | cons line front ih =>
    rw [List.cons_append, converse, converse, ih]

/-- A session converses behind its prompt if the console takes the prompt, which may be shown in
another way than it is written. -/
theorem session_of_asked (asked : host.console.asked config.prompt = some prompt)
    (lines : List String) : session host config lines = converse host config prompt lines := by
  rw [session, asked]

end Turns

/-- No line before the first blank one is blank, so none of them ends the session in that way. -/
theorem endsSession_eq_false_of_mem_take {lines : List String} {line : String} {index : Nat}
    (hindex : index ≤ lines.findIdx endsSession) (h : line ∈ lines.take index) :
    endsSession line = false := by
  obtain ⟨place, hplace, rfl⟩ := List.mem_take_iff_getElem.mp h
  exact List.not_of_lt_findIdx
    (Nat.lt_of_lt_of_le (Nat.lt_of_lt_of_le hplace (Nat.min_le_left ..)) hindex)

/-- What is left at the first blank line starts with it, if anything is left, so the session ends
there. -/
theorem endsSession_of_mem_head?_drop {lines : List String} {line : String}
    (h : line ∈ (lines.drop (lines.findIdx endsSession)).head?) : endsSession line = true := by
  rw [List.head?_drop] at h
  obtain ⟨inside, rfl⟩ := List.getElem?_eq_some_iff.mp h
  exact List.findIdx_getElem

/-- The command line of a session starts it if the largest number of the chosen settings has
at most 4300 digits, and crashes before the first line if it has more. -/
theorem outcomeOn_session {host : Host} {files : String → ConfigFile}
    {path level : Option String} {config : Config}
    (chosen : CommandLine.Chosen host files path level config) (input : String) :
    CommandLine.outcomeOn host files input (CommandLine.globalArguments path level ++ ["repl"]) =
      if digitCount config.largest ≤ 4300 then session host config (Text.lines input)
      else ⟨1, "", some .numberTooLong⟩ :=
  outcomeOn_chosen chosen (show CommandName.ofText? "repl" = some .session from rfl)
    (Request.job?_session _ _) input

/-- A session is the sequence of its runs, if the console takes the prompt. A plain prompt
is one that is shown as it is, and `prompt` is the prompt as it is shown. With `k` lines
before the first blank one, or `k` lines in all:

* A line crashes exactly if its result is too long, and then behind its drawing. The crash
  is that of the text of the result, or that of the log if this records evaluations.
* If none of the `k` lines crashes, the session ends well. It prints, for each
  of them, the prompt and what its run prints, and then one more prompt.
* At the first of the `k` lines with a result that is too long it stops, behind
  the prompt and the drawing of that line.
* Whatever ends the session after these lines, and whatever follows, does not
  matter.
* The command lines of the session and of the runs do all this under the same
  settings. Under settings with a number of more than 4300 digits, all of them crash
  before they print anything. -/
theorem session_eq_runs (host : Host) (config : Config) {prompt : String}
    (asked : host.console.asked config.prompt = some prompt) (lines : List String) :
    let k := lines.findIdx endsSession
    let run := evaluate host config false
    let crashed := fun line : String => some (longCrash host config line)
    (∀ line, ¬HasLongResult config line ∧ (run line).crash = none ∨
      HasLongResult config line ∧ run line = ⟨1, heading config false line, crashed line⟩) ∧
    (∀ line, crashed line = some .numberTooLong ∨
      crashed line = some .stackExhausted ∧ config.logLevel.recordsEvaluations = true) ∧
    ((∀ line ∈ lines.take k, (run line).crash = none) →
      session host config lines =
        ⟨0, transcript host config prompt (lines.take k) ++ prompt, none⟩) ∧
    (∀ i line, i < k → lines[i]? = some line →
      (∀ earlier ∈ lines.take i, ¬HasLongResult config earlier) → HasLongResult config line →
      session host config lines =
        ⟨1, transcript host config prompt (lines.take i) ++ (prompt ++ heading config false line),
          crashed line⟩) ∧
    (∀ rest, (∀ line ∈ rest.head?, endsSession line = true) →
      session host config (lines.take k ++ rest) = session host config lines) ∧
    ∀ files path level input, CommandLine.Chosen host files path level config →
      let called := fun arguments =>
        CommandLine.outcomeOn host files input (CommandLine.globalArguments path level ++ arguments)
      (digitCount config.largest ≤ 4300 →
        called ["repl"] = session host config (Text.lines input) ∧
          ∀ line, called ["eval", "--", line] = run line) ∧
      (4300 < digitCount config.largest →
        called ["repl"] = ⟨1, "", some .numberTooLong⟩ ∧
          ∀ line, called ["eval", "--", line] = ⟨1, "", some .numberTooLong⟩) := by
  intro k run crashed
  have crash : ∀ line, ¬HasLongResult config line ∧ (run line).crash = none ∨
      HasLongResult config line ∧ run line = ⟨1, heading config false line, crashed line⟩ :=
    fun line => by
      by_cases long : HasLongResult config line
      · exact Or.inr ⟨long, evaluate_of_hasLongResult host long false⟩
      · exact Or.inl ⟨long, crash_evaluate_of_not_hasLongResult long false⟩
  have kinds : ∀ line, crashed line = some .numberTooLong ∨
      crashed line = some .stackExhausted ∧ config.logLevel.recordsEvaluations = true :=
    fun line => (longCrash_cases host config line).imp (congrArg some)
      fun recorded => ⟨congrArg some recorded.1, recorded.2⟩
  -- Up to the line `k` nothing is blank, and what is left starts with a blank line if with any.
  have isOpen : ∀ line ∈ lines.take k, endsSession line = false := fun line =>
    endsSession_eq_false_of_mem_take (Nat.le_refl k)
  have close : ∀ line ∈ (lines.drop k).head?, endsSession line = true := fun line =>
    endsSession_of_mem_head?_drop
  simp only [session_of_asked asked]
  refine ⟨crash, kinds, fun fine => ?_, fun i line hi hline earlier long => ?_,
    fun rest hrest => ?_, fun files path level input chosen => ⟨fun digits => ?_, fun digits => ?_⟩⟩
  · have going : ∀ line ∈ lines.take k, Continues config line := fun line h =>
      ⟨isOpen line h, fun long => by
        have stopped := fine line h
        rw [show run line = _ from evaluate_of_hasLongResult host long false] at stopped
        cases stopped⟩
    rw [converse_eq_behind going, converse_ends close]
    rfl
  · -- The lines before the `i`-th go on, and the session stops at it.
    obtain ⟨inside, rfl⟩ := List.getElem?_eq_some_iff.mp hline
    have going : ∀ line ∈ lines.take i, Continues config line := fun line h =>
      ⟨endsSession_eq_false_of_mem_take (Nat.le_of_lt hi) h, earlier line h⟩
    rw [converse_eq_behind going, List.drop_eq_getElem_cons inside,
      converse_cons_of_hasLongResult long]
    rfl
  · rw [converse_append_ends _ hrest, ← converse_append_ends _ close, List.take_append_drop]
  · rw [← session_of_asked asked]
    exact ⟨(outcomeOn_session chosen input).trans (if_pos digits), fun line =>
      (outcomeOn_evaluate chosen line input).trans (if_pos digits)⟩
  · have long := Nat.not_le.mpr digits
    exact ⟨(outcomeOn_session chosen input).trans (if_neg long), fun line =>
      (outcomeOn_evaluate chosen line input).trans (if_neg long)⟩

/-- A division by zero, followed by a blank line or by a product that is too
long, and sessions without a file and with a number of 4302 digits in it. -/
theorem session_eq_runs_fault_blank_long_product :
    let config : Config := ⟨">", false, Nat.pow 10 2160, .warning⟩
    let nines := List.replicate 2160 '9'
    let square := String.ofList (nines ++ '*' :: nines)
    let crashed : Outcome :=
      ⟨1, ">Evaluation error: Division by zero (at position 1)\n>", some .numberTooLong⟩
    Host.plain.console.asked ">" = some ">" ∧
      session .plain config ["7/0", " \t", square] = { crashed with exitCode := 0, crash := none } ∧
      session .plain config ["7/0", square, "1"] = crashed ∧
      CommandLine.Chosen .plain (fun _ => .missing) none none Config.default ∧
      CommandLine.outcome (fun _ => .missing) "7/0\n \n" ["repl"] =
        session .plain Config.default ["7/0", " "] ∧
      CommandLine.outcome (fun _ => Config.powerFile 3572) "7/0\n" ["repl"] =
        ⟨1, "", some .numberTooLong⟩ := by
  intro config nines square crashed
  have asked : Host.plain.console.asked ">" = some ">" := rfl
  have long : HasLongResult config square := hasLongResult_square config rfl
  have zero : calculate "7/0" config.largest =
      .error (.located .divisionByZero "Division by zero" (some 1)) := by
    rw [calculate_eq, Expr.evaluate_eq_value]
    decide +kernel
  have run : evaluate .plain config false "7/0" =
      ⟨1, "Evaluation error: Division by zero (at position 1)\n", none⟩ := by
    rw [evaluate_eq_answer, zero]
    decide +kernel
  have goes : endsSession "7/0" = false := by decide +kernel
  have goesOn : endsSession square = false := long.endsSession_eq_false
  have short : ¬HasLongResult config "7/0" := fun ⟨value, hvalue, _⟩ => by
    rw [zero] at hvalue
    cases hvalue
  have blank : endsSession " \t" = true := by decide +kernel
  have printedZero : transcript .plain config ">" ["7/0"] =
      ">Evaluation error: Division by zero (at position 1)\n" := by
    rw [transcript, List.map_singleton, run]
    decide +kernel
  obtain ⟨-, -, ends, -⟩ := session_eq_runs .plain config asked ["7/0", " \t", square]
  obtain ⟨-, -, -, stops, -⟩ := session_eq_runs .plain config asked ["7/0", square, "1"]
  obtain ⟨-, -, -, -, -, called⟩ := session_eq_runs .plain Config.default asked []
  obtain ⟨-, -, -, -, -, calledLong⟩ :=
    session_eq_runs .plain (Config.powerSettings 3572) asked []
  have started := (called _ none none "7/0\n \n" (chosen_default .plain)).1
  have crashes := (calledLong _ none none "7/0\n" (chosen_powerFile .plain 3572)).2
  refine ⟨asked, ?_, ?_, chosen_default .plain, ?_,
    (crashes (lt_digitCount_powerSettings (Nat.le_refl 3572))).1⟩
  · -- The second line is the first blank one, so only the first one is run.
    simp only [List.findIdx_cons, goes, blank, cond_true, cond_false, List.take_succ_cons,
      List.take_zero, List.forall_mem_singleton, run, printedZero] at ends
    exact (ends trivial).trans (by decide +kernel)
  · refine (stops 1 square ?_ rfl (List.forall_mem_singleton.mpr short) long).trans ?_
    · simp [List.findIdx_cons, goes, goesOn]
    · rw [List.take_succ_cons, List.take_zero, printedZero]
      decide +kernel
  · exact (started digitCount_default_le).1.trans
      (congrArg (session .plain Config.default) (by decide +kernel))

/-- A session is not always the sequence of its runs. Settings in order may have a number of
more than 4300 digits, and then the session crashes without any line. Where the log records
evaluations, a line with a long result crashes it on the report of the log and not on the
result, if the stack is not large enough. -/
theorem session_crashes_long_number_recorded_evaluation :
    let config := Config.powerSettings 3572
    let recorded : Config := ⟨">", false, 2147483647, .debug⟩
    (Config.load (Config.powerFile 3572) = .ok config ∧
      Host.plain.console.asked config.prompt = some ">" ∧
      CommandLine.outcome (fun _ => Config.powerFile 3572) "" ["repl"] =
        ⟨1, "", some .numberTooLong⟩) ∧
      HasLongResult recorded longProduct ∧
      session crampedHost recorded [longProduct] = ⟨1, ">", some .stackExhausted⟩ := by
  intro config recorded
  have long : HasLongResult recorded longProduct := hasLongResult_longProduct (by decide)
  have crashes := outcomeOn_session (chosen_powerFile .plain 3572) ""
  rw [if_neg (Nat.not_le.mpr (lt_digitCount_powerSettings (Nat.le_refl 3572)))] at crashes
  refine ⟨⟨Config.loadBy_powerFile .lax 3572, rfl, crashes⟩, long, ?_⟩
  rw [session_of_asked (show crampedHost.console.asked recorded.prompt = some ">" from rfl),
    converse_cons_of_hasLongResult long]
  rfl

end Command

end Calculator
