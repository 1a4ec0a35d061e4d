import Calculator.Proofs.Command.Session
import Calculator.Proofs.Config.Override

/-!
# `Calculator.Proofs.Command.LogLevel`: runs with another log level

The log level that a command line gives changes next to nothing that can be seen from
outside, unless it is refused. Two levels differ for a job only if one of them records
evaluations and the other does not, and then only in the crash of a result that has too
many digits, as its record may stop the command before its text does
(`sameEnds_settled`, `sameEnds_of_sameRecords`).

* `Outcome.settled`: an outcome without the difference between these two crashes.
* `Job.mapCrash_outcome`: a job carries over whatever the ends of its lines have in common
  at two levels, from one turn to a session.
* `Request.mapCrash_outcome`: so does a request with and without a level.
* `Outcome.Agree`: both have one settled outcome, and one outcome if both levels record the
  same.

Settings that are refused in a file are refused before the level is looked at.
`logLevel_override` puts this together for command lines that ask for a command.
-/

set_option autoImplicit false

namespace Calculator

open Data

/-! ### Crashes of long results -/

/-- The crash of a result with too many digits is settled on that of its text, whether or not
the stack was large enough for the report on its record. -/
def Crash.settled : Crash → Crash
  | stackExhausted => numberTooLong
  | crash => crash

/-- An outcome with another name for its crash, if it crashed. Its exit code and its output
stay. -/
def Outcome.mapCrash (f : Crash → Crash) (outcome : Outcome) : Outcome :=
  { outcome with crash := outcome.crash.map f }

/-- An outcome with its crash settled, so that it does not show which of the two crashes of a long
result it was. -/
def Outcome.settled : Outcome → Outcome :=
  mapCrash Crash.settled

/-- An outcome is itself if its crash keeps its name. With this, sameness up to names covers plain
sameness. -/
theorem Outcome.mapCrash_id (outcome : Outcome) : outcome.mapCrash id = outcome := by
  rw [mapCrash, Option.map_id]
  rfl

/-- Outcomes that are the same up to the names of crashes crash together, so a session stops in
both cases or in none. -/
theorem Outcome.crash_eq_none_iff {f : Crash → Crash} {first second : Outcome}
    (h : first.mapCrash f = second.mapCrash f) : first.crash = none ↔ second.crash = none := by
  have crash : first.crash.map f = second.crash.map f := congrArg Outcome.crash h
  rw [← Option.map_eq_none_iff (f := f), crash, Option.map_eq_none_iff]

/-- Whether two log levels record the same on a host: both of them record evaluations or
none does, or the stack is large enough for all reports. -/
def Host.SameRecords (host : Host) (level other : LogLevel) : Prop :=
  level.recordsEvaluations = other.recordsEvaluations ∨ ∀ root, host.spellsOut root = true

namespace Command

/-- The end of a line with another name for its crash, if the line stopped the command. -/
def LineEnd.mapCrash (f : Crash → Crash) : LineEnd → LineEnd
  | stopped crash => stopped (f crash)
  | other => other

/-- A turn with another name for its crash, if it was the last one and crashed. -/
def Turn.mapCrash (f : Crash → Crash) : Turn → Turn
  | next output => next output
  | stop outcome => stop (outcome.mapCrash f)

/-- Whether all trees come to the same conclusion at two log levels, up to the names of
crashes. -/
def SameEnds (host : Host) (f : Crash → Crash) (level other : LogLevel) : Prop :=
  ∀ tree, (conclude host level tree).1 = (conclude host other tree).1 ∧
    (conclude host level tree).2.mapCrash f = (conclude host other tree).2.mapCrash f

/-- Levels that record the same lead to the same conclusions, as nothing else of a level is looked
at. -/
theorem sameEnds_of_sameRecords {host : Host} {level other : LogLevel}
    (same : host.SameRecords level other) : SameEnds host id level other := by
  have records : logCrash host level = logCrash host other := by
    funext root value
    rw [logCrash, logCrash]
    rcases same with same | spells
    · rw [same]
    · simp only [spells, Bool.not_true, Bool.and_false]
  intro tree
  rw [conclude, conclude, records]
  exact ⟨rfl, rfl⟩

/-- All levels lead to the same conclusions once the crashes are settled, as a record only matters
where a result is too long. -/
theorem sameEnds_settled (host : Host) (level other : LogLevel) :
    SameEnds host Crash.settled level other := by
  intro tree
  cases errors : tree.hasErrors with
  | true =>
    rw [conclude, conclude, errors]
    exact ⟨rfl, rfl⟩
  | false =>
    cases hvalue : tree.root.evaluate with
    | error fault =>
      rw [conclude, conclude, errors, hvalue]
      exact ⟨rfl, rfl⟩
    | ok value =>
      rw [conclude_of_value host level errors hvalue, conclude_of_value host other errors hvalue]
      split
      · exact ⟨rfl, rfl⟩
      · refine ⟨rfl, ?_⟩
        -- Each of the two ends is one of the two crashes, which settle on one.
        split <;> split <;> rfl

/-- The name of a crash is that of the end of its line, so renaming it can be done before or after
the outcome is made of it. -/
theorem mapCrash_outcomeOfLine (f : Crash → Crash) (run : String × LineEnd) :
    (outcomeOfLine run).mapCrash f = outcomeOfLine (run.1, run.2.mapCrash f) := by
  rcases run with ⟨output, result | noResult | crash⟩ <;> rfl

section Levels

variable {host : Host} {f : Crash → Crash} {level : LogLevel} {config : Config}
  (same : SameEnds host f level config.logLevel)
include same

/-- A line prints the same at two levels, and its ends are the same up to the names of
crashes. -/
theorem runLine_logLevel (showTree : Bool) (line : String) :
    let run := runLine host { config with logLevel := level } showTree line
    run.1 = (runLine host config showTree line).1 ∧
      run.2.mapCrash f = (runLine host config showTree line).2.mapCrash f := by
  intro run
  obtain ⟨printed, ends⟩ := same (parse line config.largest defaultMaxDepth)
  refine ⟨?_, ends⟩
  simp only [run, runLine]
  rw [printed]

/-- The command for one line has the same outcome at two levels, up to the names of
crashes. -/
theorem mapCrash_evaluate (hideTree : Bool) (line : String) :
    (evaluate host { config with logLevel := level } hideTree line).mapCrash f =
      (evaluate host config hideTree line).mapCrash f := by
  have run := runLine_logLevel same (config.showTree && !hideTree) line
  rw [evaluate, evaluate, mapCrash_outcomeOfLine, mapCrash_outcomeOfLine]
  exact congrArg outcomeOfLine (Prod.ext run.1 run.2)

/-- A turn of a session is the same at two levels, up to the names of crashes. The output is
compared together with the end. -/
theorem mapCrash_turn (line : Option String) :
    (turn host { config with logLevel := level } line).mapCrash f =
      (turn host config line).mapCrash f := by
  cases line with
  | none => rfl
  | some line =>
    cases hline : endsSession line with
    | true => simp only [turn, hline, if_true]
    | false =>
      have run := mapCrash_evaluate same false line
      rw [turn_eq_run host _ hline, turn_eq_run host _ hline]
      simp only [Outcome.crash_eq_none_iff run]
      split
      · exact congrArg (Turn.next ·.output) run
      · exact congrArg Turn.stop run

/-- A session has the same outcome at two levels, up to the names of crashes, as each of its
turns has. -/
theorem mapCrash_converse (prompt : String) (lines : List String) :
    (converse host { config with logLevel := level } prompt lines).mapCrash f =
      (converse host config prompt lines).mapCrash f := by
  induction lines with
  | nil => rfl
  | cons line lines ih =>
    have turns := mapCrash_turn same (some line)
    rw [converse, converse]
    -- Turns of different kinds are not the same under any names, so the mixed cases do not occur.
    cases first : turn host { config with logLevel := level } (some line) with
    | next output =>
      cases second : turn host config (some line) with
      | next other =>
        rw [first, second] at turns
        obtain rfl : output = other := Turn.next.inj turns
        exact congrArg (Outcome.behind (prompt ++ output)) ih
      | stop outcome =>
        rw [first, second] at turns
        cases turns
    | stop outcome =>
      cases second : turn host config (some line) with
      | next other =>
        rw [first, second] at turns
        cases turns
      | stop other =>
        rw [first, second] at turns
        exact congrArg (Outcome.behind prompt) (Turn.stop.inj turns)

/-- The command of a session has the same outcome at two levels, up to the names of
crashes. -/
theorem mapCrash_session (lines : List String) :
    (session host { config with logLevel := level } lines).mapCrash f =
      (session host config lines).mapCrash f := by
  rw [session, session]
  cases host.console.asked config.prompt with
  | none => rfl
  | some prompt => exact mapCrash_converse same prompt lines

end Levels

end Command

/-- A job has the same outcome at two levels, up to the names of crashes, if all lines come to
the same ends. -/
theorem Job.mapCrash_outcome {host : Host} {f : Crash → Crash} {level : LogLevel} {config : Config}
    (same : Command.SameEnds host f level config.logLevel) (input : List String) (job : Job) :
    (job.outcome host { config with logLevel := level } input).mapCrash f =
      (job.outcome host config input).mapCrash f := by
  cases job with
  | evaluate hideTree line => exact Command.mapCrash_evaluate same hideTree line
  | drawTree line => rfl
  | session => exact Command.mapCrash_session same input

/-! ### Requests -/

namespace Request

open CommandLine

/-- What a request does on a host, for what is found at the place of its configuration file
and for the text of standard input. -/
def outcome (host : Host) (request : Request) (file : ConfigFile) (input : String) : Outcome :=
  match request.resolve host file with
  | .error outcome => outcome
  | .ok (config, job) => job.outcome host config (Text.lines input)

variable {host : Host} (request : Request) {file : ConfigFile} (input : String)

/-- A request whose settings are refused does nothing else than report that, whatever it asks
for. -/
theorem outcome_of_chosenSettings {outcome : Outcome}
    (h : request.chosenSettings host file = .error outcome) :
    request.outcome host file input = outcome := by
  rw [Request.outcome, resolve, settings, h]

/-- The settings of a file are refused whatever level is given, as they are checked before the
level is looked at. -/
theorem outcome_of_invalid {errors : List FieldError}
    (h : Config.loadBy host.coercions file = .error (.invalid errors)) :
    request.outcome host file input = invalidSettings host errors := by
  refine request.outcome_of_chosenSettings input ?_
  rw [chosenSettings, h]
  rfl

/-- The settings that a request chooses are valid, with the level of the file or with the one that
is given. -/
theorem isValid_of_chosenSettings {config : Config}
    (h : request.chosenSettings host file = .ok config) : config.IsValid host.coercions := by
  rw [chosenSettings] at h
  split at h
  · cases h
  · next loaded =>
    split at h
    · rw [← Except.ok.inj h]
      exact Config.isValid_of_loadBy loaded
    · exact Config.isValid_of_ofTableBy (Config.mapError_eq_ok_iff.mp h)

/-- The settings that come into force for a request are valid, as they are the chosen ones. -/
theorem isValid_of_settings {config : Config} (h : request.settings host file = .ok config) :
    config.IsValid host.coercions := by
  rw [settings] at h
  split at h
  · cases h
  · next chosen =>
    split at h
    · rw [← Except.ok.inj h]
      exact request.isValid_of_chosenSettings chosen
    · cases h

variable {text : String} (given : request.logLevel = some text)
include given

/-- The level that is given is set in the settings of the file, and it is checked together with
them. -/
theorem chosenSettings_of_loadBy {config : Config}
    (h : Config.loadBy host.coercions file = .ok config) :
    request.chosenSettings host file =
      (config.withLogLevel host.coercions text).mapError (invalidSettings host) := by
  rw [chosenSettings, h, given]

/-- A level that is refused is the only error, if the settings of the file are not
refused. -/
theorem outcome_of_unknown {config : Config}
    (h : Config.loadBy host.coercions file = .ok config)
    (unknown : LogLevel.ofText? text = none) :
    request.outcome host file input =
      invalidSettings host [⟨"log_level", .unknownLogLevel text⟩] := by
  refine request.outcome_of_chosenSettings input ?_
  rw [request.chosenSettings_of_loadBy given h,
    Config.withLogLevel_of_isValid (Config.isValid_of_loadBy h), unknown]
  rfl

/-- Requests with and without a level that is not refused have the same outcome, up to the
names of crashes, if all lines come to the same ends at this level and at that of the
file. -/
theorem mapCrash_outcome {level : LogLevel} (known : LogLevel.ofText? text = some level)
    {f : Crash → Crash}
    (same : ∀ config, Config.loadBy host.coercions file = .ok config →
      Command.SameEnds host f level config.logLevel) :
    (request.outcome host file input).mapCrash f =
      (Request.outcome host { request with logLevel := none } file input).mapCrash f := by
  cases h : Config.loadBy host.coercions file with
  | error error =>
    simp only [Request.outcome, resolve, settings, chosenSettings, h]
  | ok config =>
    have chosen : request.chosenSettings host file = .ok { config with logLevel := level } := by
      rw [request.chosenSettings_of_loadBy given h,
        Config.withLogLevel_of_isValid (Config.isValid_of_loadBy h), known]
      rfl
    have unset : chosenSettings host { request with logLevel := none } file = .ok config := by
      rw [chosenSettings, h]
    have job : request.job? = job? { request with logLevel := none } := rfl
    simp only [Request.outcome, resolve, settings, chosen, unset, job]
    -- The number that decides about the crash on the settings is that of the file.
    by_cases printable : Command.isPrintable config.largest
    · simp only [if_pos printable]
      cases job? { request with logLevel := none } with
      | none => rfl
      | some job => exact Job.mapCrash_outcome (same config h) (Text.lines input) job
    · simp only [if_neg printable]

end Request

/-! ### Command lines -/

/-- Whether two outcomes are the same up to the crash of a long result, and altogether the
same under a condition. -/
def Outcome.Agree (condition : Prop) (first second : Outcome) : Prop :=
  first.settled = second.settled ∧ (condition → first = second)

namespace CommandLine

open Command

variable {host : Host} {files : String → ConfigFile} {arguments : List String}

/-- A command line does what it asks for, with the file at the place that it names. -/
theorem outcomeOn_of_request {request : Request}
    (h : CommandLine.request host arguments = .ok request) (input : String) :
    outcomeOn host files input arguments =
      request.outcome host (files request.configPath) input := by
  rw [outcomeOn, h]
  rfl

/-- A level in front of the other options is the one that is given, unless they have
one. -/
theorem lastValue?_logLevel (text : String) (options : List (GivenOption GlobalOption)) :
    lastValue? .logLevel (⟨.logLevel, some text⟩ :: options) = lastValue? .logLevel options ∨
      lastValue? .logLevel options = none ∧
        lastValue? .logLevel (⟨.logLevel, some text⟩ :: options) = some text := by
  simp only [lastValue?, List.reverse_cons, List.find?_append]
  cases options.reverse.find? fun option => option.name = .logLevel with
  | none => exact Or.inr ⟨rfl, rfl⟩
  | some option => exact Or.inl rfl

/-- A level in front of the other options is no place of a configuration file, so the file stays
the same. -/
theorem lastValue?_config (text : String) (options : List (GivenOption GlobalOption)) :
    lastValue? .config (⟨.logLevel, some text⟩ :: options) = lastValue? .config options := by
  simp only [lastValue?, List.reverse_cons, List.find?_append]
  cases options.reverse.find? fun option => option.name = .config <;> rfl

/-- With a level in front of it, a command line asks for the same, or for the same with
this level if it has none itself. -/
theorem request_logLevel (host : Host) (text : String) (arguments : List String) :
    request host ("--log-level" :: text :: arguments) = request host arguments ∨
      ∃ other : Request, request host arguments = .ok { other with logLevel := none } ∧
        request host ("--log-level" :: text :: arguments) =
          .ok { other with logLevel := some text } := by
  rw [request, takeOptions_logLevel, request]
  cases takeOptions globalForms false arguments with
  | none => exact Or.inl rfl
  | some split =>
    -- The faults of the options and of the command are the same. Only the value of the option
    -- differs.
    obtain ⟨options, positional⟩ := split
    have version : asksForVersion (⟨.logLevel, some text⟩ :: options) = asksForVersion options :=
      rfl
    simp only [Option.map_some, SplitArguments.withOptions, List.singleton_append, version,
      lastValue?_config]
    split
    · exact Or.inl rfl
    · split
      · exact Or.inl rfl
      · split
        · exact Or.inl rfl
        · rename_i command _
          rcases lastValue?_logLevel text options with same | ⟨absent, given⟩
          · exact Or.inl (by rw [same])
          · rw [absent, given]
            exact Or.inr ⟨⟨_, none, command, _⟩, rfl, rfl⟩

/-- Requests with and without a level that is not refused agree: they have one settled outcome,
and one outcome if both levels record the same. -/
theorem agree_logLevel (request : Request) (input : String) {text : String}
    (given : request.logLevel = some text) {level : LogLevel}
    (known : LogLevel.ofText? text = some level) (file : ConfigFile) :
    Outcome.Agree
      (∀ config, Config.loadBy host.coercions file = .ok config →
        host.SameRecords level config.logLevel)
      (request.outcome host file input)
      (Request.outcome host { request with logLevel := none } file input) := by
  refine ⟨request.mapCrash_outcome input given known fun config _ => sameEnds_settled _ _ _,
    fun records => ?_⟩
  have same := request.mapCrash_outcome input given known fun config loaded =>
    sameEnds_of_sameRecords (records config loaded)
  rwa [Outcome.mapCrash_id, Outcome.mapCrash_id] at same

/-- Settings stay valid, on every host, which decides what is taken for a setting. Those that
are accepted from a table or a file are valid, and so are all settings in force: their
numbers are positive, their levels are known ones, and they are accepted again from their
own table. The level of a table is the one that its text names.

A command line may give another level, which is any text. If the text names a level, that
level is set and everything else is kept, and if not, there is one error, which is for the
level. For a command line that asks for a command, the settings of the file come first: if
they are refused, the errors of the file are reported, whatever the level.

A level that is accepted changes neither the exit code nor the output, wherever it stands
among the options, and it may be put in front of any such command line. It does not change
the crash either if it records the same as the level of the file. If it does not, a result
with more than 4300 digits may crash on the report of the log in one of the runs and on
its text in the other. -/
theorem logLevel_override (host : Host) {upperCase : Char → List Char}
    (casing : LogLevel.IsUpperCasing upperCase) :
    (∀ table config, Config.ofTableBy host.coercions table = .ok config →
      config.IsValid host.coercions ∧
      ∀ value, table.lookup "log_level" = some value →
        ∃ text, host.coercions.text value = .ok text ∧
          LogLevel.Names upperCase text config.logLevel) ∧
    (∀ file config, Config.loadBy host.coercions file = .ok config →
      config.IsValid host.coercions) ∧
    (∀ (request : Request) file config, request.settings host file = .ok config →
      config.IsValid host.coercions) ∧
    (∀ file config, Config.loadBy host.coercions file = .ok config → ∀ text : String,
      (∀ level, LogLevel.Names upperCase text level →
        config.withLogLevel host.coercions text = .ok { config with logLevel := level }) ∧
      ((∀ level, ¬LogLevel.Names upperCase text level) →
        config.withLogLevel host.coercions text =
          .error [⟨"log_level", .unknownLogLevel text⟩])) ∧
    ∀ (files : String → ConfigFile) (input : String) arguments request,
      CommandLine.request host arguments = .ok request →
      let file := files request.configPath
      let records := fun level => ∀ config, Config.loadBy host.coercions file = .ok config →
        host.SameRecords level config.logLevel
      (∀ text document errors, file = .contents text.toUTF8 →
        Toml.read text = .ok document →
        Config.ofDocument host.coercions document = .error errors →
        outcomeOn host files input arguments = invalidSettings host errors) ∧
      (∀ text, request.logLevel = some text →
        ((∀ level, ¬LogLevel.Names upperCase text level) →
          ∀ config, Config.loadBy host.coercions file = .ok config →
          outcomeOn host files input arguments =
            invalidSettings host [⟨"log_level", .unknownLogLevel text⟩]) ∧
        ∀ level, LogLevel.Names upperCase text level →
          ∀ plain, CommandLine.request host plain = .ok { request with logLevel := none } →
          Outcome.Agree (records level) (outcomeOn host files input arguments)
            (outcomeOn host files input plain)) ∧
      ∀ text level, LogLevel.Names upperCase text level →
        Outcome.Agree (records level)
          (outcomeOn host files input ("--log-level" :: text :: arguments))
          (outcomeOn host files input arguments) := by
  refine ⟨fun table config accepted => ⟨Config.isValid_of_ofTableBy accepted, fun value =>
      Config.names_of_ofTableBy casing accepted⟩, fun _ _ => Config.isValid_of_loadBy,
    fun request _ _ => request.isValid_of_settings, fun file config loaded text => ?_,
    fun files input arguments request asked => ⟨?_, fun text given => ⟨?_, ?_⟩, ?_⟩⟩
  · have valid := Config.isValid_of_loadBy loaded
    exact ⟨fun level => Config.withLogLevel_of_names valid casing,
      Config.withLogLevel_of_unknown valid casing⟩
  · intro text document errors file read refused
    rw [outcomeOn_of_request asked]
    refine request.outcome_of_invalid input ?_
    rw [file]
    exact Config.loadBy_eq_invalid_iff.mpr ⟨document, read, refused⟩
  · intro unknown config loaded
    rw [outcomeOn_of_request asked]
    exact request.outcome_of_unknown input given loaded (LogLevel.ofText?_eq_none casing unknown)
  · intro level names plain without
    rw [outcomeOn_of_request asked, outcomeOn_of_request without]
    exact agree_logLevel request input given
      ((LogLevel.ofText?_eq_some_iff casing).mpr names) _
  · -- The level in front is either lost behind another one or the only one.
    intro text level names
    rcases request_logLevel host text arguments with same | ⟨other, without, front⟩
    · rw [outcomeOn, outcomeOn, same]
      exact ⟨rfl, fun _ => rfl⟩
    · obtain rfl : request = { other with logLevel := none } :=
        Except.ok.inj (asked.symm.trans without)
      rw [outcomeOn_of_request front, outcomeOn_of_request without]
      exact agree_logLevel { other with logLevel := some text } input rfl
        ((LogLevel.ofText?_eq_some_iff casing).mpr names) _

/-- A level in letters of both cases, one of which is not in ASCII, a text with a ligature
that names no level, and a file that is refused. -/
theorem logLevel_override_both_cases_ligature_refused_file :
    let text := "[minicalc]\nmax_int = 7\nshow_tree = false"
    let refused := "[minicalc]\nmax_int = 0"
    let files : String → ConfigFile := fun place =>
      .contents (if place = "refused.toml" then refused else text).toUTF8
    let config : Config := ⟨">", false, 7, .warning⟩
    (∃ given, Value.text "deBug" = .text given ∧
        LogLevel.Names LogLevel.upperCase given .debug) ∧
      config.IsValid .lax ∧
      config.withLogLevel .lax "ınFo" = .ok { config with logLevel := .info } ∧
      config.withLogLevel .lax "ﬁnfo" = .error [⟨"log_level", .unknownLogLevel "ﬁnfo"⟩] ∧
      outcome files "" ["--config", "refused.toml", "--log-level", "ﬁnfo", "eval", "1"] =
        invalidSettings .plain [⟨"max_int", .tooSmall 1⟩] ∧
      outcome files "" ["--log-level", "ﬁnfo", "eval", "1"] =
        invalidSettings .plain [⟨"log_level", .unknownLogLevel "ﬁnfo"⟩] ∧
      outcome files "" ["--config", "other.toml", "--log-level=ınFo", "eval", "1+2"] =
        outcome files "" ["-cother.toml", "eval", "1+2"] ∧
      outcome files "" ["--log-level", "ınFo", "eval", "1+2"] =
        outcome files "" ["eval", "1+2"] := by
  intro text refused files config
  obtain ⟨table, file, -, override, runs⟩ :=
    logLevel_override .plain LogLevel.isUpperCasing_upperCase
  have accepted : Config.ofTable [("log_level", .text "deBug")] =
      .ok { Config.default with logLevel := .debug } := by decide +kernel
  have loaded : Config.load (files "minicalc.toml") = .ok config := by decide +kernel
  have names : LogLevel.Names LogLevel.upperCase "ınFo" .info := by decide +kernel
  have unknown : ∀ level, ¬LogLevel.Names LogLevel.upperCase "ﬁnfo" level := by
    intro level
    cases level <;> decide +kernel
  -- The stack of this host is large enough for all reports, so no level makes a difference.
  have records : ∀ other : Config, Host.plain.SameRecords .info other.logLevel :=
    fun _ => Or.inr fun _ => rfl
  obtain ⟨known, -⟩ := override _ _ loaded "ınFo"
  obtain ⟨-, refusedLevel⟩ := override _ _ loaded "ﬁnfo"
  refine ⟨?_, file _ _ loaded, known _ names, refusedLevel unknown, ?_, ?_, ?_, ?_⟩
  · obtain ⟨given, hgiven, named⟩ := (table _ _ accepted).2 _ rfl
    exact ⟨given, congrArg Value.text (Except.ok.inj hgiven), named⟩
  · obtain ⟨broken, -⟩ := runs files ""
      ["--config", "refused.toml", "--log-level", "ﬁnfo", "eval", "1"]
      ⟨"refused.toml", some "ﬁnfo", .evaluate, ["1"]⟩ (by decide +kernel)
    have invalid : Config.load (files "refused.toml") =
        .error (.invalid [⟨"max_int", .tooSmall 1⟩]) := by decide +kernel
    obtain ⟨document, read, errors⟩ := Config.loadBy_eq_invalid_iff.mp invalid
    exact broken refused _ _ rfl read errors
  · obtain ⟨-, given, -⟩ := runs files "" ["--log-level", "ﬁnfo", "eval", "1"]
      ⟨"minicalc.toml", some "ﬁnfo", .evaluate, ["1"]⟩ (by decide +kernel)
    exact (given _ rfl).1 unknown config loaded
  · obtain ⟨-, given, -⟩ := runs files ""
      ["--config", "other.toml", "--log-level=ınFo", "eval", "1+2"]
      ⟨"other.toml", some "ınFo", .evaluate, ["1+2"]⟩ (by decide +kernel)
    exact ((given _ rfl).2 .info names ["-cother.toml", "eval", "1+2"] (by decide +kernel)).2
      fun other _ => records other
  · obtain ⟨-, -, front⟩ := runs files "" ["eval", "1+2"]
      ⟨"minicalc.toml", none, .evaluate, ["1+2"]⟩ (by decide +kernel)
    exact (front _ _ names).2 fun other _ => records other

/-- A level may change a crash, and errors of the file may go without report. The request for
the version is met before the file is looked at, though its settings are refused. A line with
a long result crashes on its text at the level of the file, and on the report of the log at
another level if the stack is not large enough. -/
theorem logLevel_override_changes_crash_version_before_file :
    let refused : String → ConfigFile := fun _ => .contents "[minicalc]\nmax_int = 0\n".toUTF8
    let run := outcomeOn crampedHost (fun _ => .missing) ""
    let line := ["eval", "--no-tree", "--", longProduct]
    Config.load (refused "minicalc.toml") = .error (.invalid [⟨"max_int", .tooSmall 1⟩]) ∧
      outcome refused "" ["--log-level", "INFO", "--version"] =
        ⟨0, "minicalc version 0.1.0\n", none⟩ ∧
      Config.default.withLogLevel .lax "DEBUG" =
        .ok { Config.default with logLevel := .debug } ∧
      run line = ⟨1, "", some .numberTooLong⟩ ∧
      run ("--log-level" :: "DEBUG" :: line) = ⟨1, "", some .stackExhausted⟩ := by
  intro refused run line
  have set : Config.default.withLogLevel .lax "DEBUG" =
      .ok { Config.default with logLevel := .debug } := by decide +kernel
  have invalid : Config.load (refused "minicalc.toml") =
      .error (.invalid [⟨"max_int", .tooSmall 1⟩]) := by decide +kernel
  have version : outcome refused "" ["--log-level", "INFO", "--version"] =
      ⟨0, "minicalc version 0.1.0\n", none⟩ := by decide +kernel
  exact ⟨invalid, version, set, outcomeOn_longProduct (chosen_default crampedHost) rfl,
    outcomeOn_longProduct chosen_recorded rfl⟩

end CommandLine

end Calculator
