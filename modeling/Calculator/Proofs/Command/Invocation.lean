import Calculator.Command.Line

/-!
# `Calculator.Proofs.Command.Invocation`: from a command line to its command

A command line starts with options that hold for every command, of which
`globalArguments` are those that choose the settings. `Chosen` says that some
settings are what they choose, for what is found at the places of files. Settings that are
chosen need not come into force, as their largest number may have too many digits. A
command line does what its job does under these settings, or it crashes before that
(`outcomeOn_of_chosen`).

What stands behind `--` is no option, so any text can be handed to a command
(`job?_evaluate`, `job?_hideTree`, `job?_drawTree`).
-/

set_option autoImplicit false

namespace Calculator

namespace CommandLine

open Command

/-- The options that choose the settings: the place of the configuration file
and the log level, each where it is given. -/
def globalArguments (path level : Option String) : List String :=
  (path.elim [] fun path => ["--config", path]) ++
    level.elim [] fun level => ["--log-level", level]

/-- The settings that such options choose on a host, for what is found at the places of
files. -/
def Chosen (host : Host) (files : String → ConfigFile) (path level : Option String)
    (config : Config) : Prop :=
  let place := path.getD defaultConfigPath
  (Request.mk place level .session []).chosenSettings host (files place) = .ok config

/-- The name of a command ends the options that hold for every command, so all that follows is for
that command. -/
theorem takeOptions_name {name : String} {command : CommandName}
    (hname : CommandName.ofText? name = some command) (arguments : List String) :
    takeOptions globalForms false (name :: arguments) = some ⟨[], name :: arguments⟩ := by
  unfold CommandName.ofText? at hname
  split at hname
  · rw [takeOptions]; rfl
  · rw [takeOptions]; rfl
  · rw [takeOptions]; rfl
  · cases hname

/-- The place of the configuration file is taken from behind its option, whatever text it
is. -/
theorem takeOptions_config (path : String) (arguments : List String) :
    takeOptions globalForms false ("--config" :: path :: arguments) =
      (takeOptions globalForms false arguments).map
        (SplitArguments.withOptions [⟨.config, some path⟩]) := by
  rw [takeOptions]
  rfl

/-- The log level is taken from behind its option, whatever text it is, also if it looks like an
option itself. -/
theorem takeOptions_logLevel (level : String) (arguments : List String) :
    takeOptions globalForms false ("--log-level" :: level :: arguments) =
      (takeOptions globalForms false arguments).map
        (SplitArguments.withOptions [⟨.logLevel, some level⟩]) := by
  rw [takeOptions]
  rfl

/-- The options as they are taken from the arguments, the path before the level. -/
def givenOptions (path level : Option String) : List (GivenOption GlobalOption) :=
  (path.elim [] fun path => [⟨.config, some path⟩]) ++
    level.elim [] fun level => [⟨.logLevel, some level⟩]

/-- The options are taken up to the name of the command, which is left with its own arguments. -/
theorem takeOptions_globalArguments (path level : Option String) {name : String}
    {command : CommandName} (hname : CommandName.ofText? name = some command)
    (arguments : List String) :
    takeOptions globalForms false (globalArguments path level ++ name :: arguments) =
      some ⟨givenOptions path level, name :: arguments⟩ := by
  have behind : takeOptions globalForms false
      ((level.elim [] fun level => ["--log-level", level]) ++ name :: arguments) =
        some ⟨level.elim [] fun level => [⟨.logLevel, some level⟩], name :: arguments⟩ := by
    cases level with
    | none => exact takeOptions_name hname arguments
    | some level =>
      show takeOptions globalForms false ("--log-level" :: level :: name :: arguments) = _
      rw [takeOptions_logLevel, takeOptions_name hname]
      rfl
  rw [globalArguments, List.append_assoc]
  cases path with
  | none => exact behind
  | some path =>
    show takeOptions globalForms false ("--config" :: path :: (_ ++ name :: arguments)) = _
    rw [takeOptions_config, behind]
    rfl

/-- A command line with these options asks for its command, with all arguments
behind the name. -/
theorem request_globalArguments (host : Host) (path level : Option String) {name : String}
    {command : CommandName} (hname : CommandName.ofText? name = some command)
    (arguments : List String) :
    request host (globalArguments path level ++ name :: arguments) =
      .ok ⟨path.getD defaultConfigPath, level, command, arguments⟩ := by
  have noVersion : asksForVersion (givenOptions path level) = false := by
    cases path <;> cases level <;> rfl
  have hpath : lastValue? .config (givenOptions path level) = path := by
    cases path <;> cases level <;> rfl
  have hlevel : lastValue? .logLevel (givenOptions path level) = level := by
    cases path <;> cases level <;> rfl
  simp only [request, takeOptions_globalArguments path level hname, noVersion,
    Bool.false_eq_true, if_false, hname, hpath, hlevel]

end CommandLine

/-! ### The arguments of commands -/

namespace Request

open Command CommandLine

variable (place : String) (level : Option String) (line : String)

/-- The line behind `--` is the one that is evaluated, also if it starts like an option. -/
theorem job?_evaluate :
    (Request.mk place level .evaluate ["--", line]).job? = some (.evaluate false line) := by
  simp only [job?]
  rw [takeOptions]
  rfl

/-- The line behind `--` is evaluated without its drawing if that is asked for in front of it. -/
theorem job?_hideTree :
    (Request.mk place level .evaluate ["--no-tree", "--", line]).job? =
      some (.evaluate true line) := by
  simp only [job?]
  rw [takeOptions, takeOptions]
  rfl

/-- The line behind `--` is the one that is drawn, and this command has no options. -/
theorem job?_drawTree :
    (Request.mk place level .drawTree ["--", line]).job? = some (.drawTree line) := by
  simp only [job?]
  rw [takeOptions]
  rfl

/-- A session has no arguments, as its lines come from the standard input. -/
theorem job?_session : (Request.mk place level .session []).job? = some .session := by
  simp only [job?]
  rw [takeOptions]

end Request

/-- What a command line does under the settings that it chooses is what its job does, if
the number in these settings can be printed. If it cannot, the command crashes, whatever
its job is. -/
theorem CommandLine.outcomeOn_of_chosen {host : Host} {files : String → ConfigFile}
    {path level : Option String} {config : Config} (h : Chosen host files path level config)
    {name : String} {command : CommandName} (hname : CommandName.ofText? name = some command)
    {arguments : List String} {job : Job}
    (hjob : (Request.mk (path.getD defaultConfigPath) level command arguments).job? = some job)
    (input : String) :
    outcomeOn host files input (globalArguments path level ++ name :: arguments) =
      if Command.isPrintable config.largest then job.outcome host config (Text.lines input)
      else ⟨1, "", some .numberTooLong⟩ := by
  -- The settings do not depend on the command and its arguments.
  have chosen : (Request.mk (path.getD defaultConfigPath) level command arguments).chosenSettings
      host (files (path.getD defaultConfigPath)) = .ok config := h
  rw [outcomeOn, request_globalArguments host path level hname]
  simp only [Request.resolve, Request.settings, chosen]
  by_cases printable : Command.isPrintable config.largest
  · simp only [printable, if_true, hjob]
  · simp only [printable, Bool.false_eq_true, if_false]

end Calculator
