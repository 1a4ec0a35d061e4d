import Calculator.Command
import Calculator.Command.Arguments
import Calculator.Text.Basic

/-!
# `Calculator.Command.Line`: the command line

A command line has options that hold for every command, the name of a
command, and the arguments of that command.

Faults are looked for in a fixed order: options that are not in order, the
request for the version, a command that is missing or unknown, settings
that are refused or cannot be printed, and arguments of the command that are
not in order.

The request for help is not modelled. `--help` is an option that is not known
here, and a command line without arguments, which is answered with the help
too, is one that lacks its command.

* `CommandLine.request`: what is asked for, as far as it can be told
  without the configuration file.
* `Request.settings`: the settings by the configuration file and the
  options.
* `Request.job?`: what the command is to do.
* `CommandLine.outcomeOn`: all of these together, for given files and a given
  standard input, on a host.
* `CommandLine.outcome`: the same on a host that shows everything as it is.
-/

set_option autoImplicit false

namespace Calculator

/-- The commands. -/
inductive CommandName where
  | evaluate
  | drawTree
  | session
  deriving Repr, DecidableEq

/-- The command of a name. Names are spelled in lower case and are not completed. -/
def CommandName.ofText? : String → Option CommandName
  | "eval" => some evaluate
  | "tree" => some drawTree
  | "repl" => some session
  | _ => none

/-- What a command is to do, once its arguments are read. The settings are no part of this. -/
inductive Job where
  /-- Evaluate a line. -/
  | evaluate (hideTree : Bool) (line : String)
  /-- Draw a line. -/
  | drawTree (line : String)
  /-- Run a session. -/
  | session
  deriving Repr, DecidableEq

/-- The outcome of a job under given settings, for the lines of standard input, which only a
session reads. -/
def Job.outcome (host : Host) (config : Config) (input : List String) : Job → Outcome
  | evaluate hideTree line => Command.evaluate host config hideTree line
  | drawTree line => Command.drawTree host config line
  | session => Command.session host config input

/-- What a command line asks for, as far as it is in order up to the name of the command. The
arguments of the command are not looked at yet. -/
structure Request where
  /-- The place of the configuration file. -/
  configPath : String
  /-- The log level, if one is given. -/
  logLevel : Option String
  /-- The command. -/
  command : CommandName
  /-- The arguments of the command. -/
  arguments : List String
  deriving Repr, DecidableEq

namespace CommandLine

open Command

/-- The options that hold for every command. -/
inductive GlobalOption where
  | version
  | config
  | logLevel
  deriving Repr, DecidableEq

/-- How the global options are written. -/
def globalForms : List (OptionForm GlobalOption) :=
  [⟨.version, ["--version", "-v"], false⟩, ⟨.config, ["--config", "-c"], true⟩,
   ⟨.logLevel, ["--log-level"], true⟩]

/-- How the option that hides drawings is written. -/
def hideTreeForms : List (OptionForm Unit) :=
  [⟨(), ["--no-tree"], false⟩]

/-- The options of a command that has none. -/
def noForms : List (OptionForm Unit) := []

/-- The place of the configuration file unless another is given. -/
def defaultConfigPath : String := "minicalc.toml"

/-- The outcome of wrong usage, which is explained on the error stream
only. -/
def wrongUsage : Outcome := ⟨2, "", none⟩

/-- The outcome of the request for the version. The console has no part in it. -/
def versionShown (host : Host) : Outcome :=
  ⟨0, "minicalc version " ++ host.version ++ "\n", none⟩

/-- The value of the last of the options of a name, so that an option that is given twice counts
as it was given last. -/
def lastValue? (name : GlobalOption) (options : List (GivenOption GlobalOption)) :
    Option String :=
  (options.reverse.find? fun option => option.name = name).bind GivenOption.value

/-- Whether some options ask for the version. This is answered before anything else that is in
order. -/
def asksForVersion (options : List (GivenOption GlobalOption)) : Bool :=
  options.any fun option => option.name = .version

/-- The outcome if the first of the positional arguments names no command.
They are looked through for options once more, as it may be one that stands
behind `--`, and a request for the version is met even there. -/
def unknownCommand (host : Host) (positional : List String) : Outcome :=
  match takeOptions globalForms false positional with
  | none => wrongUsage
  | some split => if asksForVersion split.options then versionShown host else wrongUsage

/-- What a command line asks for, or the outcome if it asks for no
command. -/
def request (host : Host) (arguments : List String) : Except Outcome Request :=
  match takeOptions globalForms false arguments with
  | none => .error wrongUsage
  | some ⟨options, positional⟩ =>
    if asksForVersion options then
      .error (versionShown host)
    else
      match positional with
      | [] => .error wrongUsage
      | name :: arguments =>
        match CommandName.ofText? name with
        | none => .error (unknownCommand host positional)
        | some command =>
          .ok ⟨(lastValue? .config options).getD defaultConfigPath,
            lastValue? .logLevel options, command, arguments⟩

/-- The outcome of settings of which some fields are refused, which prints the report on
these fields. -/
def invalidSettings (host : Host) (errors : List FieldError) : Outcome :=
  ⟨1, printed host.console ["Invalid configuration: " ++ host.report errors], none⟩

/-- The outcome of settings that cannot be loaded. Only fields that are refused are reported, and
the other two reasons stop the command. -/
def failedLoad (host : Host) : LoadError → Outcome
  | .invalid errors => invalidSettings host errors
  | .notAText => ⟨1, "", some .fileNotAText⟩
  | .integerTooLong digits => ⟨1, "", some (.integerTooLong digits)⟩

end CommandLine

namespace Request

open Command CommandLine

section Settings

variable (host : Host) (request : Request) (file : ConfigFile)

/-- The settings by the configuration file, with the log level that is
given. -/
def chosenSettings : Except Outcome Config :=
  match Config.loadBy host.coercions file with
  | .error error => .error (failedLoad host error)
  | .ok config =>
    match request.logLevel with
    | none => .ok config
    | some level =>
      (config.withLogLevel host.coercions level).mapError (invalidSettings host)

/-- The settings in force. The text of their log record is made at once, at all log
levels, so all of them must be such that they can be printed. -/
def settings : Except Outcome Config :=
  match request.chosenSettings host file with
  | .error outcome => .error outcome
  | .ok config =>
    if isPrintable config.largest then .ok config
    else .error ⟨1, "", some .numberTooLong⟩

end Settings

/-- What the command is to do, if its arguments are in order. They are looked at last, behind the
settings. -/
def job? (request : Request) : Option Job :=
  match request.command with
  | .evaluate =>
    match takeOptions hideTreeForms true request.arguments with
    | some ⟨options, [line]⟩ => some (.evaluate (!options.isEmpty) line)
    | _ => none
  | .drawTree =>
    match takeOptions noForms true request.arguments with
    | some ⟨_, [line]⟩ => some (.drawTree line)
    | _ => none
  | .session =>
    match takeOptions noForms true request.arguments with
    | some ⟨_, []⟩ => some .session
    | _ => none

/-- The settings and the job of a request, for what is found at the place of
its configuration file. -/
def resolve (host : Host) (request : Request) (file : ConfigFile) :
    Except Outcome (Config × Job) :=
  match request.settings host file with
  | .error outcome => .error outcome
  | .ok config =>
    match request.job? with
    | none => .error wrongUsage
    | some job => .ok (config, job)

end Request

/-- What a command line does on a host, for what is found at the places of files
and for the text of standard input. -/
def CommandLine.outcomeOn (host : Host) (files : String → ConfigFile) (input : String)
    (arguments : List String) : Outcome :=
  match CommandLine.request host arguments with
  | .error outcome => outcome
  | .ok request =>
    match request.resolve host (files request.configPath) with
    | .error outcome => outcome
    | .ok (config, job) => job.outcome host config (Text.lines input)

/-- What a command line does on a host that shows everything as it is. -/
def CommandLine.outcome : (files : String → ConfigFile) → (input : String) →
    (arguments : List String) → Outcome :=
  outcomeOn .plain

end Calculator
