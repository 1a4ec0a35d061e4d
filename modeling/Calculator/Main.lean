import Calculator.Command.Line

/-!
# `Calculator.Main`: the program

The program looks at its arguments, reads the configuration file, and
prints the outcome. Sessions ask for one line at a time, so that every
answer is there before the next line is asked for.
-/

set_option autoImplicit false

namespace Calculator

/-- What is found at the place of a file. -/
def readConfigFile (path : String) : IO ConfigFile := do
  try
    return .contents (← IO.FS.readBinFile path)
  catch _ =>
    return .unreadable

/-- Prints an outcome and gives its exit code. -/
def report (outcome : Outcome) : IO UInt32 := do
  IO.print outcome.output
  match outcome.crash.bind Crash.message? with
  | some message => IO.eprintln message
  | none => pure ()
  return UInt32.ofNat outcome.exitCode

/-- Runs a session on standard input. Of what was read already, `pending`
is left. -/
partial def converse (config : Config) (pending : List String) : IO UInt32 := do
  match Host.plain.console.asked config.prompt with
  | none => report ⟨1, "", some .promptRefused⟩
  | some prompt =>
    IO.print prompt
    (← IO.getStdout).flush
    let lines ←
      if pending.isEmpty then
        Text.lines <$> (← IO.getStdin).getLine
      else
        pure pending
    match Command.turn .plain config lines.head? with
    | .next output => do
      IO.print output
      converse config lines.tail
    | .stop outcome => report outcome

/-- Does what a command line asks for. -/
def execute (arguments : List String) : IO UInt32 := do
  match CommandLine.request .plain arguments with
  | .error outcome => report outcome
  | .ok request =>
    match request.resolve .plain (← readConfigFile request.configPath) with
    | .error outcome => report outcome
    | .ok (config, .session) => converse config []
    | .ok (config, job) => report (job.outcome .plain config [])

end Calculator

/-- The program's entry point. -/
def main (arguments : List String) : IO UInt32 :=
  Calculator.execute arguments
