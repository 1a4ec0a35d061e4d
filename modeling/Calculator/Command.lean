import Calculator.Config.File
import Calculator.Expr.Drawing
import Calculator.Host

/-!
# `Calculator.Command`: what the commands print

The outcome of a command is its exit code and what it prints, and a crash
if it stops in the middle. Of the failures of evaluation only those are
reported that are a matter of the expression: any other one, as a tree that is
not in order, stops the command. So does a result of more than 4300 digits,
which cannot be printed. Either stops even a session.

Log records are not modelled, but for what the record of a value can lead to.
It is written where the log level lets it through, and it cannot be written if the
value has too many digits. The log reports that, together with the expression
and all its parts, and the stack may not be large enough for this report
(`Command.logCrash`). All other records can be written, but for that of the
settings, which `Request.settings` is about.

* `Command.runLine`: one line, with its drawing if wanted.
* `Command.evaluate`, `Command.drawTree`: the two commands for one line.
* `Command.session`: the command for a sequence of lines.
-/

set_option autoImplicit false

namespace Calculator

/-- What stops a command in the middle. -/
inductive Crash where
  /-- A number that has too many digits to be printed. -/
  | numberTooLong
  /-- A report of the log for which the stack is not large enough. -/
  | stackExhausted
  /-- A failure that is not reported. -/
  | uncaught (failure : Failure)
  /-- A prompt that the console refuses. -/
  | promptRefused
  /-- A configuration file that is no text. -/
  | fileNotAText
  /-- A configuration file with a decimal integer of too many digits. -/
  | integerTooLong (digits : Nat)
  deriving Repr, DecidableEq

/-- The text of a crash, if it has one. The texts of the console and of the interpreter
are left out. -/
def Crash.message? : Crash → Option String
  | numberTooLong =>
    some ("Exceeds the limit (4300 digits) for integer string conversion; " ++
      "use sys.set_int_max_str_digits() to increase the limit")
  | uncaught failure => some failure.message
  | stackExhausted | promptRefused | fileNotAText => none
  | integerTooLong digits =>
    some ("Exceeds the limit (4300 digits) for integer string conversion: value has " ++
      toString digits ++
      " digits; use sys.set_int_max_str_digits() to increase the limit")

/-- What a command does, as far as it can be seen from outside. -/
structure Outcome where
  /-- The exit code: 0 for success, 1 for a failure, 2 for wrong usage. -/
  exitCode : Nat
  /-- Everything that is printed on the console. What is written to the error stream is
  left out. -/
  output : String
  /-- What stopped the command in the middle, if anything did. -/
  crash : Option Crash
  deriving Repr, DecidableEq

namespace Command

/-- Texts on lines of their own, as the console shows them. The newline behind each text is
written as it is. -/
def printed (console : Console) (texts : List String) : String :=
  String.join (texts.map fun text => console.shown text ++ "\n")

/-- Whether a number can be printed: it must not have too many digits. -/
def isPrintable (number : Int) : Bool :=
  number.natAbs < Nat.pow 10 Text.longestNumeral

/-- How one line turned out. The exit code follows from this alone, and so does whether a session
goes on. -/
inductive LineEnd where
  /-- With a result, which was printed. -/
  | result
  /-- With a message instead of a result. -/
  | noResult
  /-- In the middle, with nothing more printed. -/
  | stopped (crash : Crash)
  deriving Repr, DecidableEq

/-- The lines of the drawing of a tree. -/
def drawingLines (tree : Tree Diagnostic) : List String :=
  [(Node.expr tree.root).drawn]

/-- The lines of the diagnostics of a tree, in the order in which they were found. A diagnostic
that quotes a line is a line of its own. -/
def diagnosticLines (tree : Tree Diagnostic) : List String :=
  tree.diagnostics.map Diagnostic.message

/-- What the log record of the value of an expression leads to at a log level. A value
with too many digits cannot be written, and the log reports that with the expression and
all its parts. This stops the command if the stack is not large enough for it. -/
def logCrash (host : Host) (level : LogLevel) (root : Expr) (value : Int) : Option Crash :=
  if level.recordsEvaluations && !isPrintable value && !host.spellsOut root then
    some .stackExhausted
  else
    none

/-- What is printed behind the drawing of a tree, and how the line turned
out. The record of a value is written before the value is printed. -/
def conclude (host : Host) (level : LogLevel) (tree : Tree Diagnostic) :
    List String × LineEnd :=
  if tree.hasErrors then
    (diagnosticLines tree, .noResult)
  else
    match tree.root.evaluate with
    | .ok value =>
      match logCrash host level tree.root value with
      | some crash => ([], .stopped crash)
      | none =>
        if isPrintable value then
          ([toString value], .result)
        else
          ([], .stopped .numberTooLong)
    | .error fault =>
      if fault.failure.isEvaluation then
        (["Evaluation error: " ++ fault.failure.message], .noResult)
      else
        ([], .stopped (.uncaught fault.failure))

section Commands

variable (host : Host) (config : Config)

/-- Runs one line: what is printed for it, and how it turned out. The drawing comes first, also
for a line with diagnostics. -/
def runLine (showTree : Bool) (line : String) : String × LineEnd :=
  let tree := parse line config.largest defaultMaxDepth
  let conclusion := conclude host config.logLevel tree
  let drawing := if showTree then drawingLines tree else []
  (printed host.console (drawing ++ conclusion.1), conclusion.2)

/-- The outcome of a command that runs one line. What was printed before a crash stays printed. -/
def outcomeOfLine : String × LineEnd → Outcome
  | (output, .result) => ⟨0, output, none⟩
  | (output, .noResult) => ⟨1, output, none⟩
  | (output, .stopped crash) => ⟨1, output, some crash⟩

/-- Evaluates one line. Its drawing is left out if the settings or
`hideTree` say so. -/
def evaluate (hideTree : Bool) (line : String) : Outcome :=
  outcomeOfLine (runLine host config (config.showTree && !hideTree) line)

/-- Draws one line, whatever the settings say about drawings, and does not
evaluate it. -/
def drawTree (line : String) : Outcome :=
  let tree := parse line config.largest defaultMaxDepth
  ⟨if tree.hasErrors then 1 else 0,
    printed host.console (drawingLines tree ++ diagnosticLines tree), none⟩

/-- Whether a line ends a session. Any line of blanks only does, an empty line among them. -/
def endsSession (line : String) : Bool :=
  line.toList.all Text.isBlank

/-- What a session does with a line, or with the lack of one. This is all that is known of a
session between two lines. -/
inductive Turn where
  /-- It prints something and asks for another line. -/
  | next (output : String)
  /-- It ends. -/
  | stop (outcome : Outcome)
  deriving Repr, DecidableEq

/-- The turn of a session at a line. A blank line ends it as the lack of a
line does. -/
def turn : (line : Option String) → Turn
  | none => .stop ⟨0, "", none⟩
  | some line =>
    if endsSession line then
      .stop ⟨0, "", none⟩
    else
      match runLine host config config.showTree line with
      | (output, .stopped crash) => .stop ⟨1, output, some crash⟩
      | (output, _) => .next output

/-- The outcome with something printed before everything else. Exit code and crash stay the
same. -/
def Outcome.behind (output : String) (outcome : Outcome) : Outcome :=
  { outcome with output := output ++ outcome.output }

/-- Runs the turns of a session: the prompt is printed as the console shows it and a line
is run, until a line ends the session or there are no more lines. -/
def converse (prompt : String) : (lines : List String) → Outcome
  | [] =>
    match turn host config none with
    | .next output => ⟨0, prompt ++ output, none⟩
    | .stop outcome => Outcome.behind prompt outcome
  | line :: lines =>
    match turn host config (some line) with
    | .next output => Outcome.behind (prompt ++ output) (converse prompt lines)
    | .stop outcome => Outcome.behind prompt outcome

/-- Runs a session. It crashes where it first asks for a line if the console refuses the
prompt. -/
def session (lines : List String) : Outcome :=
  match host.console.asked config.prompt with
  | some prompt => converse host config prompt lines
  | none => ⟨1, "", some .promptRefused⟩

end Commands

end Command

end Calculator
