/-!
# `Calculator.Command.Arguments`: reading command-line arguments

An argument that starts with a dash is one or more options. A long option
may hold its value behind an equals sign. Short options may share one dash,
and the value of a short option may follow at once. `--` ends the options,
and a dash by itself is no option.

* `OptionForm`: an option that a command knows.
* `takeOptions`: splits arguments into options and positional arguments, or
  refuses them.
-/

set_option autoImplicit false

namespace Calculator.Command

/-- An option that a command knows, with all its spellings. -/
structure OptionForm (Name : Type) where
  /-- Which option it is. -/
  name : Name
  /-- How it is written, dashes included. -/
  spellings : List String
  /-- Whether a value follows. -/
  takesValue : Bool

/-- An option that was given, with its value if it takes one. -/
structure GivenOption (Name : Type) where
  /-- Which option it is. -/
  name : Name
  /-- Its value. -/
  value : Option String

/-- Arguments that are split into options and positional arguments. -/
structure SplitArguments (Name : Type) where
  /-- The options, in the order given. -/
  options : List (GivenOption Name)
  /-- All other arguments, in the order given. -/
  positional : List String

variable {Name : Type}

/-- The same arguments with some options in front, where the options of one argument are put
before those of the later ones. -/
def SplitArguments.withOptions (options : List (GivenOption Name))
    (split : SplitArguments Name) : SplitArguments Name :=
  { split with options := options ++ split.options }

/-- The same arguments with a positional argument in front, where options may also follow it. -/
def SplitArguments.withPositional (argument : String) (split : SplitArguments Name) :
    SplitArguments Name :=
  { split with positional := argument :: split.positional }

/-- The option with a spelling, dashes included. No spelling is completed, so a part of one names
no option. -/
def findOption? (forms : List (OptionForm Name)) (spelling : String) :
    Option (OptionForm Name) :=
  forms.find? fun form => form.spellings.contains spelling

/-- The parts of an argument before and behind the first equals sign. -/
def splitValue (argument : String) : String × Option String :=
  let characters := argument.toList
  let spelling := String.ofList (characters.takeWhile (· != '='))
  match characters.dropWhile (· != '=') with
  | [] => (spelling, none)
  | _ :: value => (spelling, some (String.ofList value))

/-- Options read from one argument, and how many of the arguments behind it
they took as a value. -/
structure TakenOptions (Name : Type) where
  /-- The options. -/
  options : List (GivenOption Name)
  /-- Whether the next argument is the value of the last of them. -/
  tookNext : Bool

/-- Reads a long option. A value must be there if the option takes one, and
must not be there if it does not. -/
def longOption? (form : OptionForm Name) (value : Option String)
    (next : Option String) : Option (TakenOptions Name) :=
  match form.takesValue, value, next with
  | false, none, _ => some ⟨[⟨form.name, none⟩], false⟩
  | false, some _, _ => none
  | true, some value, _ => some ⟨[⟨form.name, some value⟩], false⟩
  | true, none, some next => some ⟨[⟨form.name, some next⟩], true⟩
  | true, none, none => none

/-- Reads short options that share one dash. The first one that takes a value takes the other
letters as its value, or else the next argument. -/
def shortOptions? (forms : List (OptionForm Name)) (next : Option String) :
    (letters : List Char) → Option (TakenOptions Name)
  | [] => some ⟨[], false⟩
  | letter :: letters => do
    let form ← findOption? forms (String.ofList ['-', letter])
    if form.takesValue then
      if letters.isEmpty then
        return ⟨[⟨form.name, some (← next)⟩], true⟩
      else
        return ⟨[⟨form.name, some (String.ofList letters)⟩], false⟩
    else
      let more ← shortOptions? forms next letters
      return ⟨⟨form.name, none⟩ :: more.options, more.tookNext⟩

/-- Reads the options of one argument, which starts with a dash. A second
dash makes it a long option, and else it is a row of short ones. -/
def optionsOf? (forms : List (OptionForm Name)) (argument : String)
    (next : Option String) : Option (TakenOptions Name) :=
  match argument.toList with
  | '-' :: '-' :: _ => do
    let (spelling, value) := splitValue argument
    longOption? (← findOption? forms spelling) value next
  | _ :: letters => shortOptions? forms next letters
  | [] => none

/-- Whether an argument is read as options: it starts with a dash and has more than that. -/
def isOptions (argument : String) : Bool :=
  argument.toList.head? == some '-' && argument != "-"

/-- Splits arguments. With `interspersed`, options may also follow a
positional argument, and else the first positional argument ends them. -/
def takeOptions (forms : List (OptionForm Name)) (interspersed : Bool) :
    (arguments : List String) → Option (SplitArguments Name)
  | [] => some ⟨[], []⟩
  | argument :: arguments =>
    if argument == "--" then
      some ⟨[], arguments⟩
    else if isOptions argument then
      match optionsOf? forms argument arguments.head? with
      | none => none
      | some ⟨options, false⟩ =>
        (takeOptions forms interspersed arguments).map (SplitArguments.withOptions options)
      | some ⟨options, true⟩ =>
        (takeOptions forms interspersed arguments.tail).map
          (SplitArguments.withOptions options)
    else if interspersed then
      (takeOptions forms interspersed arguments).map (SplitArguments.withPositional argument)
    else
      some ⟨[], argument :: arguments⟩
termination_by arguments => arguments.length
decreasing_by
  · exact Nat.lt_succ_self _
  · simp only [List.length_tail, List.length_cons]
    omega
  · exact Nat.lt_succ_self _

end Calculator.Command
