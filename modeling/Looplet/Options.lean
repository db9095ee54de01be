import Looplet.Log

/-!
# Command lines

The arguments are read from left to right. `-o` takes the argument after it, whatever that is; a
lone dash and the empty text are source paths like any other. The first argument that stops the
reading decides; otherwise the log level is checked before the source, and the source before the
output. Of repeated outputs and kinds of output the last one counts.
-/

namespace Looplet

/-- What a build writes. -/
inductive Emit where
  | executable
  | assembly
  | llvmIr
  deriving DecidableEq

/-- A build: what to read, what to write, which toolchain to use, and how much to log. -/
structure Options where
  input : String
  output : String
  emit : Emit
  toolchain? : Option String
  level : Level
  deriving DecidableEq

/-- What a command line asks for. -/
inductive Command where
  | help
  | build (options : Options)
  deriving DecidableEq

/-- Why a command line asks for nothing. -/
inductive UsageError where
  | missingOutput
  | missingInput
  | missingValue (option : String)
  | extraArgument (arg : String)
  | unknownOption (arg : String)
  | invalidLevel (value : String)
  deriving DecidableEq

/-- The wording of a usage error. -/
def UsageError.message : UsageError → String
  | missingOutput => "missing output path (-o <output>)"
  | missingInput => "missing source path"
  | missingValue o => "`" ++ o ++ "` expects a value"
  | extraArgument a => "unexpected extra argument `" ++ a ++ "`"
  | unknownOption a => "unknown option `" ++ a ++ "`"
  | invalidLevel v => "invalid LAMBDA_LOG value `" ++ v ++ "`"

/-- How the program is called. -/
def usage : String := "usage: lambda [-S | --emit-llvm] [-v] -o <output> <source>"

/-- The variables of an environment. -/
abbrev Environment := String → Option String

namespace Command

/-- What the arguments read so far have set. -/
structure Settings where
  input? : Option String
  output? : Option String
  emit : Emit
  verbose : Bool
  deriving DecidableEq

/-- The settings before any argument. -/
def Settings.initial : Settings := ⟨none, none, .executable, false⟩

/-- Whether an argument is an option: a dash and something after it. -/
def isOption (arg : String) : Bool :=
  arg.toList.head? = some '-' && 1 < arg.length

/-- Reads arguments from left to right. There are no settings if help is asked for. -/
def settings (s : Settings) : List String → Except UsageError (Option Settings)
  | [] => .ok (some s)
  | arg :: rest =>
    if arg = "-h" ∨ arg = "--help" then .ok none
    else if arg = "-o" then
      match rest with
      | [] => .error (.missingValue arg)
      | value :: rest => settings { s with output? := some value } rest
    else if arg = "-S" then settings { s with emit := .assembly } rest
    else if arg = "--emit-llvm" then settings { s with emit := .llvmIr } rest
    else if arg = "-v" ∨ arg = "--verbose" then settings { s with verbose := true } rest
    else if isOption arg then .error (.unknownOption arg)
    else if s.input?.isSome then .error (.extraArgument arg)
    else settings { s with input? := some arg } rest

/-- A variable that is set to more than blanks. -/
def filled? (env : Environment) (key : String) : Option String :=
  (env key).filter fun v => Text.trim v ≠ ""

/-- The log level: verbose settings first, then the environment. -/
def level (env : Environment) (verbose : Bool) : Except UsageError Level :=
  if verbose then .ok .debug
  else
    match filled? env "LAMBDA_LOG" with
    | none => .ok .warn
    | some v =>
      match Level.ofText? (Text.trim v) with
      | some l => .ok l
      | none => .error (.invalidLevel v)

/-- The build that settings ask for. -/
def ofSettings (env : Environment) (s : Settings) : Except UsageError Options := do
  let level ← level env s.verbose
  match s.input?, s.output? with
  | none, _ => .error .missingInput
  | some _, none => .error .missingOutput
  | some input, some output => return ⟨input, output, s.emit, filled? env "LAMBDA_CC", level⟩

/-- Reads a command line in an environment. -/
def ofArguments (args : List String) (env : Environment) : Except UsageError Command := do
  match ← settings Settings.initial args with
  | none => return .help
  | some s => return .build (← ofSettings env s)

end Command

end Looplet
