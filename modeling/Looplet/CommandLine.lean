import Looplet.Build

/-!
# The command line

One run of the program: its arguments and its environment go in, and what it writes to its outputs
and its exit status come out. Files change through the host.
-/

namespace Looplet.CommandLine

/-- What a run writes to its outputs, and its exit status. The log goes to the error output too. -/
structure Outcome where
  status : Nat
  output : String
  errors : String
  log : List Event

/-- The lines of the log, each of which starts with a heading. -/
def Outcome.logLines (o : Outcome) : List String :=
  o.log.flatMap fun e => (Text.lines e.text).take 1

/-- The lines of the error output that have no heading. An event whose text has several lines
gives all of them but the first. -/
def Outcome.errorLines (o : Outcome) : List String :=
  (o.log.flatMap fun e => (Text.lines e.text).drop 1) ++ Text.lines o.errors

/-- The outcome of a run that prints how the program is called. -/
def help : Outcome := ⟨0, usage ++ "\n", "", []⟩

/-- The outcome of a run that does not understand its arguments. -/
def misuse (e : UsageError) : Outcome :=
  ⟨2, "", "lambda: " ++ e.message ++ "\n" ++ usage ++ "\n", []⟩

/-- The outcome of a build. -/
def built (o : Options) (r : Build.Report) : Outcome :=
  let log := r.events.filter (Event.isShown o.level)
  match r.result with
  | .ok () => ⟨0, "", "", log⟩
  | .error e => ⟨1, "", "lambda: compiling " ++ o.input ++ ": " ++ e.chain ++ "\n", log⟩

/-- Runs the program. -/
def run {m : Type → Type} [Monad m] (host : Host m) (args : List String) (env : Environment) :
    m Outcome :=
  match Command.ofArguments args env with
  | .error e => return misuse e
  | .ok .help => return help
  | .ok (.build o) => return built o (← Build.run host o)

end Looplet.CommandLine
