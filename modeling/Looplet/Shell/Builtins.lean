import Looplet.Shell.Directories
import Looplet.Shell.Naming
import Looplet.Shell.Printing
import Looplet.Shell.Signal
import Looplet.Shell.Testing

/-!
# The commands of the shell

`standardBuiltin?` and `richBuiltin?` give the body of a command by its name, for a shell of the
standard and for one that knows more. `exec`, `command` and `builtin` change how another command is
run, so they are not among these bodies.
-/

namespace Looplet.Shell

/-! ## Control -/

/-- Ends the process. -/
def exitBuiltin : BuiltinBody := fun _ args => do
  match args with
  | [] => modify fun p => { p with status := p.interrupted?.getD p.status }
  | s :: _ => setStatus (← numberOf s)
  throw .finish

/-- Goes back from a function or a file. -/
def returnBuiltin : BuiltinBody := fun _ args => do
  match args with
  | [] => pure ()
  | s :: _ => setStatus (← numberOf s)
  throw .giveBack

/-- Leaves or repeats loops. -/
def jumpBuiltin (jump : Nat → Stop) : BuiltinBody := fun _ args => do
  let n ← match args with
    | [] => pure 1
    | s :: _ => do
      let n ← numberOf s
      if n = 0 then badNumber s else pure n
  let levels := min n (← get).loops
  if levels = 0 then return 0
  else
    setStatus 0
    throw (jump levels)

/-- The status that an argument gives, or the one at hand. What is no number counts as two. -/
def statusArgument (args : List String) : Run Nat := do
  let p ← get
  match if args.head? = some "--" then args.drop 1 else args with
  | [] => return p.interrupted?.getD p.status
  | [s] =>
    match wordNumber? s with
    | some n => return (n % 256).toNat
    | none =>
      complain (s ++ ": numeric argument required")
      return 2
  | _ => tooManyArguments

/-- Ends the process, in a shell that knows more than the standard. -/
def richExitBuiltin : BuiltinBody := fun _ args => do
  setStatus (← statusArgument args)
  throw .finish

/-- Goes back from a function or a file, in a shell that knows more than the standard. -/
def richReturnBuiltin : BuiltinBody := fun _ args => do
  if (← get).extras.calls.length < 2 then
    failWithStatus 2 "can only \x60return' from a function or sourced script"
  else
    setStatus (← statusArgument args)
    throw .giveBack

/-- Leaves or repeats loops, in a shell that knows more than the standard. -/
def richJumpBuiltin (jump : Nat → Stop) : BuiltinBody := fun _ args => do
  let loops := (← get).loops
  if loops = 0 then
    complain "only meaningful in a \x60for', \x60while', or \x60until' loop"
    return 0
  else
    match if args.head? = some "--" then args.drop 1 else args with
    | [] =>
      setStatus 0
      throw (jump 1)
    | [s] =>
      match wordNumber? s with
      | none =>
        complain (s ++ ": numeric argument required")
        setStatus 128
        throw .finish
      | some n =>
        if n ≤ 0 then
          complain (s ++ ": loop count out of range")
          setStatus 1
          throw (.leave loops)
        else
          setStatus 0
          throw (jump (min n.toNat loops))
    | _ => tooManyArguments

/-- Runs its arguments as commands. -/
def evalBuiltin : BuiltinBody := fun run args => do
  let text := " ".intercalate args
  run (.text text ⟨(← get).tested, false⟩ .inner)
  return (← get).status

/-- Runs something that is not part of the command at hand, whose lines are its own. -/
def apart (body : Run Unit) : Run Unit := do
  let p ← get
  set { p with
    builtin? := none, extras := { p.extras with shift := 0, level := p.extras.level + 1 } }
  let r ← outcome body
  modify fun q => { q with
    builtin? := p.builtin?, line := p.line,
    extras := { q.extras with shift := p.extras.shift, level := p.extras.level } }
  match r with
  | .ok () => return ()
  | .error stop => throw stop

/-- Runs its arguments as commands, in a shell that knows more than the standard. Their lines are
counted from the line at hand. -/
def richEvalBuiltin : BuiltinBody := fun run args => do
  let rest ← operands args
  let p ← get
  if rest.isEmpty then return 0
  else
    apart (run (.text (" ".intercalate rest) ⟨p.tested, false⟩ ⟨p.line, false, "eval: "⟩))
    return (← get).status

/-- The path of a file with commands. -/
def Process.sourcePath? (p : Process) (name : String) : Option String :=
  let onPath := (Launch.candidates ((p.value? "PATH").getD "") name).find? fun path =>
    match p.world.files.find? (pathOf path) with
    | some (_, e) => e.isFile && e.allows .read
    | none => false
  if name.toList.contains '/' then some name
  else if p.extended then some (onPath.getD name)
  else onPath

/-- Runs the commands in a file. -/
def sourceBuiltin : BuiltinBody := fun run args => do
  match ← operands args with
  | [] => return 0
  | name :: _ =>
    match (← get).sourcePath? name with
    | none => fatal (name ++ ": not found")
    | some path =>
      match (← get).world.files.read (pathOf path) with
      | .error .isDirectory => return 0
      | .error e => fatal ("cannot open " ++ path ++ ": " ++ openReason false e)
      | .ok bytes =>
        modify fun p => { p with builtin? := some path }
        match ← outcome (run (.text (Text.ofBytes bytes) .none ⟨1, true, ""⟩)) with
        | .ok () => pure ()
        | .error .giveBack => pure ()
        | .error stop => throw stop
        return (← get).status

/-- Runs the commands in a file, in a shell that knows more than the standard. Further arguments are
those of the file. -/
def richSourceBuiltin : BuiltinBody := fun run args => do
  match ← operands args with
  | [] => misused "filename argument required"
  | name :: rest =>
    let p ← get
    let path := (p.sourcePath? name).getD name
    match p.world.files.read (pathOf path) with
    | .error .isDirectory => failWithStatus 1 (name ++ ": is a directory")
    | .error e =>
      sayError ({ p with builtin? := none }.heading ++ name ++ ": " ++ e.reason ++ "\n")
      return 1
    | .ok bytes =>
      set { p with
        args := if rest.isEmpty then p.args else rest,
        extras := { p.extras with calls := ⟨"source", p.line, path⟩ :: p.extras.calls } }
      let r ← outcome (apart (run (.text (Text.ofBytes bytes) ⟨p.tested, false⟩ ⟨1, true, ""⟩)))
      runExtraAction run returnMark
      modify fun q => { q with
        args := if rest.isEmpty then q.args else p.args,
        extras := { q.extras with calls := p.extras.calls } }
      match r with
      | .ok () => pure ()
      | .error .giveBack => pure ()
      | .error stop => throw stop
      return (← get).status

/-- Tells from where the function at hand was called. -/
def callerBuiltin : BuiltinBody := fun _ args => do
  let calls := (← get).extras.calls
  match args, calls with
  | [], call :: outer :: _ => do
    say (Nat.repr call.line ++ " " ++ outer.source ++ "\n")
    return 0
  | [], _ =>
    say "0 NULL\n"
    return 0
  | s :: _, _ =>
    match Text.natural? s.toList with
    | none => misused (s ++ ": invalid number")
    | some n =>
      match calls.drop n with
      | call :: outer :: _ =>
        say (Nat.repr call.line ++ " " ++ outer.name ++ " " ++ outer.source ++ "\n")
        return 0
      | _ => return 1

/-! ## Jobs, times and limits -/

/-- Shows how much time was used. -/
def timesBuiltin : BuiltinBody := fun _ _ => do
  let line := if (← get).extended then "0m0.000s 0m0.000s\n" else "0m0.000000s 0m0.000000s\n"
  say (line ++ line)
  return 0

/-- Lists jobs that still run, of which there are none. -/
def jobsBuiltin : BuiltinBody := fun _ args => do
  let extended := (← get).extended
  let (_, rest) ← options (if extended then "lnprs" else "lp") args
  match if extended then rest else [] with
  | [] => return 0
  | s :: _ => failWithStatus 1 (s ++ ": no such job")

/-- Moves a job that still runs, of which there are none. -/
def noJobBuiltin : BuiltinBody := fun _ args => do
  if (← get).extended then failWithStatus 1 "no job control"
  else
    match args with
    | [] => fatal "No current job"
    | s :: _ => fatal ("No such job: " ++ s)

/-- Lets a job go that still runs, of which there are none. -/
def disownBuiltin : BuiltinBody := fun _ args => do
  let (opts, rest) ← options "har" args
  match rest with
  | [] => if opts.isEmpty then failWithStatus 1 "current: no such job" else return 0
  | s :: _ => failWithStatus 1 (s ++ ": no such job")

/-- Shows limits, of which there are none. -/
def ulimitBuiltin : BuiltinBody := fun _ args => do
  let extended := (← get).extended
  let known := if extended then "SHabcdefiklmnpqrstuvxPRT" else "HSatfdscmlpnvwr"
  let (opts, rest) ← options known args
  match rest with
  | [] => say (if opts.any fun o => o.1 = 'c' then "0\n" else "unlimited\n")
  | s :: _ =>
    let fits := (Text.natural? s.toList).isSome || s ∈ ["unlimited", "hard", "soft"]
    if extended && !fits then failWithStatus 1 (s ++ ": invalid number")
  return 0

/-! ## Words that stand for other texts -/

/-- How many rows the table of other names has. -/
def aliasRows : Nat := 39

/-- The row of a name in the table of other names, which is listed row by row. -/
def aliasRow (name : String) : Nat :=
  let cs := name.toList.map Char.toNat
  (cs.foldl (· + ·) (16 * cs.head?.getD 0)) % aliasRows

/-- Sets what a word stands for in a list. -/
def withAlias (name value : String) : List (String × String) → List (String × String)
  | [] => [(name, value)]
  | a :: rest => if a.1 = name then (name, value) :: rest else a :: withAlias name value rest

/-- Lets words stand for other texts, or shows what they stand for. -/
def aliasBuiltin : BuiltinBody := fun _ args => do
  let p ← get
  let line (name value : String) : String := name ++ "=" ++ requoted value ++ "\n"
  if args.isEmpty then
    let rows := (List.range aliasRows).flatMap fun i =>
      p.aliases.filter fun a => aliasRow a.1 = i
    say (String.join (rows.map fun a => line a.1 a.2))
  let mut status := 0
  for a in args do
    match splitAssignment a with
    | (name, some value) =>
      modify fun p => { p with aliases := withAlias name value p.aliases }
    | (name, none) =>
      match p.aliases.lookup name with
      | some value => say (line name value)
      | none =>
        sayError ("alias: " ++ name ++ " not found\n")
        status := 1
  return status

/-- Lets words stand for themselves again. -/
def unaliasBuiltin : BuiltinBody := fun _ args => do
  let (opts, rest) ← options "a" args
  if !opts.isEmpty then modify fun p => { p with aliases := [] }
  let mut status := 0
  for name in rest do
    let p ← get
    if (p.aliases.lookup name).isSome then
      set { p with aliases := p.aliases.filter fun a => a.1 ≠ name }
    else
      sayError ("unalias: " ++ name ++ " not found\n")
      status := 1
  return status

/-- Whether a word may stand for another text. -/
def isAliasName (name : String) : Bool :=
  name ≠ "" && name.toList.all fun c => c ∉ " \t\n;&|<>()\"'\\\x60$/=".toList

/-- Lets words stand for other texts, in a shell that knows more than the standard. -/
def richAliasBuiltin : BuiltinBody := fun _ args => do
  let (_, rest) ← options "p" args
  let line (name value : String) : String := "alias " ++ name ++ "=" ++ Quoting.single value ++ "\n"
  if rest.isEmpty then
    let aliases := (← get).aliases
    say (String.join ((sorted (aliases.map Prod.fst)).map fun name =>
      line name ((aliases.lookup name).getD "")))
  let mut status := 0
  for a in rest do
    match splitAssignment a with
    | ("", _) =>
      complain (a ++ ": not found")
      status := 1
    | (name, some value) =>
      if isAliasName name then
        modify fun p => { p with aliases := withAlias name value p.aliases }
      else
        complain ("\x60" ++ name ++ "': invalid alias name")
        status := 1
    | (name, none) =>
      match (← get).aliases.lookup name with
      | some value => say (line name value)
      | none =>
        complain (name ++ ": not found")
        status := 1
  return status

/-- Lets words stand for themselves again, in a shell that knows more than the standard. -/
def richUnaliasBuiltin : BuiltinBody := fun _ args => do
  let (opts, rest) ← options "a" args
  if !opts.isEmpty then
    modify fun p => { p with aliases := [] }
    return 0
  else if rest.isEmpty then showUsage
  else
    let mut status := 0
    for name in rest do
      let p ← get
      if (p.aliases.lookup name).isSome then
        set { p with aliases := p.aliases.filter fun a => a.1 ≠ name }
      else
        complain (name ++ ": not found")
        status := 1
    return status

/-- Lists the commands of the shell, or looks whether there are some. -/
def enableBuiltin : BuiltinBody := fun _ args => do
  let (_, rest) ← options "adnpsf:" args
  if rest.isEmpty then
    say (String.join (richBuiltins.map fun name => "enable " ++ name ++ "\n"))
    return 0
  else
    let mut status := 0
    for name in rest do
      if name ∉ richBuiltins then
        complain (name ++ ": not a shell builtin")
        status := 1
    return status

/-- Does nothing and gives a status. -/
def constantBuiltin (status : Nat) : BuiltinBody := fun _ _ => return status

/-- Says why it does nothing. -/
def refusingBuiltin (status : Nat) (message : String) : BuiltinBody := fun _ _ => do
  complain message
  return status

/-! ## All of them -/

/-- The body of a command of a shell of the standard. -/
def standardBuiltin? (name : String) : Option BuiltinBody :=
  match name with
  | ":" | "true" => some (constantBuiltin 0)
  | "false" => some (constantBuiltin 1)
  | "echo" => some echoBuiltin
  | "printf" => some printfBuiltin
  | "test" => some testBuiltin
  | "[" => some bracketBuiltin
  | "exit" => some exitBuiltin
  | "return" => some returnBuiltin
  | "break" => some (jumpBuiltin .leave)
  | "continue" => some (jumpBuiltin .again)
  | "eval" => some evalBuiltin
  | "." => some sourceBuiltin
  | "cd" | "chdir" => some cdBuiltin
  | "pwd" => some pwdBuiltin
  | "type" => some typeBuiltin
  | "hash" => some hashBuiltin
  | "times" => some timesBuiltin
  | "jobs" => some jobsBuiltin
  | "fg" | "bg" => some noJobBuiltin
  | "ulimit" => some ulimitBuiltin
  | "alias" => some aliasBuiltin
  | "unalias" => some unaliasBuiltin
  | "kill" => some killBuiltin
  | "trap" => some trapBuiltin
  | "wait" => some waitBuiltin
  | "export" => some exportBuiltin
  | "readonly" => some readonlyBuiltin
  | "unset" => some unsetBuiltin
  | "local" => some localBuiltin
  | "shift" => some shiftBuiltin
  | "set" => some setBuiltin
  | "getopts" => some getoptsBuiltin
  | "read" => some readBuiltin
  | "umask" => some umaskBuiltin
  | _ => none

/-- The body of a command of a shell that knows more than the standard. -/
def richBuiltin? (name : String) : Option BuiltinBody :=
  match name with
  | ":" | "true" => some (constantBuiltin 0)
  | "false" => some (constantBuiltin 1)
  | "echo" => some echoBuiltin
  | "printf" => some richPrintfBuiltin
  | "test" => some richTestBuiltin
  | "[" => some richBracketBuiltin
  | "exit" => some richExitBuiltin
  | "return" => some richReturnBuiltin
  | "break" => some (richJumpBuiltin .leave)
  | "continue" => some (richJumpBuiltin .again)
  | "eval" => some richEvalBuiltin
  | "." | "source" => some richSourceBuiltin
  | "caller" => some callerBuiltin
  | "cd" => some cdBuiltin
  | "pwd" => some pwdBuiltin
  | "pushd" => some pushdBuiltin
  | "popd" => some popdBuiltin
  | "dirs" => some dirsBuiltin
  | "type" => some richTypeBuiltin
  | "hash" => some richHashBuiltin
  | "enable" => some enableBuiltin
  | "times" => some timesBuiltin
  | "jobs" => some jobsBuiltin
  | "fg" | "bg" => some noJobBuiltin
  | "disown" => some disownBuiltin
  | "suspend" => some (refusingBuiltin 1 "cannot suspend: no job control")
  | "logout" => some (refusingBuiltin 1 "not login shell: use \x60exit'")
  | "bind" => some (refusingBuiltin 0 "warning: line editing not enabled")
  | "ulimit" => some ulimitBuiltin
  | "alias" => some richAliasBuiltin
  | "unalias" => some richUnaliasBuiltin
  | "kill" => some richKillBuiltin
  | "trap" => some richTrapBuiltin
  | "wait" => some richWaitBuiltin
  | "declare" | "typeset" => some declareBuiltin
  | "local" => some richLocalBuiltin
  | "export" => some richExportBuiltin
  | "readonly" => some richReadonlyBuiltin
  | "unset" => some richUnsetBuiltin
  | "let" => some letBuiltin
  | "shift" => some richShiftBuiltin
  | "set" => some richSetBuiltin
  | "shopt" => some shoptBuiltin
  | "getopts" => some richGetoptsBuiltin
  | "read" => some richReadBuiltin
  | "mapfile" | "readarray" => some mapfileBuiltin
  | "umask" => some richUmaskBuiltin
  | _ => none

/-- The body of a command of the shell. One that is known by its name only does nothing. -/
def Process.builtinBody (p : Process) (name : String) : BuiltinBody :=
  (if p.extended then richBuiltin? name else standardBuiltin? name).getD (constantBuiltin 0)

end Looplet.Shell
