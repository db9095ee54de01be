import Looplet.Shell.Programs

/-!
# Running programs

A program is a shell, a program that starts another one, or a small program. `perform` ties all
parts of the shell together: it does a job with a bound on how deep jobs may be nested. `run`
starts a program on a file system and tells how it ended.
-/

namespace Looplet.Shell

/-! ## Shells -/

/-- A variable that other programs see, or not. -/
def bound (exported : Bool) (name value : String) : Variable :=
  { name := name, text? := some value, exported := exported }

/-- The variables of a shell that has just been started. -/
def Process.firstBindings (p : Process) : List Variable :=
  let taken := p.environment.filter fun (name, _) => isName name && name ≠ "PWD" && name ≠ "IFS"
  let given := taken.map fun (name, value) => bound true name value
  let fixed := [bound false "IFS" " \t\n", bound false "OPTIND" "1",
    bound false "PPID" (Nat.repr (p.parents.head?.getD 1)), bound false "PS1" "$ ",
    bound false "PS2" "> ", bound false "PS4" "+ ",
    bound true "PWD" (Text.encoded p.world.files.cwdPath)]
  let path := if given.any fun v => v.name = "PATH" then [] else [bound false "PATH" defaultPath]
  given ++ path ++ fixed.filter fun v => !given.any fun w => w.name = v.name

/-- The variables of a shell that has just been started and knows more than the standard. A
directory to go back to is known only if there is one. -/
def Process.richBindings (p : Process) : List Variable :=
  let taken := p.environment.filter fun (name, _) =>
    isName name && name ∉ ["PWD", "IFS", "SHLVL", "_", "OPTIND", "PPID", "UID", "EUID", "OLDPWD",
      "SHELLOPTS", "BASHOPTS"]
  let given := taken.map fun (name, value) => bound true name value
  let number (name : String) (n : Nat) : Variable :=
    { bound false name (Nat.repr n) with integer := true, readOnly := true }
  let user := 65534
  let level := ((p.environment.lookup "SHLVL").bind fun s => Text.natural? s.toList).getD 0
  let old := match p.environment.lookup "OLDPWD" with
    | some dir => bound true "OLDPWD" dir
    | none => { name := "OLDPWD", text? := none, exported := true }
  let version := ".".intercalate (versionParts.take 3) ++ "(1)-release"
  let fixed := [bound false "BASH" "/bin/bash", bound false "BASH_VERSION" version,
    { name := "BASH_VERSINFO", text? := none, readOnly := true,
      table? := some (Table.ofValues 0 versionParts) },
    number "EUID" user, number "UID" user, number "PPID" (p.parents.head?.getD 1),
    bound false "HOSTNAME" "localhost", bound false "HOSTTYPE" "x86_64",
    bound false "MACHTYPE" "x86_64-pc-linux-gnu", bound false "OSTYPE" "linux-gnu",
    bound false "IFS" " \t\n", bound false "OPTERR" "1", bound false "OPTIND" "1",
    bound false "PS4" "+ ", bound false "SHELL" "/bin/bash", bound false "TERM" "dumb",
    bound true "PWD" (Text.encoded p.world.files.cwdPath),
    bound true "SHLVL" (Nat.repr (level + 1)), old]
  let path := if given.any fun v => v.name = "PATH" then [] else [bound false "PATH" defaultPath]
  given ++ path ++ fixed.filter fun v => !given.any fun w => w.name = v.name

/-- The function that a variable stands for which was given by another program. -/
def functionOf? (key value : String) : Option (String × Function) :=
  let start := "BASH_FUNC_".length
  let name := String.ofList (key.toList.drop start).dropLast.dropLast
  if functionVariable name ≠ key || !value.startsWith "() \x7b" then none
  else
    match readLine (.ofText (name ++ " " ++ value) 1 true false []) with
    | .ok (some (.function _ _ body), _) =>
      some (name, { body := body, source := "environment", exported := true })
    | _ => none

/-- The functions of a shell that has just been started. -/
def Process.givenFunctions (p : Process) : List (String × Function) :=
  p.environment.filterMap fun (name, value) => functionOf? name value

/-- What a shell keeps that has just been started. -/
def Extras.first (name : String) (extended : Bool) : Extras where
  toggles := if extended then firstToggles else []
  pipeStatus := [0]
  calls := if extended then [⟨"main", 0, name⟩] else []
  lastArgument := if extended then "/bin/bash" else ""
  directories := []
  hashed := []
  depth := 0
  level := 0
  endLevel := 0
  pending := []
  readers := []
  seed := 42
  shift := 0

/-- The process of a shell that has just been started. -/
def Process.restarted (p : Process) (name : String) (extended : Bool) : Process where
  world := p.world
  descriptors := p.descriptors
  umask := p.umask
  deadline? := p.deadline?
  id := p.id
  shellId := p.id
  parents := p.parents
  name := name
  args := []
  bindings := if extended then p.richBindings else p.firstBindings
  locals := []
  functions := if extended then p.givenFunctions else []
  aliases := []
  tracked := []
  options := if extended then firstOptions else []
  traps := p.traps.filter fun t => t.2 = ""
  status := 0
  substituted? := none
  line := 0
  builtin? := none
  inputLine := 1
  tested := false
  background? := none
  jobs := []
  interrupted? := none
  loops := 0
  outputFault? := none
  optionOffset := 0
  extended := extended
  extras := .first name extended

/-- Sets the options that a shell is started with. Gives whether its commands are an argument, and
the other arguments. -/
def startOptions : Nat → List String → Run (Bool × List String)
  | 0, args => return (false, args)
  | fuel + 1, args =>
    match args with
    | [] => return (false, [])
    | a :: rest =>
      let set (on : Bool) (cs : List Char) : Run (Bool × List String) := do
        let rest ← setLetters on rest (cs.filter fun c => c ≠ 'c' && c ≠ 'l')
        let (more, rest) ← startOptions fuel rest
        return (more || 'c' ∈ cs, rest)
      match a.toList with
      | ['-'] => return (false, rest)
      | ['-', '-'] => return (false, rest)
      | '-' :: cs => set true cs
      | '+' :: cs => set false cs
      | _ => return (false, args)

/-- The commands that a shell is started with. -/
def startText (given : Bool) (args : List String) : Run String := do
  match args with
  | [] =>
    if given then fatal "-c requires an argument"
    else return ((← readAll 0).toOption).getD ""
  | first :: rest =>
    if given then
      match rest with
      | [] => pure ()
      | name :: args => modify fun p => { p with name := name, args := args }
      return first
    else if 's' ∈ (← get).options then
      modify fun p => { p with args := args }
      return ((← readAll 0).toOption).getD ""
    else
      match (← get).world.files.read (pathOf first) with
      | .ok bytes =>
        modify fun p => { p with name := first, args := rest }
        return Text.ofBytes bytes
      | .error .isDirectory => return ""
      | .error e => fatal ("cannot open " ++ first ++ ": " ++ openReason false e)

/-- Becomes a shell of the standard. -/
def startShell (run : Runner) (args : List String) : Run Unit := do
  modify fun p => p.restarted (args.head?.getD "sh") false
  let (given, rest) ← startOptions (args.length + 1) (args.drop 1)
  let text ← startText given rest
  runLife run (run (.text text ⟨false, given⟩ ⟨1, !given, ""⟩))

/-! ## Shells that know more -/

/-- How a shell is called. -/
def shellUsage (name : String) : String :=
  let names := ["debug", "debugger", "dump-po-strings", "dump-strings", "help", "init-file",
    "login",
    "noediting", "noprofile", "norc", "posix", "pretty-print", "rcfile", "restricted", "verbose",
    "version"]
  "Usage:\t" ++ name ++ " [GNU long option] [option] ...\n\t" ++ name
    ++ " [GNU long option] [option] script-file ...\nGNU long options:\n"
    ++ String.join (names.map fun n => "\t--" ++ n ++ "\n")
    ++ "Shell options:\n\t-ilrsD or -c command or -O shopt_option\t\t(invocation only)\n"
    ++ "\t-abefhkmnptuvxBCEHPT or -o option\n"

/-- Says that a shell was called wrongly. -/
def misusedShell {α : Type} (message : String) (showsUsage : Bool) : Run α := do
  let p ← get
  sayError (p.name ++ ": " ++ message ++ "\n" ++ if showsUsage then shellUsage p.name else "")
  setStatus 2
  throw .failure

/-- Names a shell and the file of its commands. -/
def nameShell (name : String) (args : List String) : Run Unit :=
  modify fun p => { p with
    name := name, args := args, extras := { p.extras with calls := [⟨"main", 0, name⟩] } }

/-- Sets the options of letters that a shell is started with, of which some take an argument. Gives
the other arguments. -/
def startLetters (on : Bool) (rest : List String) : List Char → Run (List String)
  | [] => return rest
  | 'o' :: cs => do
    match rest with
    | [] =>
      listRichOptions on
      startLetters on [] cs
    | name :: rest =>
      match richOptions.lookup name with
      | some c => setOption on c
      | none =>
        let p ← get
        misusedShell ("line 0: " ++ p.name ++ ": " ++ name ++ ": invalid option name") false
      startLetters on rest cs
  | 'O' :: cs => do
    match rest with
    | [] => startLetters on [] cs
    | name :: rest =>
      if name ∉ toggleNames then
        misusedShell (name ++ ": invalid shell option name") false
      setToggle on name
      startLetters on rest cs
  | c :: cs => do
    if c ∈ "clirsD".toList || (c.isAlpha && richOptions.any fun o => o.2 = c) then
      if c ∉ "lirD".toList then setOption on c
      startLetters on rest cs
    else misusedShell ((if on then "-" else "+") ++ c.toString ++ ": invalid option") true

/-- The words for options that change nothing here. -/
def idleOptions : List String :=
  ["--norc", "--noprofile", "--login", "--noediting", "--posix", "--debugger"]

/-- Sets the options that a shell is started with. Gives the other arguments. -/
def startRichOptions : Nat → List String → Run (List String)
  | 0, args => return args
  | fuel + 1, args =>
    match args with
    | [] => return []
    | a :: rest =>
      match a.toList with
      | ['-'] => return rest
      | ['-', '-'] => return rest
      | '-' :: '-' :: _ => do
        if a ∈ idleOptions then startRichOptions fuel rest
        else if a = "--verbose" then
          setOption true 'v'
          startRichOptions fuel rest
        else if a = "--rcfile" || a = "--init-file" then startRichOptions fuel (rest.drop 1)
        else misusedShell (a ++ ": invalid option") true
      | '-' :: cs => do startRichOptions fuel (← startLetters true rest cs)
      | '+' :: cs => do startRichOptions fuel (← startLetters false rest cs)
      | _ => return args

/-- The commands that a shell is started with. -/
def startRichText (given : Bool) (args : List String) : Run String := do
  let p ← get
  match args with
  | [] =>
    if given then misusedShell "-c: option requires an argument" false
    else return ((← readAll 0).toOption).getD ""
  | first :: rest =>
    if given then
      match rest with
      | [] => pure ()
      | name :: args => nameShell name args
      return first
    else if 's' ∈ p.options then
      set { p with args := args }
      return ((← readAll 0).toOption).getD ""
    else
      let onPath (e : SystemError) : String :=
        if e = .noEntry && !first.toList.contains '/' then
          (p.filesFor { all := true } first).head?.getD first
        else first
      let found := match p.world.files.read (pathOf first) with
        | .error e => (onPath e, p.world.files.read (pathOf (onPath e)))
        | r => (first, r)
      match found with
      | (path, .ok bytes) =>
        nameShell path rest
        if isBinary bytes then
          sayError (path ++ ": " ++ path ++ ": cannot execute binary file\n")
          setStatus 126
          throw .failure
        return Text.ofBytes bytes
      | (_, .error e) =>
        let name := if e = .isDirectory then first else p.name
        sayError (name ++ ": " ++ first ++ ": " ++ e.reason ++ "\n")
        setStatus (if e = .noEntry then 127 else 126)
        throw .failure

/-- The version of a shell in words. -/
def versionText : String :=
  "GNU bash, version " ++ ".".intercalate (versionParts.take 3) ++ "(1)-release "
    ++ "(x86_64-pc-linux-gnu)\n"

/-- Becomes a shell that knows more than the standard. -/
def startRichShell (run : Runner) (args : List String) : Run Unit := do
  modify fun p => p.restarted (args.head?.getD "bash") true
  if args.drop 1 = ["--version"] then
    say versionText
    setStatus 0
  else
    let rest ← startRichOptions (args.length + 1) (args.drop 1)
    let given := 'c' ∈ (← get).options
    let text ← startRichText given rest
    noteSettings
    let label := if given then "-c: " else ""
    runWholeLife run (run (.text text ⟨false, given⟩ ⟨1, !given, label⟩))

/-- A process that is no shell: its variables are only those that other programs see. -/
def Process.bare (p : Process) : Process :=
  if p.extended then
    { p with
      bindings := p.environment.map fun (name, value) => bound true name value,
      extended := false }
  else p

/-! ## All programs -/

/-- Becomes a program. -/
def runProgram (run : Runner) (l : Launch) : Run Unit := do
  let name := l.args.head?.getD ""
  let args := l.args.drop 1
  match l.program with
  | "sh" | "dash" => startShell run l.args
  | "bash" => startRichShell run l.args
  | program =>
    modify Process.bare
    match starter? program, Utility.named? program with
    | some start, _ =>
      modify fun p => { p with outputFault? := none }
      start run name args
    | none, some body =>
      modify fun p => { p with outputFault? := none }
      let status ← body name args
      let p ← get
      match p.outputFault? with
      | some e =>
        Utility.complainAs name ("write error: " ++ e.reason)
        setStatus 1
      | none => setStatus status
    | none, none => setStatus 127

/-- Does a job in which others are nested up to a depth. A process that nests them deeper runs out
of memory, and is ended by a signal. -/
def perform : Nat → Job → Run Unit
  | 0, _ => throw (.signal 11)
  | depth + 1, .command c duty => runCommand (perform depth) duty c
  | depth + 1, .life c tested => runLife (perform depth) (perform depth (.command c ⟨tested, true⟩))
  | depth + 1, .text t duty origin => runText (perform depth) duty origin t
  | depth + 1, .program l => runProgram (perform depth) l

/-- How deep jobs may be nested. -/
def jobDepth : Nat := 20000

/-! ## From outside -/

/-- What a program left: how it ended, the files, and what it wrote to its two outputs. -/
structure Result where
  ended : ExitStatus
  files : FileSystem
  output : ByteArray
  errors : ByteArray

/-- The world of a first process: nothing to read, and two outputs. -/
def World.first (files : FileSystem) : World where
  files := files
  names := []
  nameless := #[]
  opened := #[⟨.null, true, false⟩, ⟨.parent 1, false, true⟩, ⟨.parent 2, false, true⟩]
  pipes := #[]
  output := ByteArray.empty
  errors := ByteArray.empty
  signals := []
  processes := 10001
  clock := 0

/-- The first process. -/
def Process.first (files : FileSystem) (environment : List (String × String)) : Process where
  world := .first files
  descriptors := [(0, 0), (1, 1), (2, 2)]
  umask := 0o022
  deadline? := none
  id := 10000
  shellId := 10000
  parents := []
  name := ""
  args := []
  bindings := environment.map fun (name, value) => bound true name value
  locals := []
  functions := []
  aliases := []
  tracked := []
  options := []
  traps := []
  status := 0
  substituted? := none
  line := 0
  builtin? := none
  inputLine := 1
  tested := false
  background? := none
  jobs := []
  interrupted? := none
  loops := 0
  outputFault? := none
  optionOffset := 0
  extended := false
  extras := .first "" false

/-- Runs a program to its end. One that does not end is stopped. -/
def run (files : FileSystem) (environment : List (String × String)) (l : Launch) : Result :=
  let (r, p) := (perform jobDepth (.program l)).run.run (.first files.withStreams environment)
  let ended := match r with
    | .error (.signal n) => .signal n
    | .error .exhausted => .signal 9
    | _ => .code (p.status % 256)
  ⟨ended, { p.world.files with cwd := files.cwd }, p.world.output, p.world.errors⟩

end Looplet.Shell
