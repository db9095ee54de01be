import Looplet.Shell.Evaluation
import Looplet.Utility

/-!
# Programs that start other programs

These programs change something about themselves and then become another program, or they run
another program and wait for it.
-/

namespace Looplet.Shell

open Utility

/-- A program that may start others: its name and its arguments. -/
abbrev Starter := Runner → String → List String → Run Unit

/-- What a program is started as, by its name. -/
def Process.launchOf (p : Process) (args : List String) : Except SystemError Launch :=
  let name := args.head?.getD ""
  let searchPath := (p.environment.lookup "PATH").getD "/bin:/usr/bin"
  if name.toList.contains '/' then startFile p.world.files name args
  else if name = "" then .error .noEntry
  else startFirst p.world.files args .noEntry (Launch.candidates searchPath name)

/-- Becomes a program, or says that it cannot be started. -/
def become (run : Runner) (name : String) (args : List String) : Run Unit := do
  match (← get).launchOf args with
  | .ok launch => run (.program launch)
  | .error e =>
    complainAs name ((← quote (args.head?.getD "")) ++ ": " ++ e.reason)
    setStatus (if e = .noEntry then 127 else 126)

/-! ## The environment -/

/-- The words of a text, divided by blanks. -/
def words (s : String) : List String := (s.splitOn " ").filter (· ≠ "")

/-- Replaces an option that holds several arguments by them. -/
def withSplit : List String → List String
  | [] => []
  | a :: rest =>
    if a = "-S" then (rest.take 1).flatMap words ++ rest.drop 1
    else if a.startsWith "-S" then words (String.ofList (a.toList.drop 2)) ++ rest
    else if a.startsWith "--split-string=" then
      words (String.ofList (a.toList.drop 15)) ++ rest
    else if a.startsWith "-" && a ≠ "-" then a :: withSplit rest
    else a :: rest

/-- Sets the variables at the start of arguments. Gives what is left of them. -/
def setEnvironment : List String → Run (List String)
  | [] => return []
  | a :: rest => do
    if a.toList.contains '=' then
      let (name, value?) := splitAssignment a
      changeVariable name fun v => { v with text? := value?, exported := true }
      setEnvironment rest
    else return a :: rest

/-- The options of `env`. -/
def envOptions : Known :=
  ⟨"+iu:0C:v".toList, [("ignore-environment", 'i'), ("unset", 'u'), ("null", '0'), ("chdir", 'C'),
    ("debug", 'v')]⟩

/-- Shows the environment, or starts a program in a changed one. -/
def runEnv : Starter := fun run name args => do
  let split := withSplit args
  match readCall envOptions (split.length + 1) split with
  | .error message => setStatus (← misusedWith 125 name message)
  | .ok c =>
    let bare := c.operands.head? = some "-"
    if c.has 'i' || bare then modify fun p => { p with bindings := [] }
    for key in c.values 'u' do
      modify fun p => { p with bindings := putVariable key none p.bindings }
    match ← setEnvironment (if bare then c.operands.drop 1 else c.operands) with
    | [] =>
      let ending := if c.has '0' then "\x00" else "\n"
      for (key, value) in (← get).environment do say (key ++ "=" ++ value ++ ending)
      setStatus 0
    | program :: rest =>
      if c.has '0' then
        setStatus (← misusedWith 125 name "cannot specify --null (-0) with command")
      else
        let files := (← get).world.files
        match (c.value? 'C').map fun dir => (dir, files.find (pathOf dir)) with
        | some (dir, .error e) =>
          complainAs name ("cannot change directory to " ++ quoted dir ++ ": " ++ e.reason)
          setStatus 125
          return ()
        | some (_, .ok (place, _)) =>
          changeWorld fun w => { w with files := { w.files with cwd := place } }
        | none => pure ()
        become run name (program :: rest)
        if (← get).status = 127 && program.toList.contains ' ' then
          complainAs name "use -[v]S to pass options in shebang lines"

/-- Shows variables of the environment. -/
def printenv : Body :=
  withOptionsOr 2 "+0" [("null", '0')] fun _ c => do
    let environment := (← get).environment
    if c.operands.isEmpty then
      for (key, value) in environment do say (key ++ "=" ++ value ++ "\n")
      return 0
    else
      let mut status := 0
      for key in c.operands do
        match environment.lookup key with
        | some value => say (value ++ "\n")
        | none => status := 1
      return status

/-! ## Other circumstances -/

/-- Runs a program that is less urgent than others. -/
def runNice : Starter := fun run name args => do
  let args := args.map fun a =>
    match a.toList with
    | '-' :: d :: ds => if (d :: ds).all Char.isDigit then "-n" ++ String.ofList (d :: ds) else a
    | _ => a
  match readCall ⟨"+n:".toList, [("adjustment", 'n')]⟩ (args.length + 1) args with
  | .error message => setStatus (← misusedWith 125 name message)
  | .ok c =>
    match c.value? 'n', c.operands with
    | none, [] =>
      say "0\n"
      setStatus 0
    | some _, [] =>
      setStatus (← misusedWith 125 name "a command must be given with an adjustment")
    | n?, program :: rest =>
      let amount := n?.getD "10"
      match Text.signed? amount.toList with
      | none =>
        complainAs name ("invalid adjustment " ++ (← quote amount))
        setStatus 125
      | some n =>
        if n < 0 then complainAs name "cannot set niceness: Permission denied"
        become run name (program :: rest)

/-- Runs a program that a lost connection does not end. -/
def runNohup : Starter := fun run name args => do
  match if args.head? = some "--" then args.drop 1 else args with
  | [] => setStatus (← misusedWith 125 name "missing operand")
  | program :: rest =>
    if program.startsWith "-" then
      let letter := String.ofList ((program.toList.drop 1).take 1)
      setStatus (← misusedWith 125 name ("invalid option -- '" ++ letter ++ "'"))
    else
      modify fun p => { p with traps := (1, "") :: p.traps.filter fun t => t.1 ≠ 1 }
      match (← get).launchOf (program :: rest) with
      | .ok launch => run (.program launch)
      | .error e =>
        complainAs name ("failed to run command " ++ quoted program ++ ": " ++ e.reason)
        setStatus (if e = .noEntry then 127 else 126)

/-- Runs a program for a limited time. -/
def runTimeout : Starter := fun run name args => do
  let known : Known := ⟨"+k:s:vfp".toList, [("kill-after", 'k'), ("signal", 's'), ("verbose", 'v'),
    ("foreground", 'f'), ("preserve-status", 'p')]⟩
  match readCall known (args.length + 1) args with
  | .error message => setStatus (← misusedWith 125 name message)
  | .ok c =>
    match c.operands with
    | time :: program :: rest =>
      match milliseconds? time with
      | none =>
        setStatus (← misusedWith 125 name ("invalid time interval " ++ (← quote time)))
      | some limit =>
        match (← get).launchOf (program :: rest) with
        | .error e =>
          complainAs name ("failed to run command " ++ (← quote program) ++ ": " ++ e.reason)
          setStatus (if e = .noEntry then 127 else 126)
        | .ok launch =>
          let stop := (← get).world.clock + limit
          let ended ← fork do
            modify fun p => { p with
              deadline? := if limit = 0 then p.deadline? else
                some ((p.deadline?.map (min stop)).getD stop) }
            run (.program launch)
          let late := limit ≠ 0 && stop ≤ (← get).world.clock
          match ended with
          | .code n => setStatus n
          | .signal n =>
            let killed := (c.value? 's').any fun s => s ∈ ["9", "KILL", "SIGKILL"]
            if !late then throw (.signal n)
            else setStatus (if killed then 137 else if c.has 'p' then 128 + n else 124)
    | _ =>
      pointToHelp name
      setStatus 125

/-! ## Arguments from the input -/

/-- The words of a text, where quotes and backslashes protect characters. Gives nothing if quotes
do not end. -/
def quotedWords : Nat → List Char → Option (List String)
  | 0, _ => some []
  | fuel + 1, cs =>
    match cs.dropWhile fun c => c = ' ' || c = '\t' || c = '\n' with
    | [] => some []
    | rest => do
      let (word, after) ← scan (rest.length + 1) rest
      let more ← quotedWords fuel after
      some (String.ofList word :: more)
where
  /-- A word at the start of a text, and what follows it. -/
  scan : Nat → List Char → Option (List Char × List Char)
    | 0, cs => some ([], cs)
    | _ + 1, [] => some ([], [])
    | fuel + 1, '\\' :: c :: cs => (scan fuel cs).map fun (w, after) => (c :: w, after)
    | fuel + 1, c :: cs =>
      if c = ' ' || c = '\t' || c = '\n' then some ([], c :: cs)
      else if c = '\'' || c = '"' then
        let inner := cs.takeWhile fun d => d ≠ c && d ≠ '\n'
        match cs.drop inner.length with
        | d :: after =>
          if d = c then (scan fuel after).map fun (w, rest) => (inner ++ w, rest) else none
        | [] => none
      else (scan fuel cs).map fun (w, after) => (c :: w, after)

/-- Lists of a given size of the elements of a list. -/
def inGroups {α : Type} (size : Nat) : Nat → List α → List (List α)
  | 0, _ => []
  | _ + 1, [] => []
  | fuel + 1, xs => xs.take (max 1 size) :: inGroups size fuel (xs.drop (max 1 size))

/-- Runs a program in a process of its own. Gives what its end means for the whole. -/
def runForXargs (run : Runner) (name : String) (args : List String) : Run Nat := do
  match (← get).launchOf args with
  | .error e =>
    complainAs name (args.head?.getD "" ++ ": " ++ e.reason)
    return if e = .noEntry then 127 else 126
  | .ok launch =>
    match ← fork (run (.program launch)) with
    | .code 0 => return 0
    | .code 255 =>
      complainAs name (args.head?.getD "" ++ ": exited with status 255; aborting")
      return 124
    | .code _ => return 123
    | .signal n =>
      complainAs name (args.head?.getD "" ++ ": terminated by signal " ++ Nat.repr n)
      return 125

/-- Runs a program on the words of the input. -/
def runXargs : Starter := fun run name args => do
  let known : Known := ⟨"+n:I:0rtL:d:P:s:a:x".toList, [("null", '0'), ("no-run-if-empty", 'r'),
    ("max-args", 'n'), ("verbose", 't'), ("delimiter", 'd'), ("max-procs", 'P'),
    ("max-lines", 'L'), ("arg-file", 'a')]⟩
  match readCall known (args.length + 1) args with
  | .error message => setStatus (← misusedWith 1 name message)
  | .ok c =>
    let text := ((← match c.value? 'a' with
      | some path => inputText path
      | none => readAll 0).toOption).getD ""
    let lines := linesOf text
    let found? : Option (List String) :=
      if c.has '0' then some ((text.splitOn "\x00").filter (· ≠ ""))
      else if let some d := c.value? 'd' then
        let parts := text.splitOn (unescapedText .standard d).1
        some (if parts.getLast? = some "" then parts.dropLast else parts)
      else if c.has 'I' then
        some ((lines.map fun l => String.ofList (l.toList.dropWhile (· = ' '))).filter (· ≠ ""))
      else if c.has 'L' then some (lines.filter (· ≠ ""))
      else quotedWords (text.length + 1) text.toList
    match found? with
    | none =>
      complainAs name ("unmatched single quote; by default quotes are special to xargs unless "
        ++ "you use the -0 option")
      setStatus 1
    | some items =>
      let base := if c.operands.isEmpty then ["echo"] else c.operands
      let size := ((c.value? 'n').bind fun s => Text.natural? s.toList).getD (items.length + 1)
      let size := ((c.value? 'L').bind fun s => Text.natural? s.toList).getD size
      let calls : List (List String) := match c.value? 'I' with
        | some mark => items.map fun item => base.map fun a => a.replace mark item
        | none =>
          if items.isEmpty && !c.has 'r' then [base]
          else
            (inGroups size (items.length + 1) items).map fun group =>
              base ++ if c.has 'L' then group.flatMap words else group
      let mut status := 0
      for call in calls do
        if c.has 't' then sayError (" ".intercalate call ++ "\n")
        let here ← runForXargs run name call
        status := max status here
        if 124 ≤ here then break
      setStatus status

/-! ## Where programs are -/

/-- Shows where programs are found. -/
def which : Body := fun _ args => do
  let p ← get
  let all := args.contains "-a"
  let names := args.filter (· ≠ "-a")
  let mut status := if names.isEmpty then 1 else 0
  for name in names do
    let isProgram (path : String) : Bool :=
      match p.world.files.find? (pathOf path) with
      | some (_, e) => e.isFile && e.allows .execute
      | none => false
    let paths := if name.toList.contains '/' then [name]
      else Launch.candidates ((p.environment.lookup "PATH").getD "") name
    match paths.filter isProgram with
    | [] => status := 1
    | path :: more => for found in path :: (if all then more else []) do say (found ++ "\n")
  return status

end Looplet.Shell
