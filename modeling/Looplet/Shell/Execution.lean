import Looplet.Shell.Builtins
import Looplet.Shell.Redirection

/-!
# Running files

A file is run in a process of its own, or the shell becomes it (`exec`). A file that is neither a
program nor names an interpreter is read by a shell. What is said when a file cannot be run depends
on the shell.
-/

namespace Looplet.Shell

/-- Takes note of how a process ended. If nothing is left to do, this one ends in the same way. -/
def finishChild (last : Bool) (ended : ExitStatus) : Run Unit := do
  let p ← get
  if p.deadline?.any (· ≤ p.world.clock) then throw (.signal 15)
  match ended with
  | .signal n => if last && p.traps.isEmpty then throw (.signal n)
  | .code _ => pure ()
  reportEnd ended
  setStatus (statusOf ended)

/-- Starts the file at a path. A file that is not a program is read by a shell. -/
def startFile (fs : FileSystem) (path : String) (args : List String) : Except SystemError Launch :=
  match Launch.ofPath fs path args with
  | .error .badFormat => Launch.ofPath fs "/bin/sh" ("/bin/sh" :: path :: args.drop 1)
  | r => r

/-- Starts the first file that can be started. Of the errors, one that says more than that the
file is missing counts. -/
def startFirst (fs : FileSystem) (args : List String) (failure : SystemError) :
    List String → Except SystemError Launch
  | [] => .error failure
  | path :: rest =>
    match startFile fs path args with
    | .ok l => .ok l
    | .error e => startFirst fs args (if e = .noEntry || e = .notDirectory then failure else e) rest

/-- Whether a file holds something else than text: its first line has a character that is none. -/
def isBinary (bytes : ByteArray) : Bool :=
  let start := (bytes.extract 0 80).toList
  start.take 4 = [0x7f, 0x45, 0x4c, 0x46] || (start.takeWhile (· ≠ 10)).contains 0

/-- Starts the file at a path for a shell that knows more than the standard, which reads a file
itself that is not a program. -/
def startRichly (fs : FileSystem) (path : String) (args : List String) :
    Except SystemError Launch :=
  match Launch.ofPath fs path args, fs.read (pathOf path) with
  | .error .badFormat, .ok bytes =>
    if isBinary bytes then .error .badFormat
    else Launch.ofPath fs "/bin/bash" ("/bin/bash" :: path :: args.drop 1)
  | r, _ => r

/-- What is started when a name stands for the file at a path. -/
def Process.start (p : Process) (standardPath : Bool) (path : String) (args : List String) :
    Except SystemError Launch :=
  let name := args.head?.getD ""
  if p.extended then startRichly p.world.files path args
  else if name.toList.contains '/' then startFile p.world.files path args
  else
    let paths := p.candidates ((p.searchPath? standardPath).getD "") name
    startFirst p.world.files args .noEntry (paths.dropWhile (· ≠ path))

/-- The interpreter that a file names, if the file itself could be run. -/
def Process.interpreterOf? (p : Process) (path : String) : Option String :=
  match Launch.fileAt p.world.files path with
  | .ok bytes => (Launch.interpreter? bytes).map Prod.fst
  | .error _ => none

/-- Whether a path leads to a directory. -/
def Process.isDirectory (p : Process) (path : String) : Bool :=
  match p.world.files.find? (pathOf path) with
  | some (_, e) => e.isDirectory
  | none => false

/-- Says that the file at a path cannot be run, in the words of a shell that knows more than the
standard. -/
def complainFile (path : String) (e : SystemError) : Run Unit := do
  let p ← get
  match p.interpreterOf? path with
  | some interpreter =>
    if e = .noEntry || e = .notDirectory then
      complain (path ++ ": cannot execute: required file not found")
      setStatus 127
    else
      sayError (p.source ++ ": " ++ path ++ ": " ++ interpreter ++ ": bad interpreter: " ++ e.reason
        ++ "\n")
      setStatus 126
  | none =>
    let e := if e = .permissionDenied && p.isDirectory path then .isDirectory else e
    complain (path ++ ": " ++ (if e = .badFormat then "cannot execute binary file: " else "")
      ++ e.reason)
    setStatus (if e = .noEntry then 127 else 126)

/-- Says that a command cannot be run. -/
def complainRun (name : String) (e : SystemError) : Run Unit := do
  let p ← get
  if p.extended then
    if name.toList.contains '/' then complainFile name e
    else
      complain (name ++ (if p.builtin?.isSome then ": not found" else ": command not found"))
      setStatus 127
  else
    complain (name ++ ": " ++ runReason e)
    setStatus (runStatus e)

/-- Runs a computation in a process of its own, with the files that `opened` opens. -/
def runApart (run : Runner) (opened : Run Unit → Run Unit) (last : Bool) (body : Run Unit) :
    Run Unit := do
  let ended ← fork (withChannels run false (opened body))
  finishChild last ended

/-- Runs a file in a process of its own, with the files that `opened` opens. -/
def runFile (run : Runner) (opened : Run Unit → Run Unit) (standardPath : Bool) (path : String)
    (args : List String) (last : Bool) : Run Unit := do
  let p ← get
  runApart run opened last do
    match p.start standardPath path args with
    | .ok launch =>
      if p.extended then
        changeVariable "_" fun v => { v with text? := some path, exported := true }
      run (.program launch)
    | .error e => if p.extended then complainFile path e else complainRun (args.head?.getD "") e

/-- What `exec` is told before the name of a program: another name for it, and whether it sees no
variables. -/
def execOptions (args : List String) : Run (Option String × Bool × List String) := do
  if (← get).extended then
    let (opts, rest) ← options "cla:" args
    return (opts.reverse.lookup 'a', opts.any fun o => o.1 = 'c', rest)
  else return (none, false, args)

/-- Becomes another program, if there is one of the name. -/
def replaceProcess (run : Runner) (args : List String) : Run Unit := do
  let (name?, bare, args) ← execOptions args
  let p ← get
  match args with
  | [] => setStatus 0
  | name :: rest =>
    let found := if name.toList.contains '/' then .ok name
      else p.programPath (p.value? "PATH") name
    let launch := match found with
      | .ok path => p.start false path (name :: rest)
      | .error e => .error e
    match launch with
    | .ok l =>
      modify fun q => { q with
        bindings := if bare then [] else q.bindings,
        traps := q.traps.filter fun t => t.2 = "" && t.1 ≠ 0 }
      run (.program { l with args := match name? with
        | some shown => shown :: l.args.drop 1
        | none => l.args })
    | .error e =>
      match if p.extended then found else .error e with
      | .ok path =>
        let reason := if p.isDirectory path then SystemError.isDirectory.reason else e.reason
        if p.isDirectory path then
          sayError ({ p with builtin? := none }.heading ++ path ++ ": " ++ reason ++ "\n")
        complain (path ++ ": cannot execute: " ++ reason)
        setStatus (if e = .noEntry then 127 else 126)
      | .error _ => complainRun name e
    throw .finish

end Looplet.Shell
