import Looplet.Shell.Grammar
import Looplet.Shell.Intake

/-!
# Finding commands

The first word of a command may be a function, a command of the shell, or a file on the search path.
A shell keeps in mind where it has found a program, and does not look for it again before the search
path changes. A shell of the standard keeps the place on the search path, and looks again when it
has changed its directory; a shell that knows more keeps the path.
-/

namespace Looplet.Shell

/-- The commands of the shell that can be run like any other. -/
def regularBuiltins : List String :=
  ["[", "alias", "bg", "cd", "chdir", "command", "echo", "false", "fg", "getopts", "hash", "jobs",
    "kill", "printf", "pwd", "read", "test", "true", "type", "ulimit", "umask", "unalias", "wait"]

/-- The commands of a shell that knows more than the standard. -/
def richBuiltins : List String :=
  [".", ":", "[", "alias", "bg", "bind", "break", "builtin", "caller", "cd", "command", "compgen",
    "complete", "compopt", "continue", "declare", "dirs", "disown", "echo", "enable", "eval",
    "exec", "exit", "export", "false", "fc", "fg", "getopts", "hash", "help", "history", "jobs",
    "kill", "let", "local", "logout", "mapfile", "popd", "printf", "pushd", "pwd", "read",
    "readarray", "readonly", "return", "set", "shift", "shopt", "source", "suspend", "test",
    "times", "trap", "true", "type", "typeset", "ulimit", "umask", "unalias", "unset", "wait"]

/-- What a name stands for as the first word of a command. -/
inductive Found where
  | function (function : Function)
  | builtin
  | file (path : String)
  | missing (reason : SystemError)

/-- Where the first word of a command is looked for. -/
structure Scope where
  functions : Bool := true
  files : Bool := true
  /-- Whether programs are looked for where the standard ones are. -/
  standardPath : Bool := false
  /-- Whether the search path is only that of the command at hand. -/
  ownPath : Bool := false
  deriving DecidableEq

/-- Where programs are looked for if nothing is said. -/
def defaultPath : String := "/usr/local/sbin:/usr/local/bin:/usr/sbin:/usr/bin:/sbin:/bin"

/-! ## Search paths -/

/-- The first place of a file that may be executed among paths, the first of which has a given
place. A place is known if it was found before: then nothing that is found from the root needs to be
looked at up to there. -/
def firstProgram (fs : FileSystem) (known? : Option Nat) (place : Nat) (failure : SystemError) :
    List String → Except SystemError Nat
  | [] => .error failure
  | path :: rest =>
    if path.startsWith "/" && known?.any (place ≤ ·) then
      if known? = some place then .ok place else firstProgram fs known? (place + 1) failure rest
    else
      match fs.find (pathOf path) with
      | .ok (_, e) =>
        if e.isFile && e.allows .execute then .ok place
        else firstProgram fs known? (place + 1) .permissionDenied rest
      | .error e =>
        firstProgram fs known? (place + 1)
          (if e = .noEntry || e = .notDirectory then failure else e) rest

namespace Process

/-- Whether a name is that of a command of the shell. -/
def isBuiltin (p : Process) (name : String) : Bool :=
  if p.extended then name ∈ richBuiltins else name ∈ specialBuiltins || name ∈ regularBuiltins

/-- Whether a name is a reserved word. -/
def isReserved (p : Process) (name : String) : Bool :=
  name ∈ reservedWords
    || (p.extended && (name ∈ extraReservedWords || name = "]]" || name = "coproc"))

/-- The search path of a command, if there is one. -/
def searchPath? (p : Process) (standard : Bool) : Option String :=
  if !standard then p.value? "PATH" else if p.extended then some "/bin:/usr/bin"
  else some defaultPath

/-- The paths that a program may have. -/
def candidates (p : Process) (searchPath name : String) : List String :=
  if p.extended then
    (Launch.candidates searchPath name).map fun q => if q = name then "./" ++ q else q
  else (searchPath.splitOn ":").map fun dir => if dir = "" then name else dir ++ "/" ++ name

/-- The path at a place of the search path. -/
def pathAt (p : Process) (name : String) (place : Nat) : String :=
  (p.candidates ((p.value? "PATH").getD "") name)[place]?.getD name

/-- The file that a name stands for on a search path. A shell that knows more than the standard
takes the first file that is there if none may be executed. -/
def programPath (p : Process) (searchPath? : Option String) (name : String) :
    Except SystemError String :=
  match searchPath? with
  | none => .error .noEntry
  | some searchPath =>
    if name.toList.contains '/' then .ok name
    else if p.extended && name = "" then .error .noEntry
    else
      let paths := p.candidates searchPath name
      let isFile (path : String) : Bool :=
        match p.world.files.find? (pathOf path) with
        | some (_, e) => e.isFile
        | none => false
      match firstProgram p.world.files none 0 .noEntry paths with
      | .ok place => .ok (paths[place]?.getD name)
      | .error e =>
        match if p.extended then paths.find? isFile else none with
        | some path => .ok path
        | none => .error e

/-- Whether a path leads to a file that may be executed. -/
def isProgram (p : Process) (path : String) : Bool :=
  match p.world.files.find? (pathOf path) with
  | some (_, e) => e.isFile && e.allows .execute
  | none => false

/-- The path that was kept for a program. One that does not start at the root is looked for from
the directory at hand. -/
def hashedPath? (p : Process) (name : String) : Option String :=
  (p.extras.hashed.find? fun h => h.name = name).map fun h =>
    let here := if h.path.startsWith "./" then h.path else "./" ++ h.path
    if !h.path.startsWith "/" && p.isProgram here then here else h.path

end Process

/-! ## What is kept in mind -/

/-- Keeps the place of a program in mind. -/
def trackProgram (name : String) (place : Nat) : Run Unit :=
  modify fun p =>
    let fresh : Tracked := ⟨name, place, false⟩
    { p with tracked :=
        if p.tracked.any fun t => t.name = name then
          p.tracked.map fun t => if t.name = name then fresh else t
        else p.tracked ++ [fresh] }

/-- Forgets the place of a program. -/
def untrackProgram (name : String) : Run Unit :=
  modify fun p => { p with tracked := p.tracked.filter fun t => t.name ≠ name }

/-- Forgets the path of a program. -/
def dropHashed (name : String) : Run Unit :=
  modify fun p => { p with extras := { p.extras with
    hashed := p.extras.hashed.filter fun h => h.name ≠ name } }

/-- Keeps the path of a program in mind. -/
def hashProgram (name path : String) (hits : Nat) : Run Unit := do
  dropHashed name
  modify fun p => { p with extras := { p.extras with
    hashed := ⟨name, path, hits⟩ :: p.extras.hashed } }

/-- Looks up the path that was kept for a program. -/
def recallHashed? (name : String) : Run (Option String) := do
  let p ← get
  let counted (h : Hashed) : Hashed := if h.name = name then { h with hits := h.hits + 1 } else h
  set { p with extras := { p.extras with hashed := p.extras.hashed.map counted } }
  return p.hashedPath? name

/-! ## Looking -/

/-- Looks for a program in a shell of the standard. Its place is not kept if a function has its
name. -/
def findTracked (standardPath : Bool) (name : String) : Run Found := do
  let p ← get
  if standardPath || (p.functions.lookup name).isSome then
    match p.programPath (p.searchPath? standardPath) name with
    | .ok path => return .file path
    | .error e => return .missing e
  else
    let known? := p.tracked.find? fun t => t.name = name
    match known?, known?.any Tracked.stale with
    | some t, false => return .file (p.pathAt name t.place)
    | _, _ =>
      let paths := match p.value? "PATH" with
        | some searchPath => p.candidates searchPath name
        | none => []
      match firstProgram p.world.files (known?.map Tracked.place) 0 .noEntry paths with
      | .ok place =>
        trackProgram name place
        return .file (p.pathAt name place)
      | .error e =>
        untrackProgram name
        return .missing e

/-- Looks for a program in a shell that knows more than the standard. -/
def findHashed (scope : Scope) (name : String) : Run Found := do
  let known? ← if scope.standardPath || scope.ownPath then pure none else recallHashed? name
  let p ← get
  match known? with
  | some path => return .file path
  | none =>
    match p.programPath (p.searchPath? scope.standardPath) name with
    | .ok path =>
      if 'h' ∈ p.options && !scope.ownPath then hashProgram name path 1
      return .file path
    | .error e => return .missing e

/-- Finds what a name stands for. -/
def findCommand (scope : Scope) (name : String) : Run Found := do
  let p ← get
  if !p.extended && name ∈ specialBuiltins then return .builtin
  else
    match if scope.functions then p.functions.lookup name else none with
    | some f => return .function f
    | none =>
      if p.isBuiltin name then return .builtin
      else if name.toList.contains '/' then return .file name
      else if p.extended then findHashed scope name
      else findTracked scope.standardPath name

/-- Why a command cannot be run, in the words of the shell. -/
def runReason (e : SystemError) : String :=
  if e = .noEntry || e = .notDirectory then "not found" else e.reason

/-- The status of a command that cannot be run. -/
def runStatus (e : SystemError) : Nat :=
  if e ∈ [.noEntry, .notDirectory, .nameTooLong, .tooManyLinks] then 127 else 126

end Looplet.Shell
