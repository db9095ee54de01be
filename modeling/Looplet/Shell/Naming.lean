import Looplet.Shell.Lookup

/-!
# What names stand for

`type`, `command` and `hash` tell what a name stands for, and where programs were found.
-/

namespace Looplet.Shell

/-! ## In a shell of the standard -/

/-- Says what a name stands for, at length or just enough to run it. A program whose place is kept
in mind is called a tracked alias. -/
def describeName (long standardPath : Bool) (name : String) : Run Nat := do
  let p ← get
  let found (what short : String) : Run Nat := do
    say ((if long then name ++ " is " ++ what else short) ++ "\n")
    return 0
  let missing : Run Nat := do
    if long then say (name ++ ": not found\n")
    return 127
  let tracked? := if standardPath then none else p.tracked.find? fun t => t.name = name
  if name ∈ reservedWords then found "a shell keyword" name
  else if let some value := p.aliases.lookup name then
    found ("an alias for " ++ value) ("alias " ++ name ++ "=" ++ requoted value)
  else if let some t := tracked? then
    let path := p.pathAt name t.place
    found ("a tracked alias for " ++ path) path
  else
    match ← findCommand { standardPath := standardPath } name with
    | .function _ => found "a shell function" name
    | .builtin =>
      found (if name ∈ specialBuiltins then "a special shell builtin" else "a shell builtin") name
    | .file path =>
      if path ≠ name || (p.world.files.find? (pathOf path)).isSome then found path path
      else missing
    | .missing _ => missing

/-- Says what names stand for. -/
def typeBuiltin : BuiltinBody := fun _ args => do
  let mut status := 0
  for name in args do
    let s ← describeName true false name
    status := status ||| s
  return status

/-- Says what a name stands for, as an option of `command`. -/
def describeCommand (long standardPath : Bool) : List String → Run Nat
  | [] => return 0
  | name :: _ => describeName long standardPath name

/-- The bucket of a name in the table of what was found. -/
def trackedBucket (name : String) : Nat :=
  let first := (name.toList.head?.map Char.toNat).getD 0
  name.toList.foldl (fun n c => n + c.toNat) (16 * first) % 32768 % 31

/-- Shows where programs were found, or looks for them ahead of time. -/
def hashBuiltin : BuiltinBody := fun _ args => do
  let (opts, names) ← options "r" args
  if !opts.isEmpty then
    forgetPrograms
    return 0
  else if names.isEmpty then
    let p ← get
    let ordered := p.tracked.mergeSort fun t u => trackedBucket t.name ≤ trackedBucket u.name
    say (String.join (ordered.map fun t =>
      p.pathAt t.name t.place ++ (if t.stale then "*" else "") ++ "\n"))
    return 0
  else
    let mut status := 0
    for name in names do
      untrackProgram name
      match ← findCommand {} name with
      | .missing e =>
        complain (name ++ ": " ++ runReason e)
        status := 1
      | _ => pure ()
    return status

/-! ## In a shell that knows more -/

/-- One of the things that a name stands for. -/
inductive Meaning where
  | aliased (value : String)
  | keyword
  | function (function : Function)
  | builtin
  | hashed (path : String)
  | file (path : String)

namespace Meaning

/-- The word for a kind of meaning. -/
def kind : Meaning → String
  | aliased _ => "alias"
  | keyword => "keyword"
  | function _ => "function"
  | builtin => "builtin"
  | _ => "file"

/-- A meaning at length. -/
def long (name : String) : Meaning → String
  | aliased value => name ++ " is aliased to \x60" ++ value ++ "'"
  | keyword => name ++ " is a shell keyword"
  | function f => name ++ " is a function\n" ++ definitionText name f.body
  | builtin => name ++ " is a shell builtin"
  | hashed path => name ++ " is hashed (" ++ path ++ ")"
  | file path => name ++ " is " ++ path

/-- A meaning just enough to run it. -/
def short (name : String) : Meaning → String
  | aliased value => "alias " ++ name ++ "=" ++ Quoting.single value
  | hashed path => path
  | file path => path
  | _ => name

/-- The path of a file. -/
def path? : Meaning → Option String
  | hashed path => some path
  | file path => some path
  | _ => none

end Meaning

/-- What is asked about a name. -/
structure Question where
  /-- Whether all meanings are asked for. -/
  all : Bool := false
  functions : Bool := true
  /-- Whether only files count. -/
  filesOnly : Bool := false
  standardPath : Bool := false

/-- The files that a name stands for. -/
def Process.filesFor (p : Process) (q : Question) (name : String) : List String :=
  if q.all then (Launch.candidates ((p.value? "PATH").getD "") name).filter p.isProgram
  else
    match p.programPath (p.searchPath? q.standardPath) name with
    | .ok path => if path = name && !p.isProgram path then [] else [path]
    | .error _ => []

/-- What a name stands for, in the order in which it counts: all of it, or the first. -/
def meanings (q : Question) (name : String) : Run (List Meaning) := do
  let p ← get
  let aliases := if p.hasToggle "expand_aliases" then
      (p.aliases.lookup name).toList.map Meaning.aliased
    else []
  let inside := aliases ++ (if p.isReserved name then [.keyword] else [])
    ++ (if q.functions then (p.functions.lookup name).toList.map .function else [])
    ++ (if p.isBuiltin name then [.builtin] else [])
  let inside := if q.filesOnly then [] else inside
  if !q.all && !inside.isEmpty then return inside.take 1
  else if name.toList.contains '/' then
    return inside ++ ([name].filter p.isProgram).map .file
  else
    let known? ← if q.all && !q.filesOnly then pure none else recallHashed? name
    match known? with
    | some path => return inside ++ [.hashed path]
    | none => return inside ++ (p.filesFor q name).map .file

/-- Options of `type` that are written as words. -/
def typeOption (a : String) : String :=
  if a ∈ ["-type", "--type"] then "-t" else if a ∈ ["-path", "--path"] then "-p"
  else if a ∈ ["-all", "--all"] then "-a" else a

/-- How `type` shows a meaning. -/
inductive Depiction where
  | long
  | kind
  | path
  deriving DecidableEq

/-- Says what names stand for. -/
def richTypeBuiltin : BuiltinBody := fun _ args => do
  let flags := args.takeWhile (·.startsWith "-")
  let (opts, names) ← options "afptP" (flags.map typeOption ++ args.drop flags.length)
  let has (c : Char) : Bool := opts.any fun o => o.1 = c
  let depiction : Depiction := opts.foldl (fun d o =>
    if o.1 = 't' then .kind else if o.1 = 'p' || o.1 = 'P' then .path else d) .long
  let q : Question := { all := has 'a', functions := !has 'f', filesOnly := has 'P' }
  let mut status := 0
  for name in names do
    let all ← meanings q name
    if all.isEmpty then
      if depiction = .long then complain (name ++ ": not found")
      status := 1
    for m in all do
      match depiction with
      | .kind => say (m.kind ++ "\n")
      | .path => say (String.join (m.path?.toList.map (· ++ "\n")))
      | .long => say (m.long name ++ "\n")
  return status

/-- What `command` says about names. -/
def describeRichly (long standardPath : Bool) (names : List String) : Run Nat := do
  let mut found := false
  for name in names do
    match (← meanings { standardPath := standardPath } name).head? with
    | some m =>
      found := true
      say ((if long then m.long name else m.short name) ++ "\n")
    | none => if long then complain (name ++ ": not found")
  return if found then 0 else 1

/-- How many buckets the table of paths has. -/
def hashedBuckets : Nat := 256

/-- The programs that were found, in the order of their table. -/
def Process.orderedHashed (p : Process) : List Hashed :=
  let bucket (h : Hashed) : Nat := Table.hashOf h.name % hashedBuckets
  p.extras.hashed.mergeSort fun h k => bucket h ≤ bucket k

/-- A command that keeps a path in mind again. -/
def hashCommand (path name : String) : String := "builtin hash -p " ++ path ++ " " ++ name ++ "\n"

/-- Shows all paths that are kept in mind. -/
def showHashed (asCommands : Bool) : Run Unit := do
  let hashed := (← get).orderedHashed
  let padded (n : Nat) : String :=
    String.ofList (List.replicate (4 - (Nat.repr n).length) ' ') ++ Nat.repr n
  if asCommands then say (String.join (hashed.map fun h => hashCommand h.path h.name))
  else if hashed.isEmpty then say "hash: hash table empty\n"
  else say ("hits\tcommand\n" ++ String.join (hashed.map fun h =>
    padded h.hits ++ "\t" ++ h.path ++ "\n"))

/-- Shows the paths that are kept for some names. Gives the status. -/
def showHashedFor (asCommands : Bool) (names : List String) : Run Nat := do
  let mut status := 0
  for name in names do
    match ← recallHashed? name with
    | some path =>
      if asCommands then say (hashCommand path name)
      else say ((if 1 < names.length then name ++ "\t" else "") ++ path ++ "\n")
    | none =>
      complain (name ++ ": not found")
      status := 1
  return status

/-- Looks for a program ahead of time. Gives whether there is one, or something else that the name
stands for. -/
def hashAhead (name : String) : Run Bool := do
  let p ← get
  if p.isBuiltin name || (p.functions.lookup name).isSome then return true
  else
    dropHashed name
    match p.programPath (p.value? "PATH") name with
    | .ok path =>
      if p.isProgram path then hashProgram name path 0
      return p.isProgram path
    | .error _ => return false

/-- Shows or changes where programs were found. -/
def richHashBuiltin : BuiltinBody := fun _ args => do
  let (opts, names) ← options "lrp:dt" args
  let has (c : Char) : Bool := opts.any fun o => o.1 = c
  if names.isEmpty && !has 'r' then
    if has 't' then failWithStatus 1 "-t: option requires an argument"
    else if has 'd' then failWithStatus 1 "-d: option requires an argument"
    showHashed (has 'l')
    return 0
  else
    if has 'r' then forgetPrograms
    if has 't' then showHashedFor (has 'l') names
    else
      let mut status := 0
      for name in names.filter fun name => !name.toList.contains '/' do
        let p ← get
        match opts.reverse.lookup 'p' with
        | some path =>
          if (p.world.files.find? (pathOf path)).any fun e => e.2.isDirectory then
            complain (path ++ ": Is a directory")
            status := 1
          else hashProgram name path 0
        | none =>
          let isThere := (p.extras.hashed.find? fun h => h.name = name).isSome
          let done ← if has 'd' then pure isThere else hashAhead name
          if has 'd' then dropHashed name
          if !done then
            complain (name ++ ": not found")
            status := 1
      return status

end Looplet.Shell
