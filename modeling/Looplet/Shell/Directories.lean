import Looplet.Shell.Lookup

/-!
# Directories

`cd` goes to a directory and `pwd` shows the one at hand. A shell that knows more than the standard
also keeps a list of directories to go back to.
-/

namespace Looplet.Shell

/-- Goes to a directory. -/
def goTo (place : Place) : Run Unit := do
  let old := Text.encoded (← get).world.files.cwdPath
  modify fun p => { p with
    world := { p.world with files := { p.world.files with cwd := place } },
    tracked := p.tracked.map fun t => { t with stale := true } }
  let new := Text.encoded (← get).world.files.cwdPath
  setVariable "OLDPWD" old
  setVariable "PWD" new
  changeVariable "OLDPWD" fun v => { v with exported := true }
  changeVariable "PWD" fun v => { v with exported := true }

/-- The paths that a directory may mean, and whether to show which it was. -/
def Process.directoryPaths (p : Process) (dir : String) : List (String × Bool) :=
  let first := (dir.splitOn "/").head?.getD ""
  match p.value? "CDPATH" with
  | none => [(dir, false)]
  | some searchPath =>
    if dir.toList.head? = some '/' || first = "." || first = ".." then [(dir, false)]
    else
      let under (d : String) : String × Bool :=
        if d = "" then (dir, false) else (d ++ "/" ++ dir, true)
      (searchPath.splitOn ":").map under ++ [(dir, false)]

/-- Goes to the first of some paths that is a directory. Gives whether there is one. -/
def goToFirst (back : Bool) : List (String × Bool) → Run Bool
  | [] => return false
  | (path, shown) :: rest => do
    match (← get).world.files.find? (pathOf path) with
    | some (place, e) =>
      if e.isDirectory && e.allows .execute then
        goTo place
        if shown || back then say (Text.encoded (← get).world.files.cwdPath ++ "\n")
        return true
      else goToFirst back rest
    | none => goToFirst back rest

/-- Why a path is no directory to go to. -/
def Process.directoryFault (p : Process) (dir : String) : SystemError :=
  match p.world.files.find (pathOf dir) with
  | .error e => e
  | .ok (_, e) => if e.isDirectory then .permissionDenied else .notDirectory

/-- Changes the working directory. -/
def cdBuiltin : BuiltinBody := fun _ args => do
  let p ← get
  let (_, rest) ← options (if p.extended then "LPe@" else "LP") args
  if p.extended then
    if 1 < rest.length then failWithStatus 1 "too many arguments"
    else if rest.isEmpty && (p.value? "HOME").isNone then failWithStatus 1 "HOME not set"
    else if rest = ["-"] && (p.value? "OLDPWD").isNone then failWithStatus 1 "OLDPWD not set"
  let (dir, back) := match rest with
    | [] => ((p.value? "HOME").getD "", false)
    | "-" :: _ => ((p.value? "OLDPWD").getD "", true)
    | d :: _ => (d, false)
  let paths := if dir = "" then [(".", false)] else p.directoryPaths dir
  if ← goToFirst back paths then return 0
  else if p.extended then failWithStatus 1 (dir ++ ": " ++ (p.directoryFault dir).reason)
  else fatal ("can't cd to " ++ dir)

/-- Shows the working directory. -/
def pwdBuiltin : BuiltinBody := fun _ args => do
  let _ ← options "LP" args
  say (Text.encoded (← get).world.files.cwdPath ++ "\n")
  return 0

/-! ## The list of directories -/

/-- The working directory and those to go back to. -/
def Process.directories (p : Process) : List String :=
  Text.encoded p.world.files.cwdPath :: p.extras.directories

/-- A directory with a tilde for the home directory. -/
def Process.shortDirectory (p : Process) (dir : String) : String :=
  match p.value? "HOME" with
  | some home =>
    if home = "" || home = "/" then dir
    else if dir = home then "~"
    else if (home ++ "/").toList.isPrefixOf dir.toList then
      "~" ++ String.ofList (dir.toList.drop home.length)
    else dir
  | none => dir

/-- Shows the list of directories. -/
def showDirectories : Run Unit := do
  let p ← get
  say (" ".intercalate (p.directories.map p.shortDirectory) ++ "\n")

/-- Goes to the first directory of a list and keeps the others. -/
def useDirectories : List String → Run Unit
  | [] => return ()
  | dir :: rest => do
    if ← goToFirst false [(dir, false)] then
      modify fun p => { p with extras := { p.extras with directories := rest } }
    else failWithStatus 1 (dir ++ ": " ++ ((← get).directoryFault dir).reason)

/-- The place in the list of directories that an argument such as `+1` names. -/
def placeInList? (size : Nat) (s : String) : Option (Option Nat) :=
  let number? := Text.natural? (s.toList.drop 1)
  match s.toList.head?, number? with
  | some '+', some n => some (if n < size then some n else none)
  | some '-', some n => some (if n < size then some (size - 1 - n) else none)
  | _, _ => none

/-- Says that there is no such place in the list of directories. -/
def noSuchPlace {α : Type} (s : String) : Run α := do
  if (← get).extras.directories.isEmpty then failWithStatus 1 "directory stack empty"
  else failWithStatus 1 (s ++ ": directory stack index out of range")

/-- Whether an argument looks like an option that is none. -/
def isBadPlace (s : String) : Bool :=
  (s.startsWith "-" && s ≠ "-") && (Text.natural? (s.toList.drop 1)).isNone

/-- Goes to a directory, and keeps the one at hand to go back to. -/
def pushdBuiltin : BuiltinBody := fun _ args => do
  let stays := args.contains "-n"
  let rest := args.filter fun a => a ≠ "-n" && a ≠ "--"
  let p ← get
  let all := p.directories
  match rest with
  | [] =>
    match all with
    | first :: second :: more => useDirectories (second :: first :: more)
    | _ => failWithStatus 1 "no other directory"
  | [s] =>
    if isBadPlace s then misused (s ++ ": invalid number")
    match placeInList? all.length s with
    | some (some n) => useDirectories (all.drop n ++ all.take n)
    | some none => noSuchPlace s
    | none =>
      if stays then
        modify fun q => { q with extras := { q.extras with
          directories := s :: q.extras.directories } }
      else
        let dir := if s = "-" then (p.value? "OLDPWD").getD "" else s
        if ← goToFirst false (p.directoryPaths dir) then
          modify fun q => { q with extras := { q.extras with directories := all } }
        else failWithStatus 1 (s ++ ": " ++ (p.directoryFault dir).reason)
  | _ => failWithStatus 1 "too many arguments"
  showDirectories
  return 0

/-- Goes back to a directory, or takes one out of the list. -/
def popdBuiltin : BuiltinBody := fun _ args => do
  let stays := args.contains "-n"
  let rest := args.filter fun a => a ≠ "-n" && a ≠ "--"
  let all := (← get).directories
  let keep (dirs : List String) : Run Unit :=
    modify fun q => { q with extras := { q.extras with directories := dirs } }
  match rest with
  | [] =>
    match all with
    | _ :: second :: more => if stays then keep more else useDirectories (second :: more)
    | _ => failWithStatus 1 "directory stack empty"
  | s :: _ =>
    if isBadPlace s then misused (s ++ ": invalid number")
    match placeInList? all.length s with
    | some (some 0) =>
      if all.length < 2 then failWithStatus 1 "directory stack empty"
      else useDirectories (all.drop 1)
    | some (some n) => keep ((all.eraseIdx n).drop 1)
    | some none => noSuchPlace s
    | none => misused (s ++ ": invalid argument")
  showDirectories
  return 0

/-- Shows the list of directories. -/
def dirsBuiltin : BuiltinBody := fun _ args => do
  let p ← get
  let isPlace (a : String) : Bool := (placeInList? 0 a).isSome
  let places := args.filter isPlace
  let (opts, _) ← do
    let areFlags (cs : List Char) : Bool := cs.all fun c => c ∈ "clpv".toList
    match args.find? fun a => isBadPlace a && !areFlags (a.toList.drop 1) with
    | some a => misused (a ++ ": invalid number")
    | none => options "clpv" (args.filter fun a => !isPlace a)
  let has (c : Char) : Bool := opts.any fun o => o.1 = c
  let shown := if has 'l' then p.directories else p.directories.map p.shortDirectory
  if has 'c' then modify fun q => { q with extras := { q.extras with directories := [] } }
  else
    match places with
    | s :: _ =>
      match placeInList? shown.length s with
      | some (some n) => say ((shown[n]?.getD "") ++ "\n")
      | _ => noSuchPlace s
    | [] =>
      if has 'v' then
        say (String.join (shown.zipIdx.map fun (d, i) =>
          String.ofList (List.replicate (2 - (Nat.repr i).length) ' ') ++ Nat.repr i ++ "  " ++ d
            ++ "\n"))
      else if has 'p' then say (String.join (shown.map (· ++ "\n")))
      else say (" ".intercalate shown ++ "\n")
  return 0

end Looplet.Shell
