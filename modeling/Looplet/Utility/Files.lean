import Looplet.Utility.Basic

/-!
# Programs on files

Programs that make, copy, move and remove files, and that change who may use them.
-/

namespace Looplet.Utility

open Shell

/-- Asks whether to do something, if that is to be asked. Only a line that starts with a `y` is a
yes. -/
def agreed (asks : Bool) (name question : String) : Run Bool := do
  if !asks then return true
  sayError (name ++ ": " ++ question ++ "? ")
  match ← readLineFrom 0 with
  | .ok answer => return answer.toList.head? ∈ [some 'y', some 'Y']
  | .error _ => return false

/-! ## Copies -/

/-- Opens a target, in place of a file that cannot be opened if that is allowed. -/
def makeTarget (target : String) (mode : Nat) (bytes : ByteArray) (force : Bool) (w : World) :
    Except SystemError World := do
  let fill (w : World) : Except SystemError World := do
    let (place, made, w) ← w.openOutput (pathOf target) mode true
    if made.isFile then return w.put place (made.refilled bytes)
    else return { w with files := ← w.files.overwrite place made bytes }
  match fill w with
  | .ok w => .ok w
  | .error err =>
    match if force then w.files.find? (pathOf target) else none with
    | some (place, _) => fill (w.remove place)
    | none => .error err

/-- Writes a copy of a file to a path. A file that is made gets the mode of the copied one. -/
def copyTo (name source target : String) (e : Entry) (c : Call) : Run Nat := do
  let p ← get
  if !e.allows .read then
    refused name ("cannot open " ++ quoted source ++ " for reading: "
      ++ SystemError.permissionDenied.reason)
  else
    match makeTarget target (e.mode &&& (0o777 ^^^ p.umask)) e.bytes (c.has 'f') p.world with
    | .error err =>
      let err := if err = .isDirectory && FileSystem.endsInSlash target then .notDirectory else err
      refused name ("cannot create regular file " ++ quoted target ++ ": " ++ err.reason)
    | .ok w =>
      changeWorld fun _ => w
      if c.has 'p' || c.has 'a' then
        match w.files.find? (pathOf target) with
        | some (place, made) => changeWorld fun w => w.put place { made with mode := e.mode }
        | none => pure ()
      if c.has 'v' then say (quoted source ++ " -> " ++ quoted target ++ "\n")
      return 0

/-- Where a copy of a file goes: a directory takes it under its own name. -/
def destination (c : Call) (target source : String) : Run String := do
  if c.has 'T' then return target
  else
    match ← lookAt target with
    | .ok (_, e) => return if e.isDirectory then inside target (lastPart source) else target
    | .error _ => return target

/-- Copies what is at a path to another one, with what is in a directory up to a depth. -/
def copyTree (name : String) (c : Call) : Nat → String → String → Run Nat
  | 0, _, _ => return 1
  | fuel + 1, source, target => do
    let follows := !(c.has 'a' || c.has 'd' || c.has 'P')
    match ← (if follows then lookAt source else lookAtLink source) with
    | .error err => refused name ("cannot stat " ++ quoted source ++ ": " ++ err.reason)
    | .ok (place, e) =>
      let there := ← lookAt target
      if let .error err := there then
        if err ≠ .noEntry then
          return ← refused name ("cannot stat " ++ quoted target ++ ": " ++ err.reason)
      let there? := there.toOption
      if e.isDirectory then
        if !(c.has 'r' || c.has 'R' || c.has 'a') then
          refused name ((if c.has 'x' then "" else "-r not specified; ") ++ "omitting directory "
            ++ quoted source)
        else
          match there? with
          | some (_, other) =>
            if !other.isDirectory then
              return ← refused name ("cannot overwrite non-directory " ++ quoted target
                ++ " with directory " ++ quoted source)
          | none =>
            match (← get).world.files.locate (pathOf target) with
            | .ok (.free q) =>
              if place.isPrefixOf q then
                return ← refused name ("cannot copy a directory, " ++ quoted source
                  ++ ", into itself, " ++ quoted target)
              changeWorld fun w => w.put q ⟨.directory, e.mode, true⟩
              if c.has 'v' then say (quoted source ++ " -> " ++ quoted target ++ "\n")
            | .ok _ => pure ()
            | .error err =>
              return ← refused name ("cannot create directory " ++ quoted target ++ ": "
                ++ err.reason)
          let mut status := 0
          for n in sorted (((← get).world.files.names place).map Text.encoded) do
            let s ← copyTree name c fuel (inside source n) (inside target n)
            status := max status s
          return status
      else
        match there? with
        | some (other, old) =>
          if c.has 'l' || c.has 's' then
            refused name ("cannot create " ++ (if c.has 's' then "symbolic" else "hard") ++ " link "
              ++ quoted target ++ " to " ++ quoted source ++ ": "
              ++ SystemError.alreadyExists.reason)
          else if (← get).world.sameFile place other then
            refused name (quoted source ++ " and " ++ quoted target ++ " are the same file")
          else if old.isDirectory then
            refused name ("cannot overwrite directory " ++ quoted target ++ " with non-directory")
          else if c.has 'n' then return 0
          else if !(← agreed (c.has 'i') name ("overwrite " ++ quoted target)) then return 1
          else copyTo name source target e c
        | none =>
          match c.has 'l' || c.has 's', (← get).world.files.locate (pathOf target) with
          | true, .ok (.free q) =>
            if c.has 's' then
              changeWorld fun w => w.put q ⟨.link (pathOf source), 0o777, true⟩
            else changeWorld fun w => w.addName place q e
            return 0
          | _, _ => copyTo name source target e c

/-- Copies one file. -/
def copyOne (name : String) (c : Call) (target source : String) : Run Nat := do
  copyTree name c 100 source (← destination c target source)

/-- Runs a program on sources and a target, which is the last argument if no other is given. -/
def toTarget (body : Call → String → String → Run Nat) (name : String) (c : Call) : Run Nat := do
  match c.value? 't', c.operands.reverse with
  | some target, _ =>
    if c.operands.isEmpty then misused name "missing file operand"
    else worst (body c target) c.operands
  | none, [] => misused name "missing file operand"
  | none, [only] => misused name ("missing destination file operand after " ++ quoted only)
  | none, target :: sources =>
    if sources.length = 1 then worst (body c target) sources
    else if c.has 'T' then misused name ("extra operand " ++ quoted target)
    else
      match ← lookAt target with
      | .ok (_, e) =>
        if e.isDirectory then worst (body c target) sources.reverse
        else refused name ("target " ++ quoted target ++ ": " ++ SystemError.notDirectory.reason)
      | .error err => refused name ("target " ++ quoted target ++ ": " ++ err.reason)

/-- Copies files. -/
def cp : Body :=
  withOptions "fpnvrRaTt:iudLPHls" [("force", 'f'), ("no-clobber", 'n'), ("preserve", 'p'),
    ("recursive", 'r'), ("archive", 'a'), ("verbose", 'v'), ("no-target-directory", 'T'),
    ("target-directory", 't')] fun name c => toTarget (copyOne name) name c

/-- Moves one file. -/
def moveOne (name : String) (c : Call) (target source : String) : Run Nat := do
  match ← lookAtLink source with
  | .error err => refused name ("cannot stat " ++ quoted source ++ ": " ++ err.reason)
  | .ok (place, e) =>
    let target ← destination c target source
    let w := (← get).world
    let refuse (err : SystemError) : Run Nat :=
      refused name ("cannot move " ++ quoted source ++ " to " ++ quoted target ++ ": "
        ++ err.reason)
    match w.files.followWith false (pathOf target) (FileSystem.parts (pathOf target)) with
    | .error err => refuse err
    | .ok goal =>
      let (goalPlace, old?) := match goal with
        | .entry q old => (q, some old)
        | .free q => (q, none)
      let oldIsDirectory := (old?.map Entry.isDirectory).getD false
      if goalPlace = place then
        refused name (quoted source ++ " and " ++ quoted target ++ " are the same file")
      else if e.isDirectory && place.isPrefixOf goalPlace then
        refused name ("cannot move " ++ quoted source ++ " to a subdirectory of itself, "
          ++ quoted target)
      else if !w.files.allows goalPlace.dropLast .write
          || !w.files.allows place.dropLast .write then refuse .permissionDenied
      else if FileSystem.endsInSlash target && !e.isDirectory then refuse .notDirectory
      else if c.has 'n' && old?.isSome then return 0
      else if oldIsDirectory && !e.isDirectory then
        refused name ("cannot overwrite directory " ++ quoted target ++ " with non-directory")
      else if old?.isSome && !oldIsDirectory && e.isDirectory then
        refused name ("cannot overwrite non-directory " ++ quoted target ++ " with directory "
          ++ quoted source)
      else if oldIsDirectory && !(w.files.names goalPlace).isEmpty then refuse .notEmpty
      else if !(← agreed (c.lastOf ['i', 'f', 'n'] = some 'i' && old?.isSome) name
          ("overwrite " ++ quoted target)) then return 1
      else
        changeWorld fun w => w.rename place goalPlace
        if c.has 'v' then say ("renamed " ++ quoted source ++ " -> " ++ quoted target ++ "\n")
        return 0

/-- Moves files. -/
def mv : Body :=
  withOptions "fnvTt:iu" [("force", 'f'), ("no-clobber", 'n'), ("verbose", 'v'),
    ("no-target-directory", 'T'), ("target-directory", 't')] fun name c =>
    toTarget (moveOne name) name c

/-- Gives a file another name, or makes a link to it. -/
def linkOne (name : String) (c : Call) (target source : String) : Run Nat := do
  let soft := c.has 's'
  let target ← if c.has 'n' && ((← lookAtLink target).toOption.bind fun e => e.2.target?).isSome
    then pure target else destination c target source
  let kind := if soft then "symbolic" else "hard"
  let fail (err : SystemError) : Run Nat :=
    refused name ("failed to create " ++ kind ++ " link " ++ quoted target ++ ": " ++ err.reason)
  let w := (← get).world
  let made (q : Place) : Run Nat := do
    if !w.files.allows q.dropLast .write then fail .permissionDenied
    else
      if soft then
        changeWorld fun w => w.put q ⟨.link (pathOf source), 0o777, true⟩
      else
        match w.files.findLink (pathOf source) with
        | .ok (place, e) => changeWorld fun w => w.addName place q e
        | .error _ => pure ()
      if c.has 'v' then
        say (quoted target ++ (if soft then " -> " else " => ") ++ quoted source ++ "\n")
      return 0
  match if soft then .ok none else (w.files.findLink (pathOf source)).map some with
  | .error err => refused name ("failed to access " ++ quoted source ++ ": " ++ err.reason)
  | .ok found =>
    if (found.map fun f => f.2.isDirectory).getD false then
      refused name (quotedIfNeeded source ++ ": hard link not allowed for directory")
    else
      match w.files.followWith false (pathOf target) (FileSystem.parts (pathOf target)) with
      | .error err => fail err
      | .ok (.free q) => made q
      | .ok (.entry q old) =>
        if c.has 'f' && !old.isDirectory then
          if (found.map Prod.fst) = some q then
            refused name (quoted source ++ " and " ++ quoted target ++ " are the same file")
          else
            changeWorld fun w => w.remove q
            made q
        else fail .alreadyExists

/-- Gives files other names. -/
def ln : Body :=
  withOptions "fsnvTt:rLP" [("force", 'f'), ("symbolic", 's'), ("no-dereference", 'n'),
    ("verbose", 'v'), ("no-target-directory", 'T'), ("target-directory", 't')] fun name c =>
    match c.operands with
    | [] => misused name "missing file operand"
    | [only] => linkOne name c "." only
    | _ => toTarget (linkOne name) name c

/-! ## Removal -/

/-- The kind of a file that is to be removed. -/
def kindToRemove (e : Entry) : String :=
  match e.content with
  | .directory => "directory"
  | .file bytes => if bytes.isEmpty then "regular empty file" else "regular file"
  | .link _ => "symbolic link"
  | .here => "symbolic link"
  | .device (.queue _) => "fifo"
  | .device _ => "character special file"

/-- Says what is removed below a directory, and then the directory itself. -/
def sayRemoved : Nat → FileSystem → String → Place → Entry → Run Unit
  | 0, _, _, _, _ => return ()
  | fuel + 1, files, path, place, e => do
    if e.isDirectory then
      for n in files.names place do
        match files.get? (place ++ [n]) with
        | some inner => sayRemoved fuel files (inside path (Text.encoded n)) (place ++ [n]) inner
        | none => pure ()
    say ((if e.isDirectory then "removed directory " else "removed ") ++ quoted path ++ "\n")

/-- Removes one file. -/
def removeOne (name : String) (c : Call) (path : String) : Run Nat := do
  let refuse (err : SystemError) : Run Nat :=
    refused name ("cannot remove " ++ quoted path ++ ": " ++ err.reason)
  let recursive := c.has 'r' || c.has 'R'
  match ← lookAtLink path with
  | .error err =>
    if c.has 'f' && (err = .noEntry || err = .notDirectory) then return 0 else refuse err
  | .ok (place, e) =>
    let w := (← get).world
    if e.isDirectory && (path.splitOn "/").getLast? ∈ [some ".", some ".."] && recursive then
      refused name ("refusing to remove '.' or '..' directory: skipping " ++ quoted path)
    else if place = [] && recursive then
      complainAs name ("it is dangerous to operate recursively on " ++ quoted path
        ++ if path = "/" then "" else " (same as '/')")
      refused name "use --no-preserve-root to override this failsafe"
    else if e.isDirectory && !recursive && !c.has 'd' then refuse .isDirectory
    else if e.isDirectory && !recursive && !(w.files.names place).isEmpty then refuse .notEmpty
    else if !w.files.allows place.dropLast .write then refuse .permissionDenied
    else if !(← agreed (c.lastOf ['i', 'f'] = some 'i') name
        ("remove " ++ kindToRemove e ++ " " ++ quoted path)) then return 0
    else
      changeWorld fun w => w.remove place
      if c.has 'v' then sayRemoved 100 w.files path place e
      return 0

/-- Removes files. -/
def rm : Body :=
  withOptions "firRvdI" [("force", 'f'), ("recursive", 'r'), ("verbose", 'v'), ("dir", 'd')]
    fun name c =>
    if c.operands.isEmpty && !c.has 'f' then misused name "missing operand"
    else worst (removeOne name c) c.operands

/-- Removes a name. -/
def unlink : Body :=
  withOptions "" [] fun name c => do
    match c.operands with
    | [] => misused name "missing operand"
    | [path] =>
      match ← lookAtLink path with
      | .error err => refused name ("cannot unlink " ++ quoted path ++ ": " ++ err.reason)
      | .ok (place, e) =>
        if e.isDirectory then
          refused name ("cannot unlink " ++ quoted path ++ ": " ++ SystemError.isDirectory.reason)
        else
          changeWorld fun w => w.remove place
          return 0
    | _ :: extra :: _ => misused name ("extra operand " ++ (← quote extra))

/-- Removes one empty directory. -/
def removeDirectory (name : String) (c : Call) (path : String) : Run Nat := do
  let refuse (err : SystemError) : Run Nat :=
    refused name ("failed to remove " ++ quoted path ++ ": " ++ err.reason)
  match ← lookAtLink path with
  | .error err => refuse err
  | .ok (place, e) =>
    let files := (← get).world.files
    if !e.isDirectory then refuse .notDirectory
    else if !(files.names place).isEmpty then if c.has 'i' then return 0 else refuse .notEmpty
    else if !files.allows place.dropLast .write then refuse .permissionDenied
    else
      if c.has 'v' then say (name ++ ": removing directory, " ++ quoted path ++ "\n")
      changeWorld fun w => w.remove place
      return 0

/-- A path and those of the directories above it, the longest first. -/
def pathAndParents (path : String) : List String :=
  let ps := path.splitOn "/"
  ((List.range ps.length).map fun i => "/".intercalate (ps.take (ps.length - i))).filter (· ≠ "")

/-- Removes empty directories, with those above them on demand. -/
def rmdir : Body :=
  withOptions "pvi" [("parents", 'p'), ("verbose", 'v'), ("ignore-fail-on-non-empty", 'i')]
    fun name c =>
    if c.operands.isEmpty then misused name "missing operand"
    else
      worst (fun path => do
        for dir in if c.has 'p' then pathAndParents path else [path] do
          if (← removeDirectory name c dir) ≠ 0 then return 1
        return 0) c.operands

/-! ## Making -/

/-- Makes one file if it is not there. -/
def touchOne (name : String) (c : Call) (path : String) : Run Nat := do
  let p ← get
  match p.world.files.find (pathOf path) with
  | .ok _ => return 0
  | .error found =>
    if found = .noEntry && c.has 'c' then return 0
    else
      match p.world.openOutput (pathOf path) (0o666 &&& (0o777 ^^^ p.umask)) false with
      | .ok (_, _, w) =>
        changeWorld fun _ => w
        return 0
      | .error err =>
        let err := if err = .isDirectory then .noEntry else err
        refused name ("cannot touch " ++ quoted path ++ ": " ++ err.reason)

/-- Makes files that are not there. -/
def touch : Body :=
  withOptions "acmd:r:t:h" [("no-create", 'c'), ("date", 'd'), ("reference", 'r')] fun name c =>
    if c.operands.isEmpty then misused name "missing file operand"
    else worst (touchOne name c) c.operands

/-- The mode that an option asks for, in place of a usual one. -/
def modeOption (name : String) (c : Call) (usual : Nat) (directory : Bool) :
    Run (Option Nat) := do
  let mask := (← get).umask
  match c.value? 'm' with
  | none => return some (usual &&& (0o777 ^^^ mask))
  | some s =>
    match newMode? directory mask usual s with
    | some m => return some m
    | none =>
      complainAs name ("invalid mode " ++ (← quote s))
      return none

/-- Makes one directory, with those above it on demand. -/
def makeOne (name : String) (c : Call) (mode : Nat) (path : String) : Run Nat := do
  let paths := if c.has 'p' then (pathAndParents path).reverse else [path]
  for dir in paths do
    let files := (← get).world.files
    let refuse (err : SystemError) : Run Nat := do
      refused name ("cannot create directory " ++ (← quote dir) ++ ": " ++ err.reason)
    match files.follow (pathOf dir) (FileSystem.parts (pathOf dir)) with
    | .ok (.entry _ e) =>
      if !c.has 'p' then return ← refuse .alreadyExists
      else if !e.isDirectory then
        return ← refuse (if dir = path then .alreadyExists else .notDirectory)
    | .ok (.free place) =>
      if !files.allows place.dropLast .write then return ← refuse .permissionDenied
      let mask := (← get).umask
      let mode := if dir = path then mode else 0o777 &&& (0o777 ^^^ mask)
      changeWorld fun w => w.put place ⟨.directory, mode, true⟩
      if c.has 'v' then say (name ++ ": created directory " ++ quoted dir ++ "\n")
    | .error err => return ← refuse err
  return 0

/-- Makes directories. -/
def mkdir : Body :=
  withOptions "pvm:" [("parents", 'p'), ("verbose", 'v'), ("mode", 'm')] fun name c => do
    if c.operands.isEmpty then misused name "missing operand"
    else
      match ← modeOption name c 0o777 true with
      | some mode => worst (makeOne name c mode) c.operands
      | none => return 1

/-- Makes one queue between processes. -/
def makeQueue (name : String) (mode : Nat) (path : String) : Run Nat := do
  let w := (← get).world
  let refuse (err : SystemError) : Run Nat :=
    refused name ("cannot create fifo " ++ quoted path ++ ": " ++ err.reason)
  match w.files.locateLink (pathOf path) with
  | .error err => refuse err
  | .ok (.entry _ _) => refuse .alreadyExists
  | .ok (.free place) =>
    if !w.files.allows place.dropLast .write then refuse .permissionDenied
    else
      let (_, _, w') := w.addPipe
      changeWorld fun _ => w'.put place ⟨.device (.queue w.pipes.size), mode, true⟩
      return 0

/-- Makes queues between processes. -/
def mkfifo : Body :=
  withOptions "m:" [("mode", 'm')] fun name c => do
    if c.operands.isEmpty then misused name "missing operand"
    else
      match ← modeOption name c 0o666 false with
      | some mode => worst (makeQueue name mode) c.operands
      | none => return 1

/-- The name of a file that is made up, in which a run of crosses at the end is replaced. -/
def madeUp (template : String) (n : Nat) : String :=
  let crosses := (template.toList.reverse.takeWhile (· = 'X')).length
  let digits := Nat.toDigits 36 (n + 60466176)
  let letters := (digits.map fun c => if c = '*' then 'z' else c)
  String.ofList (template.toList.take (template.length - crosses)
    ++ (List.replicate crosses 'a' ++ letters).drop letters.length)

/-- Makes a file or a directory with a name that nothing else has. -/
def mktemp : Body :=
  withOptions "dqup:tS:" [("directory", 'd'), ("quiet", 'q'), ("dry-run", 'u'), ("tmpdir", 'p'),
    ("suffix", 'S')] fun name c => do
    match c.operands with
    | _ :: _ :: _ => misused name "too many templates"
    | given =>
      let p ← get
      let template := given.head?.getD "tmp.XXXXXXXXXX"
      let dir := (c.value? 'p').getD ((p.environment.lookup "TMPDIR").getD "/tmp")
      let template := if given.isEmpty || c.has 'p' || c.has 't' then inside dir template
        else template
      let suffix := (c.value? 'S').getD (String.ofList
        (template.toList.reverse.takeWhile (fun ch => ch ≠ 'X' && ch ≠ '/')).reverse)
      let template := if c.has 'S' || !template.toList.contains 'X' then template
        else String.ofList (template.toList.take (template.length - suffix.length))
      if c.has 'S' && template.toList.getLast? ≠ some 'X' then
        refused name ("with --suffix, template " ++ (← quote (given.head?.getD ""))
          ++ " must end in X")
      else if (template.toList.reverse.takeWhile (· = 'X')).length < 3 then
        refused name ("too few X's in template " ++ (← quote template))
      else
        let free := (List.range 1000).find? fun n =>
          (p.world.files.find? (pathOf (madeUp template n ++ suffix))).isNone
        let path := madeUp template (free.getD 0) ++ suffix
        let kind := if c.has 'd' then "directory" else "file"
        match p.world.files.locate (pathOf path) with
        | .ok (.free place) =>
          let entry : Entry := if c.has 'd' then ⟨.directory, 0o700, true⟩
            else ⟨.file ByteArray.empty, 0o600, true⟩
          if !c.has 'u' then changeWorld fun w => w.put place entry
          say (path ++ "\n")
          return 0
        | .ok _ => return 1
        | .error err =>
          refused name ("failed to create " ++ kind ++ " via template " ++ (← quote template)
            ++ ": " ++ err.reason)

/-! ## Permissions -/

/-- The letters of the permissions of one class of users, with a letter for a special bit. -/
def permissionsOf (bits : Nat) (special : Bool) (letter : Char) : String :=
  let execute := bits &&& 1 ≠ 0
  String.ofList [if bits &&& 4 ≠ 0 then 'r' else '-', if bits &&& 2 ≠ 0 then 'w' else '-',
    if special then (if execute then letter else letter.toUpper)
    else if execute then 'x' else '-']

/-- The letters of the permissions of all classes of users. -/
def modeLetters (mode : Nat) : String :=
  permissionsOf (mode / 0o100) (mode &&& 0o4000 ≠ 0) 's'
    ++ permissionsOf (mode / 0o10) (mode &&& 0o2000 ≠ 0) 's'
    ++ permissionsOf mode (mode &&& 0o1000 ≠ 0) 't'

/-- Changes the mode of what is at a path, and below it on demand. -/
def changeMode (name : String) (opts : List String) (mode : String) : Nat → String → Run Nat
  | 0, _ => return 1
  | fuel + 1, path => do
    match ← lookAt path with
    | .error err => refused name ("cannot access " ++ quoted path ++ ": " ++ err.reason)
    | .ok (place, e) =>
      if !e.own then
        refused name ("changing permissions of " ++ quoted path ++ ": "
          ++ SystemError.notPermitted.reason)
      else
        let mask := (← get).umask
        match newMode? e.isDirectory mask e.mode mode with
        | none => return 1
        | some m =>
          changeWorld fun w => w.put place { e with mode := m }
          if "-v" ∈ opts || ("-c" ∈ opts && m ≠ e.mode) then
            let now := octalDigits 4 m ++ " (" ++ modeLetters m ++ ")"
            say ("mode of " ++ quoted path ++ (if m = e.mode then " retained as " ++ now
              else " changed from " ++ octalDigits 4 e.mode ++ " (" ++ modeLetters e.mode
                ++ ") to " ++ now) ++ "\n")
          let mut status := 0
          if ("-R" ∈ opts || "--recursive" ∈ opts) && e.isDirectory then
            for n in (← get).world.files.names place do
              let s ← changeMode name opts mode fuel (inside path (Text.encoded n))
              status := max status s
          return status

/-- Changes the modes of files. A mode that takes away a permission looks like an option. -/
def chmod : Body := fun name args => do
  let isMode (a : String) : Bool := (newMode? false 0 0 a).isSome
  let isOption (a : String) : Bool :=
    a.toList.head? = some '-' && !isMode a && 1 < a.length
  let opts := args.filter isOption
  let reference? := (opts.find? fun a => a.startsWith "--reference=").map fun a =>
    String.ofList (a.toList.drop 12)
  let unknown := opts.find? fun a => !a.startsWith "--reference="
    && a ∉ ["-v", "-f", "-c", "-R", "--", "--recursive", "--quiet"]
  if let some model := reference? then
    match ← lookAt model with
    | .error e =>
      return ← refused name ("failed to get attributes of " ++ quoted model ++ ": " ++ e.reason)
    | .ok (_, e) =>
      return ← worst (changeMode name opts (octalDigits 4 e.mode) 100)
        (args.filter fun a => !isOption a)
  match unknown, args.filter fun a => !isOption a with
  | some a, _ => misused name ("invalid option -- '" ++ String.ofList (a.toList.drop 1) ++ "'")
  | none, [] => misused name "missing operand"
  | none, mode :: paths =>
    if paths.isEmpty then misused name ("missing operand after " ++ (← quote mode))
    else if !isMode mode then misused name ("invalid mode: " ++ (← quote mode))
    else worst (changeMode name opts mode 100) paths

/-! ## Sizes and links -/

/-- The place that a path names by its parts alone. -/
def plainPlace (files : FileSystem) (path : String) : Place :=
  let start := if path.startsWith "/" then [] else files.cwd
  (FileSystem.parts (pathOf path)).foldl (fun place part =>
    if part = ".." then place.dropLast else if part = "." then place else place ++ [part]) start

/-- A place as it is seen from a directory. -/
def seenFrom : Place → Place → String
  | d :: ds, p :: ps =>
    if d = p then seenFrom ds ps
    else "/".intercalate ((d :: ds).map (fun _ => "..") ++ p :: ps)
  | ds, ps =>
    let parts := ds.map (fun _ => "..") ++ ps
    if parts.isEmpty then "." else "/".intercalate parts

/-- Shows where links lead. -/
def readlink : Body :=
  withOptions "fenmqszv" [("canonicalize", 'f'), ("canonicalize-existing", 'e'),
    ("no-newline", 'n'), ("canonicalize-missing", 'm'), ("quiet", 'q'), ("silent", 's'),
    ("verbose", 'v')] fun name c => do
    if c.operands.isEmpty then misused name "missing operand"
    else
      let files := (← get).world.files
      let ending := if c.has 'n' then "" else "\n"
      worst (fun path => do
        let found? : Option String := if c.has 'f' || c.has 'e' || c.has 'm' then
            match files.locate (pathOf path) with
            | .ok (.entry p _) => some (FileSystem.pathOf p)
            | .ok (.free p) => if c.has 'e' then none else some (FileSystem.pathOf p)
            | .error _ =>
              if c.has 'm' then some (FileSystem.pathOf (plainPlace files path)) else none
          else ((files.findLink (pathOf path)).toOption.bind fun e => e.2.target?)
        match found? with
        | some s =>
          say (Text.encoded s ++ ending)
          return 0
        | none =>
          if c.has 'v' then
            let reason := match files.findLink (pathOf path) with
              | .ok _ => SystemError.invalidArgument.reason
              | .error e => e.reason
            complainAs name (quotedIfNeeded path ++ ": " ++ reason)
          return 1) c.operands

/-- Shows the places of files. -/
def realpath : Body :=
  withOptions "esmqzr:b:" [("canonicalize-existing", 'e'), ("canonicalize-missing", 'm'),
    ("no-symlinks", 's'), ("strip", 's'), ("quiet", 'q'), ("relative-to", 'r'),
    ("relative-base", 'b')] fun name c => do
    if c.operands.isEmpty then misused name "missing operand"
    else
      let files := (← get).world.files
      let shown (p : Place) : Run Nat := do
        let text := match c.value? 'r' with
          | some dir => seenFrom (plainPlace files dir) p
          | none => FileSystem.pathOf p
        say (Text.encoded text ++ "\n")
        return 0
      worst (fun path => do
        if c.has 's' then shown (plainPlace files path)
        else
          match files.locate (pathOf path) with
          | .ok (.entry p _) => shown p
          | .ok (.free p) => if c.has 'e' then unreadable name path .noEntry else shown p
          | .error e =>
            if c.has 'm' then shown (plainPlace files path) else unreadable name path e) c.operands

/-- A number of bytes with a letter for a power of 1024. -/
def byteCount? (cs : List Char) : Option Nat :=
  let digits := cs.takeWhile Char.isDigit
  if digits.isEmpty then none
  else
    match cs.drop digits.length with
    | [] => some (Text.digitsValue digits)
    | [c] =>
      match ['K', 'M', 'G', 'T'].idxOf? c.toUpper with
      | some i => some (Text.digitsValue digits * Nat.pow 1024 (i + 1))
      | none => none
    | _ => none

/-- Sets the sizes of files. -/
def truncate : Body :=
  withOptions "s:cor:" [("size", 's'), ("no-create", 'c'), ("reference", 'r')] fun name c => do
    let files := (← get).world.files
    let reference? := (c.value? 'r').map fun path => (path, files.find (pathOf path))
    let size? : Option String := match c.value? 's', reference? with
      | some s, _ => some s
      | none, some (_, .ok (_, e)) => some (Nat.repr e.bytes.size)
      | none, some (_, .error _) => some ""
      | none, none => none
    match size? with
    | none =>
      misused name ("you must specify either " ++ (← quote "--size") ++ " or "
        ++ (← quote "--reference"))
    | some s =>
      if let some (path, .error e) := reference? then
        return ← refused name ("cannot stat " ++ quoted path ++ ": " ++ e.reason)
      let digits := s.toList.dropWhile fun ch => ch ∈ ['+', '-', '<', '>', '/', '%']
      match byteCount? digits with
      | none => refused name ("Invalid number: " ++ (← quote s))
      | some n =>
        if c.operands.isEmpty then return ← misused name "missing file operand"
        worst (fun path => do
          if c.has 'c' && (← lookAt path).toOption.isNone then return 0
          let p ← get
          match p.world.openOutput (pathOf path) (0o666 &&& (0o777 ^^^ p.umask)) false with
          | .error e =>
            refused name ("cannot open " ++ quoted path ++ " for writing: " ++ e.reason)
          | .ok (place, e, w) =>
            let size := if s.toList.head? = some '+' then e.bytes.size + n
              else if s.toList.head? = some '-' then e.bytes.size - n
              else if s.toList.head? = some '<' then min e.bytes.size n
              else if s.toList.head? = some '>' then max e.bytes.size n
              else if s.toList.head? = some '/' then e.bytes.size / max 1 n * n
              else if s.toList.head? = some '%' then (e.bytes.size + n - 1) / max 1 n * n else n
            let bytes := writtenAt (e.bytes.extract 0 size) size ByteArray.empty
            changeWorld fun _ => w.put place (e.refilled bytes)
            return 0) c.operands

/-- Copies files and sets their modes, or makes directories. -/
def install : Body :=
  withOptions "dDm:vcpt:To:g:s" [("directory", 'd'), ("mode", 'm'), ("verbose", 'v')]
    fun name c => do
    match newMode? (c.has 'd') 0 0 ((c.value? 'm').getD "755") with
    | none => refused name ("invalid mode " ++ (← quote ((c.value? 'm').getD "")))
    | some mode =>
      if c.has 'd' then
        worst (makeOne name { c with options := [('p', "")] } mode) c.operands
      else
        toTarget (fun c target source => do
          let target ← destination c target source
          if c.has 'D' then
            let dir := "/".intercalate (target.splitOn "/").dropLast
            if dir ≠ "" then
              let _ ← makeOne name { c with options := [('p', "")] } 0o755 dir
          let kept := c.options.filter fun o => o.1 = 'v'
          let kept := ('f', "") :: ('x', "") :: kept
          let status ← copyTree name { c with options := kept } 1 source target
          if status = 0 then
            match (← get).world.files.find? (pathOf target) with
            | some (place, e) => changeWorld fun w => w.put place { e with mode := mode }
            | none => pure ()
          return status) name c

end Looplet.Utility
