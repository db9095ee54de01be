import Looplet.SystemError
import Looplet.Text.Lines

/-!
# File systems

A file system is a tree of directories, plain files, links and a few devices, held as a list of
places with their entries; the root is always a directory. A path is resolved from left to right:
every part but the last must lead to a directory that may be searched, `.` stays where it is, `..`
goes up, and a link stands for the path that it holds. So each existing file has one place, however
a path spells it.

There is one user. Of the permissions of an entry, those of its owner count for what belongs to
the user, and those of everyone else for the rest.
-/

namespace Looplet

/-- The names that lead from the root to an entry. -/
abbrev Place := List String

/-- A device: it stands at a place, but it is not a file. -/
inductive Device where
  /-- Takes everything and gives nothing. -/
  | null
  /-- Takes everything and gives zeros without end. -/
  | zero
  /-- Has no space for anything. -/
  | full
  /-- The terminal of the process, which has none. -/
  | terminal
  /-- A queue between processes. -/
  | queue (number : Nat)
  /-- A standard stream of the process, with what has been written to it. -/
  | stream (number : Nat) (written : ByteArray)

/-- What an entry is. -/
inductive Content where
  | directory
  | file (bytes : ByteArray)
  | link (target : String)
  /-- A link to the directory where relative paths start. -/
  | here
  | device (device : Device)

/-- What stands at a place, with its permissions and whether it belongs to the user. -/
structure Entry where
  content : Content
  mode : Nat
  own : Bool

/-- A way to use an entry; to execute a directory is to look up names in it. -/
inductive Access where
  | read
  | write
  | execute
  deriving DecidableEq

/-- The bit of an access in a mode. -/
def Access.bit : Access → Nat
  | read => 4
  | write => 2
  | execute => 1

/-- Whether the user may use an entry in a given way. -/
def Entry.allows (e : Entry) (a : Access) : Bool :=
  (if e.own then e.mode / 0o100 else e.mode) &&& a.bit ≠ 0

/-- Whether an entry is a directory. -/
def Entry.isDirectory (e : Entry) : Bool :=
  match e.content with
  | .directory => true
  | _ => false

/-- Whether an entry is a plain file. -/
def Entry.isFile (e : Entry) : Bool :=
  match e.content with
  | .file _ => true
  | _ => false

/-- Whether an entry is a queue between processes. -/
def Entry.isQueue (e : Entry) : Bool :=
  match e.content with
  | .device (.queue _) => true
  | _ => false

/-- The path that an entry stands for, if it is a link. -/
def Entry.target? (e : Entry) : Option String :=
  match e.content with
  | .link target => some target
  | _ => none

/-- What reading an entry from its start to its end gives. -/
def Entry.bytes (e : Entry) : ByteArray :=
  match e.content with
  | .file bytes => bytes
  | _ => ByteArray.empty

/-- A file with other bytes. Writing takes away the right to run it as its owner, and as its group
if the group may run it. -/
def Entry.refilled (e : Entry) (bytes : ByteArray) : Entry :=
  let mode := e.mode &&& 0o3777
  { e with
    content := .file bytes,
    mode := if mode &&& 0o010 ≠ 0 then mode &&& 0o1777 else mode }

/-- The entries below the root, and the directory where relative paths start. -/
structure FileSystem where
  entries : List (Place × Entry)
  cwd : Place

namespace FileSystem

/-- Sets the entry at a place in a list of entries. -/
def setEntry (p : Place) (e : Entry) : List (Place × Entry) → List (Place × Entry)
  | [] => [(p, e)]
  | (q, d) :: rest => if q = p then (q, e) :: rest else (q, d) :: setEntry p e rest

/-- The root directory, which belongs to no user. -/
def root : Entry := ⟨.directory, 0o755, false⟩

/-- A place as a path. -/
def pathOf (p : Place) : String := "/" ++ "/".intercalate p

/-- The working directory as a path. -/
def cwdPath (fs : FileSystem) : String := pathOf fs.cwd

/-- An entry as it is seen now: a link to the working directory has the path of that. -/
def seen (fs : FileSystem) (e : Entry) : Entry :=
  match e.content with
  | .here => { e with content := .link fs.cwdPath }
  | _ => e

/-- The entry at a place. -/
def get? (fs : FileSystem) (p : Place) : Option Entry :=
  if p = [] then some root else (fs.entries.lookup p).map fs.seen

/-- Sets the entry at a place. -/
def put (fs : FileSystem) (p : Place) (e : Entry) : FileSystem :=
  { fs with entries := setEntry p e fs.entries }

/-- Takes away what is at a place and below it. -/
def erase (fs : FileSystem) (p : Place) : FileSystem :=
  { fs with entries := fs.entries.filter fun e => !p.isPrefixOf e.1 }

/-- Takes away what is at a place, and nothing else. -/
def clear (fs : FileSystem) (p : Place) : FileSystem :=
  { fs with entries := fs.entries.filter fun e => e.1 ≠ p }

/-- Moves what is at a place and below it to another place. -/
def move (fs : FileSystem) (p q : Place) : FileSystem :=
  let moved := fs.entries.filterMap fun (r, e) =>
    if p.isPrefixOf r then some (q ++ r.drop p.length, e) else none
  let rest := (fs.erase p).erase q
  { rest with entries := rest.entries ++ moved }

/-- Whether the user may use what is at a place in a given way. -/
def allows (fs : FileSystem) (p : Place) (a : Access) : Bool :=
  match fs.get? p with
  | some e => e.allows a
  | none => false

/-! ## Paths -/

/-- What a path leads to: an entry, or a name that is free in an existing directory. -/
inductive Target where
  | entry (place : Place) (entry : Entry)
  | free (place : Place)

/-- The parts of a path. -/
def parts (path : String) : List String :=
  (Text.splitOn '/' path).filter (· ≠ "")

/-- Whether a path starts at the root. -/
def isAbsolute (path : String) : Bool := path.toList.head? = some '/'

/-- Whether a path ends in a slash, so that it can only lead to a directory. -/
def endsInSlash (path : String) : Bool := path.toList.getLast? = some '/'

/-- The parts of a path, with a dot at the end if it can only lead to a directory. -/
def allParts (path : String) : List String :=
  parts path ++ if endsInSlash path then ["."] else []

/-- Follows the parts of a path from a directory; `jump` follows them after a link. A link at the
end is followed only if that is asked for. -/
def walkWith (fs : FileSystem) (jump : Place → List String → Except SystemError Target)
    (followLast : Bool) (here : Place) : List String → Except SystemError Target
  | [] =>
    match fs.get? here with
    | some e => .ok (.entry here e)
    | none => .error .noEntry
  | part :: rest =>
    if !fs.allows here .execute then .error .permissionDenied
    else if part = "." then walkWith fs jump followLast here rest
    else if part = ".." then walkWith fs jump followLast here.dropLast rest
    else if 255 < part.utf8ByteSize then .error .nameTooLong
    else
      match fs.get? (here ++ [part]) with
      | some e =>
        match e.target? with
        | some target =>
          if rest = [] && !followLast then .ok (.entry (here ++ [part]) e)
          else if target = "" then .error .noEntry
          else jump (if isAbsolute target then [] else here) (allParts target ++ rest)
        | none =>
          if e.isDirectory then walkWith fs jump followLast (here ++ [part]) rest
          else if rest = [] then .ok (.entry (here ++ [part]) e)
          else .error .notDirectory
      | none => if rest = [] then .ok (.free (here ++ [part])) else .error .noEntry

/-- Follows the parts of a path from a directory through a number of links. -/
def walk (fs : FileSystem) (followLast : Bool) :
    Nat → Place → List String → Except SystemError Target
  | 0 => fun _ _ => .error .tooManyLinks
  | links + 1 => walkWith fs (walk fs followLast links) followLast

/-- How many links a path may lead through, and one. -/
def linkLimit : Nat := 41

/-- Follows parts from where a path starts. -/
def followWith (fs : FileSystem) (followLast : Bool) (path : String) (ps : List String) :
    Except SystemError Target :=
  if path = "" then .error .noEntry
  else if 4096 ≤ path.utf8ByteSize then .error .nameTooLong
  else walk fs followLast linkLimit (if isAbsolute path then [] else fs.cwd) ps

/-- Follows parts from where a path starts, also through a link at the end. -/
def follow (fs : FileSystem) (path : String) (ps : List String) : Except SystemError Target :=
  fs.followWith true path ps

/-- What a path leads to. -/
def locate (fs : FileSystem) (path : String) : Except SystemError Target :=
  fs.follow path (allParts path)

/-- What a path leads to, which may be a link. -/
def locateLink (fs : FileSystem) (path : String) : Except SystemError Target :=
  fs.followWith false path (allParts path)

/-- What a target is, if it exists. -/
def Target.existing : Target → Except SystemError (Place × Entry)
  | .entry p e => .ok (p, e)
  | .free _ => .error .noEntry

/-- What exists at a path. -/
def find (fs : FileSystem) (path : String) : Except SystemError (Place × Entry) := do
  (← fs.locate path).existing

/-- What exists at a path, which may be a link. -/
def findLink (fs : FileSystem) (path : String) : Except SystemError (Place × Entry) := do
  (← fs.locateLink path).existing

/-- What exists at a path, if anything does. -/
def find? (fs : FileSystem) (path : String) : Option (Place × Entry) :=
  (fs.find path).toOption

/-! ## Reading and writing -/

/-- The bytes of what is at a path. -/
def read (fs : FileSystem) (path : String) : Except SystemError ByteArray :=
  match fs.find path with
  | .error e => .error e
  | .ok (_, e) =>
    if !e.allows .read then .error .permissionDenied
    else if e.isDirectory then .error .isDirectory
    else .ok e.bytes

/-- The text of the file at a path. -/
def readText (fs : FileSystem) (path : String) : Except SystemError String :=
  match fs.read path with
  | .error e => .error e
  | .ok content =>
    match String.fromUTF8? content with
    | some s => .ok s
    | none => .error .invalidText

/-- Whether two paths lead to one existing entry. -/
def sameFile (fs : FileSystem) (a b : String) : Bool :=
  match fs.find? a, fs.find? b with
  | some (p, _), some (q, _) => p = q
  | _, _ => false

/-- The mode of a file that is made by writing to it. -/
def newMode : Nat := 0o644

/-- Whether nothing can be made at a place, since it stands for something that the system knows of
its processes. -/
def isFixed (p : Place) : Bool := p.head? = some "proc"

/-- Where writing to a path would write. -/
def writable (fs : FileSystem) (path : String) : Except SystemError Target :=
  match fs.follow path (parts path) with
  | .error e => .error e
  | .ok (.entry p e) =>
    if e.isDirectory || endsInSlash path then .error .isDirectory
    else if e.allows .write then .ok (.entry p e)
    else .error .permissionDenied
  | .ok (.free p) =>
    if endsInSlash path then .error .isDirectory
    else if isFixed p then .error .noEntry
    else if fs.allows p.dropLast .write then .ok (.free p)
    else .error .permissionDenied

/-- Writes the whole of what is at a place. A file that is there keeps its mode, a stream keeps
what it has. -/
def overwrite (fs : FileSystem) (p : Place) (e : Entry) (bytes : ByteArray) :
    Except SystemError FileSystem :=
  match e.content with
  | .directory => .error .isDirectory
  | .file _ => .ok (fs.put p (e.refilled bytes))
  | .link _ => .error .tooManyLinks
  | .here => .error .tooManyLinks
  | .device .terminal => .error .noDevice
  | .device .null => .ok fs
  | .device .zero => .ok fs
  | .device (.queue _) => .ok fs
  | .device .full => if bytes.isEmpty then .ok fs else .error .noSpace
  | .device (.stream n written) =>
    .ok (fs.put p { e with content := .device (.stream n (written ++ bytes)) })

/-- Writes a whole file. -/
def write (fs : FileSystem) (path : String) (bytes : ByteArray) :
    Except SystemError FileSystem :=
  match fs.writable path with
  | .error e => .error e
  | .ok (.entry p e) => fs.overwrite p e bytes
  | .ok (.free p) => .ok (fs.put p ⟨.file bytes, newMode, true⟩)

/-- Sets the mode of what is at a path, which must belong to the user. -/
def setMode (fs : FileSystem) (path : String) (mode : Nat) : Except SystemError FileSystem :=
  match fs.find path with
  | .error e => .error e
  | .ok (p, e) => if e.own then .ok (fs.put p { e with mode := mode }) else .error .notPermitted

/-- Removes what is at a path, which is no directory. A link is removed itself. -/
def remove (fs : FileSystem) (path : String) : Except SystemError FileSystem :=
  match fs.findLink path with
  | .error e => .error e
  | .ok (p, e) =>
    if e.isDirectory then .error .isDirectory
    else if isFixed p then .error .notPermitted
    else if fs.allows p.dropLast .write then .ok (fs.clear p)
    else .error .permissionDenied

/-- The files without what is at a path, as far as that can be removed. -/
def without (fs : FileSystem) (path : String) : FileSystem :=
  match fs.remove path with
  | .ok fs' => fs'
  | .error _ => fs

/-- Whether a path leads to a plain file that may be executed. -/
def isExecutable (fs : FileSystem) (path : String) : Bool :=
  match fs.find? path with
  | some (_, e) => e.isFile && e.allows .execute
  | none => false

/-! ## Building and listing -/

/-- A directory of the user. -/
def ownDirectory : Entry := ⟨.directory, 0o755, true⟩

/-- Makes the directories that lead from `here` through the given names. -/
def makeDirectories (fs : FileSystem) (here : Place) : List String → FileSystem
  | [] => fs
  | name :: names =>
    let p := here ++ [name]
    let fs := if (fs.get? p).isSome then fs else fs.put p ownDirectory
    fs.makeDirectories p names

/-- Makes a directory, with those that lead to it, and starts relative paths there. -/
def enter (fs : FileSystem) (cwd : Place) : FileSystem :=
  { fs.makeDirectories [] cwd with cwd := cwd }

/-- Adds a file under the working directory, with the directories that lead to it. -/
def addFile (fs : FileSystem) (path : String) (mode : Nat) (bytes : ByteArray) : FileSystem :=
  let ps := parts path
  (fs.makeDirectories fs.cwd ps.dropLast).put (fs.cwd ++ ps) ⟨.file bytes, mode, true⟩

/-- The files under the working directory, by relative path. -/
def filesBelow (fs : FileSystem) : List (String × ByteArray) :=
  fs.entries.filterMap fun (p, e) =>
    if e.isFile && fs.cwd.isPrefixOf p then
      some ("/".intercalate (p.drop fs.cwd.length), e.bytes)
    else none

/-- What has been written to a standard stream of the process. -/
def written (fs : FileSystem) (number : Nat) : ByteArray :=
  fs.entries.foldl (fun bytes (_, e) =>
    match e.content with
    | .device (.stream n more) => if n = number then bytes ++ more else bytes
    | _ => bytes) ByteArray.empty

/-- The names in a directory. -/
def names (fs : FileSystem) (p : Place) : List String :=
  fs.entries.filterMap fun (q, _) => if q.dropLast = p then q.getLast? else none

/-! ## Lemmas -/

theorem lookup_setEntry_self (p : Place) (e : Entry) (l : List (Place × Entry)) :
    (setEntry p e l).lookup p = some e := by
  induction l with
  | nil => simp [setEntry]
  | cons a l ih =>
    obtain ⟨q, d⟩ := a
    by_cases h : q = p
    · simp [setEntry, h]
    · have : (p == q) = false := by simpa using fun h' => h h'.symm
      simp [setEntry, h, List.lookup_cons, this, ih]

theorem lookup_setEntry_of_ne {p q : Place} (e : Entry) (l : List (Place × Entry)) (h : q ≠ p) :
    (setEntry p e l).lookup q = l.lookup q := by
  have hq : (q == p) = false := by simpa using h
  induction l with
  | nil => simp [setEntry, List.lookup_cons, hq]
  | cons a l ih =>
    obtain ⟨r, d⟩ := a
    by_cases hr : r = p
    · simp [setEntry, hr, List.lookup_cons, hq]
    · simp [setEntry, hr, List.lookup_cons, ih]

/-- Setting one entry leaves all others as they are. -/
theorem get?_put_of_ne {fs : FileSystem} {p q : Place} (e : Entry) (h : q ≠ p) :
    (fs.put p e).get? q = fs.get? q := by
  simp only [get?, put, lookup_setEntry_of_ne e fs.entries h]
  rfl

/-- An entry that was set is the one that is seen. -/
theorem get?_put_self {fs : FileSystem} {p : Place} (e : Entry) (h : p ≠ []) :
    (fs.put p e).get? p = some (fs.seen e) := by
  simp only [get?, put, h, lookup_setEntry_self]
  rfl

end FileSystem

end Looplet
