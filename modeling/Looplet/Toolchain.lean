import Looplet.CompileError
import Looplet.Host

/-!
# Finding the toolchain

The driver of the C toolchain is the one that is asked for, or else the first of a few names that
is found. A name without a slash is looked up in the directories of the search path, in order; any
other is a path.

Where a name is looked up is not for a build to say: it leaves that to a library, and `candidates`
stands for what the library does, with the functions before it. `find` is the build's own.
-/

namespace Looplet.Toolchain

/-- The drivers that are tried when none is asked for. -/
def drivers : List String := ["cc", "gcc", "clang"]

/-- How many steps a path has: the root, a leading dot, and every other part but a dot. -/
def depth (path : String) : Nat :=
  let ps := FileSystem.parts path
  (if FileSystem.isAbsolute path || ps.head? = some "." then 1 else 0)
    + (ps.filter (· ≠ ".")).length

/-- A path inside a directory. The empty directory is the working directory. -/
def join (dir path : String) : String :=
  if FileSystem.isAbsolute path || dir = "" then path
  else if FileSystem.endsInSlash dir then dir ++ path
  else dir ++ "/" ++ path

/-- A directory of the search path, in which a tilde as the first part stands for a home. -/
def expandHome (home dir : String) : String :=
  if FileSystem.isAbsolute dir then dir
  else
    match FileSystem.parts dir with
    | "~" :: rest => rest.foldl join home
    | _ => dir

/-- Where a program may be, in the order in which the places are tried. -/
def candidates (cwd home searchPath name : String) : List String :=
  if 1 < depth name then [join cwd name]
  else (Text.splitOn ':' searchPath).map fun dir => join (expandHome home dir) name

/-- The driver that is asked for by name, or else the first one found. -/
def find {m : Type → Type} [Monad m] (host : Host m) (name? : Option String) :
    m (Except CompileError String) := do
  let cwd ← host.workingDirectory
  match name? with
  | some name =>
    match ← (candidates cwd host.home host.searchPath name).findM? host.isExecutable with
    | some driver => return .ok driver
    | none => return .error (.toolchainNotFound name)
  | none =>
    let paths := drivers.flatMap (candidates cwd host.home host.searchPath)
    match ← paths.findM? host.isExecutable with
    | some driver => return .ok driver
    | none => return .error (.noToolchain drivers)

end Looplet.Toolchain
