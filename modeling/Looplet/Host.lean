import Looplet.CompileError
import Looplet.FileSystem

/-!
# Hosts

A host is what a build needs from the world around it. `FileSystem.host` answers from a file
system that is a value, so a build over it is a function from file systems to file systems. Native
code is written by the host too; where it has no target for that, `noNative` refuses it.
-/

namespace Looplet

/-- The operations of the world that a build uses, in a monad `m`. -/
structure Host (m : Type → Type) where
  /-- The directory where relative paths start. -/
  workingDirectory : m String
  /-- Directories with programs, divided by colons. -/
  searchPath : String
  /-- The directory that a tilde stands for. -/
  home : String
  /-- The text of a file. -/
  readText : String → m (Except SystemError String)
  /-- Whether two paths lead to one existing entry. -/
  sameFile : String → String → m Bool
  /-- Writes a whole file, or changes nothing. -/
  writeText : String → String → m (Except SystemError Unit)
  /-- Whether a path leads to a plain file that may be executed. -/
  isExecutable : String → m Bool
  /-- Writes native code for a module to a path: an executable, linked by the given driver, or the
  text of an assembler if there is none. -/
  writeNative : Code.Module → Option String → String → m (Except CompileError Unit)

/-- The writer of native code where no target is at hand. -/
def noNative {m : Type → Type} [Monad m] :
    Code.Module → Option String → String → m (Except CompileError Unit) :=
  fun _ _ _ => return .error .noTarget

/-- The home directory of a user who has none. -/
def noHome : String := "/nonexistent"

/-- The host whose world is a file system, with a home and a writer of native code. -/
def FileSystem.hostWith (searchPath home : String)
    (writeNative : Code.Module → Option String → String →
      StateM FileSystem (Except CompileError Unit)) : Host (StateM FileSystem) where
  workingDirectory := fun fs => (fs.cwdPath, fs)
  searchPath := searchPath
  home := home
  readText := fun path fs => (fs.readText path, fs)
  sameFile := fun a b fs => (fs.sameFile a b, fs)
  writeText := fun path text fs =>
    match fs.write path text.toUTF8 with
    | .error e => (.error e, fs)
    | .ok fs' => (.ok (), fs')
  isExecutable := fun path fs => (fs.isExecutable path, fs)
  writeNative := writeNative

/-- The host whose world is a file system and nothing else. -/
def FileSystem.host (searchPath : String) : Host (StateM FileSystem) :=
  FileSystem.hostWith searchPath noHome noNative

end Looplet
