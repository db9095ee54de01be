import Looplet.Host
import Looplet.Toolchain.Link

/-!
# Native code

A machine has writers of native code and programs, of which nothing more is known here. An
executable is made in three steps: object code goes to a new file, the driver links it to the
output, and the file is removed, whatever became of it. If linking fails the output is removed, too,
whoever made it. What cannot be removed stays, and nothing is said about that.
-/

namespace Looplet

/-- A machine that native code is made on. -/
structure Machine where
  /-- Writes the text of an assembler for a module to a path. -/
  writeAssembly : Code.Module → String → FileSystem → Except CompileError Unit × FileSystem
  /-- Writes object code for a module to a path. -/
  writeObject : Code.Module → String → FileSystem → Except CompileError Unit × FileSystem
  /-- The directory for new files. -/
  temporary : String
  /-- Makes a new file there, with a name that no other file has, and gives its path. -/
  newFile : FileSystem → Except SystemError (String × FileSystem)
  programs : Toolchain.Programs

namespace Machine

/-- Links an object file. If that fails, the output is removed. -/
def linkOrRemove (machine : Machine) (driver object output : String) (fs : FileSystem) :
    Except CompileError Unit × FileSystem :=
  match Toolchain.link machine.programs driver object output fs with
  | (.error e, fs) => (.error e, fs.without output)
  | (.ok (), fs) => (.ok (), fs)

/-- Writes object code to a file and links it. -/
def writeAndLink (machine : Machine) (code : Code.Module) (driver object output : String)
    (fs : FileSystem) : Except CompileError Unit × FileSystem :=
  match machine.writeObject code object fs with
  | (.error e, fs) => (.error e, fs)
  | (.ok (), fs) => machine.linkOrRemove driver object output fs

/-- Writes an executable by way of a new file. -/
def writeExecutable (machine : Machine) (code : Code.Module) (driver output : String)
    (fs : FileSystem) : Except CompileError Unit × FileSystem :=
  match machine.newFile fs with
  | .error e => (.error (.system machine.temporary e), fs)
  | .ok (object, fs) =>
    let (result, fs) := machine.writeAndLink code driver object output fs
    (result, fs.without object)

/-- Writes native code: an executable, linked by the given driver, or the text of an assembler. -/
def writeNative (machine : Machine) (code : Code.Module) (driver? : Option String)
    (output : String) : StateM FileSystem (Except CompileError Unit) :=
  match driver? with
  | some driver => machine.writeExecutable code driver output
  | none => machine.writeAssembly code output

/-- The host whose world is a file system on a machine. -/
def host (machine : Machine) (searchPath home : String) : Host (StateM FileSystem) :=
  FileSystem.hostWith searchPath home machine.writeNative

end Machine

end Looplet
