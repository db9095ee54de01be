import Looplet.Toolchain

/-!
# Linking

The driver is run on an object file and the name of its output. It must succeed and leave
something at that name, which is then made executable. What the driver does is not part of this:
the programs of a machine are a parameter, and they may do to its files what they like.
-/

namespace Looplet.Toolchain

/-- What a program that was run leaves: how it ended, what it wrote to its error output, and the
files after it. -/
structure Ended where
  status : ExitStatus
  errors : String
  files : FileSystem

/-- The programs of a machine. They are run by their arguments, the first of which is the name of
the program, on the files that there are. One that cannot be started changes nothing. -/
abbrev Programs := List String → FileSystem → Except SystemError Ended

/-- The mode of an executable. -/
def executableMode : Nat := 0o755

/-- The arguments of a driver, its own name first. -/
def arguments (driver object output : String) : List String := [driver, object, "-o", output]

/-- Runs a program. No argument can hold a zero byte. -/
def start (programs : Programs) (args : List String) (fs : FileSystem) :
    Except SystemError Ended :=
  if args.any fun a => a.toList.contains '\x00' then .error .zeroByte else programs args fs

/-- Runs the driver on an object file. Gives the files after it in any case. -/
def link (programs : Programs) (driver object output : String) (fs : FileSystem) :
    Except CompileError Unit × FileSystem :=
  match start programs (arguments driver object output) fs with
  | .error e => (.error (.system driver e), fs)
  | .ok ended =>
    match ended.status with
    | .code 0 =>
      match ended.files.setMode output executableMode with
      | .error e => (.error (.system output e), ended.files)
      | .ok files => (.ok (), files)
    | status => (.error (.toolchainFailed driver status (Text.trim ended.errors)), ended.files)

end Looplet.Toolchain
