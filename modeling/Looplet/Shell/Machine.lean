import Looplet.Shell.Session
import Looplet.Toolchain.Native

/-!
# The programs of a bare machine

Linking takes the programs of a machine as a parameter. `Shell.programs` is one choice for it: the
programs of a machine that has shells and the small programs that scripts use, and no more. With
them a toolchain that is a script can be run on a file system that is a value. They are no part of
a build: they stand for the world around it, and `Toolchain.link` knows as little of them as of any
others.
-/

namespace Looplet.Shell

/-- The environment of a driver: where programs are, and a language whose texts may hold any
character. -/
def driverEnvironment (searchPath : String) : List (String × String) :=
  [("PATH", searchPath), ("LANG", "C.UTF-8")]

/-- Runs a program of a bare machine. -/
def programs (searchPath : String) : Toolchain.Programs := fun args fs =>
  let args := args.map Text.encoded
  match Launch.ofName fs (Text.encoded searchPath) (args.head?.getD "") args with
  | .error e => .error e
  | .ok launch =>
    let r := run fs (driverEnvironment (Text.encoded searchPath)) launch
    .ok ⟨r.ended, Text.decoded r.errors, r.files⟩

end Looplet.Shell
