import Looplet.Awk.Program
import Looplet.Shell.Finding

/-!
# The programs that start other programs

All programs that may start others, by their names.
-/

namespace Looplet.Shell

/-- The program of a name that may start others. -/
def starter? (name : String) : Option Starter :=
  match name with
  | "env" => some runEnv
  | "nice" => some runNice
  | "nohup" => some runNohup
  | "timeout" => some runTimeout
  | "xargs" => some runXargs
  | "printenv" => some fun _ name args => do setStatus (← printenv name args)
  | "awk" => some Awk.awk
  | "mawk" => some Awk.awk
  | "find" => some Finding.find
  | "which" => some fun _ name args => do setStatus (← which name args)
  | _ => none

end Looplet.Shell
