import Looplet.CommandLine

/-!
# The program

The command line over the files of the machine that it runs on.
-/

namespace Looplet

/-- The system's error behind an exception. -/
def systemError : IO.Error → SystemError
  | .noFileOrDirectory .. => .noEntry
  | .noSuchThing .. => .noEntry
  | .inappropriateType _ 21 _ => .isDirectory
  | .inappropriateType .. => .notDirectory
  | .permissionDenied _ n r => .other n.toNat r
  | .resourceBusy n r => .other n.toNat r
  | .alreadyExists _ n r => .other n.toNat r
  | e => .other 0 (toString e)

/-- The machine's files. -/
def machineHost (searchPath home : String) : Host IO where
  workingDirectory := do return (← IO.currentDir).toString
  searchPath := searchPath
  home := home
  readText := fun path => do
    try
      let content ← IO.FS.readBinFile path
      match String.fromUTF8? content with
      | some s => return .ok s
      | none => return .error .invalidText
    catch e => return .error (systemError e)
  sameFile := fun a b => do
    try return (← IO.FS.realPath a) == (← IO.FS.realPath b)
    catch _ => return false
  writeText := fun path text => do
    try
      IO.FS.writeFile path text
      return .ok ()
    catch e => return .error (systemError e)
  isExecutable := fun path => do
    try
      let h ← IO.FS.Handle.mk path .read
      let _ ← h.read 1
      return true
    catch _ => return false
  writeNative := noNative

/-- The variables of the environment that the command line looks at. -/
def machineEnvironment : IO Environment := do
  let keys := ["LAMBDA_LOG", "LAMBDA_CC"]
  let values ← keys.mapM fun key => do return (key, ← IO.getEnv key)
  return fun key => (values.lookup key).join

end Looplet

/-- Runs the command line on the machine's files. -/
def main (args : List String) : IO UInt32 := do
  let searchPath := (← IO.getEnv "PATH").getD ""
  let home := (← IO.getEnv "HOME").getD Looplet.noHome
  let env ← Looplet.machineEnvironment
  let outcome ← Looplet.CommandLine.run (Looplet.machineHost searchPath home) args env
  IO.print outcome.output
  for e in outcome.log do
    IO.eprint e.text
  IO.eprint outcome.errors
  return outcome.status.toUInt32
