import Looplet.Code.Printer
import Looplet.Compile
import Looplet.Options
import Looplet.Toolchain

/-!
# Building

A build reads its source, compiles it and writes what is asked for. The output must not be the
source, however its path spells it. Nothing is written unless the whole source compiles.
-/

namespace Looplet.Build

/-- What came of a build, and what it reported, in order. -/
structure Report where
  result : Except CompileError Unit
  events : List Event

/-- The report of a build that failed before it compiled anything. -/
def Report.refused (e : CompileError) : Report := ⟨.error e, []⟩

/-- The report of a build that compiled its source, or tried to. -/
def Report.finished (o : Options) (result : Except CompileError Unit) (events : List Event) :
    Report :=
  match result with
  | .error e => ⟨.error e, events ++ [.failed e.stage.name o.input]⟩
  | .ok () => ⟨.ok (), events ++ [.built o.output]⟩

/-- Writes a module as its text or as native code, and says what else there is to report. A driver
is looked for before there is anything to link. -/
def writeModule {m : Type → Type} [Monad m] (host : Host m) (o : Options) (code : Code.Module) :
    m (Except CompileError Unit × List Event) :=
  match o.emit with
  | .llvmIr => do
    match ← host.writeText o.output code.text with
    | .error e => return (.error (.unwritable o.output e), [])
    | .ok () => return (.ok (), [])
  | .assembly => return (← host.writeNative code none o.output, [.writingNative o.output])
  | .executable => do
    match ← Toolchain.find host o.toolchain? with
    | .error e => return (.error e, [])
    | .ok driver => return (← host.writeNative code (some driver) o.output, [])

/-- Compiles a source and writes what is asked for. -/
def compileAndWrite {m : Type → Type} [Monad m] (host : Host m) (o : Options) (src : String) :
    m Report :=
  match compile src with
  | .error e => return .finished o (.error e) (compileEvents src)
  | .ok code => do
    let (result, events) ← writeModule host o code
    return .finished o result (compileEvents src ++ events)

/-- Runs a build. -/
def run {m : Type → Type} [Monad m] (host : Host m) (o : Options) : m Report := do
  match ← host.readText o.input with
  | .error e => return .refused (.system o.input e)
  | .ok src =>
    if ← host.sameFile o.input o.output then return .refused (.outputIsSource o.output)
    else compileAndWrite host o src

end Looplet.Build
