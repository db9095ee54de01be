import Looplet.Proofs.Build
import Looplet.Proofs.FileSystem.Removal

/-!
# Builds of executables

A build of an executable can fail before anything is made, when its object code is written, or when
that is linked. In the first case nothing is changed, and in the last one nothing is left at the
output (`run_failed`). A build that succeeds has made its output an executable of the user
(`run_succeeded`). The writers of native code and the driver may do to the files what they like.
-/

namespace Looplet

variable {machine : Machine} {code : Code.Module} {driver output : String} {fs fs' : FileSystem}

namespace Machine

/-- How making an executable can end: there is no new file for the object code; the object code
cannot be written; it cannot be linked; or it is linked. -/
inductive Made (machine : Machine) (code : Code.Module) (driver output : String)
    (fs : FileSystem) : Except CompileError Unit → FileSystem → Prop where
  | noFile {e : SystemError} (h : machine.newFile fs = .error e) :
    Made machine code driver output fs (.error (.system machine.temporary e)) fs
  | noObject {object : String} {files written : FileSystem} {e : CompileError}
    (hfile : machine.newFile fs = .ok (object, files))
    (hobject : machine.writeObject code object files = (.error e, written)) :
    Made machine code driver output fs (.error e) (written.without object)
  | notLinked {object : String} {files written linked : FileSystem} {e : CompileError}
    (hfile : machine.newFile fs = .ok (object, files))
    (hobject : machine.writeObject code object files = (.ok (), written))
    (hlink : Toolchain.link machine.programs driver object output written = (.error e, linked)) :
    Made machine code driver output fs (.error e) ((linked.without output).without object)
  | linked {object : String} {files written linked : FileSystem}
    (hfile : machine.newFile fs = .ok (object, files))
    (hobject : machine.writeObject code object files = (.ok (), written))
    (hlink : Toolchain.link machine.programs driver object output written = (.ok (), linked)) :
    Made machine code driver output fs (.ok ()) (linked.without object)

theorem made_writeExecutable (machine : Machine) (code : Code.Module) (driver output : String)
    (fs : FileSystem) :
    Made machine code driver output fs (machine.writeExecutable code driver output fs).1
      (machine.writeExecutable code driver output fs).2 := by
  rw [writeExecutable]
  cases hfile : machine.newFile fs with
  | error e => exact .noFile hfile
  | ok new =>
    obtain ⟨object, files⟩ := new
    dsimp only
    rw [writeAndLink]
    rcases hobject : machine.writeObject code object files with ⟨_ | _, written⟩
    · exact .noObject hfile hobject
    dsimp only
    rw [linkOrRemove]
    rcases hlink : Toolchain.link machine.programs driver object output written
      with ⟨_ | _, linked⟩
    · exact .notLinked hfile hobject hlink
    · exact .linked hfile hobject hlink

/-- Nothing on a machine changes the directory where relative paths start. -/
structure KeepsDirectory (machine : Machine) : Prop where
  newFile : ∀ fs object fs', machine.newFile fs = .ok (object, fs') → fs'.cwd = fs.cwd
  writeObject : ∀ code object fs, (machine.writeObject code object fs).2.cwd = fs.cwd
  programs : machine.programs.KeepDirectory

theorem Made.cwd {result : Except CompileError Unit} (hmachine : machine.KeepsDirectory)
    (h : Made machine code driver output fs result fs') : fs'.cwd = fs.cwd := by
  have hwritten {object : String} {files written : FileSystem} {result}
      (hfile : machine.newFile fs = .ok (object, files))
      (hobject : machine.writeObject code object files = (result, written)) :
      written.cwd = fs.cwd := by
    rw [← hmachine.newFile fs object files hfile, ← hmachine.writeObject code object files, hobject]
  have hlinked {object : String} {written linked : FileSystem} {result}
      (hlink : Toolchain.link machine.programs driver object output written = (result, linked)) :
      linked.cwd = written.cwd := by
    have hcwd : (Toolchain.link machine.programs driver object output written).2.cwd
        = written.cwd :=
      Toolchain.cwd_link hmachine.programs
    rwa [hlink] at hcwd
  cases h with
  | noFile => rfl
  | noObject hfile hobject => rw [FileSystem.cwd_without, hwritten hfile hobject]
  | notLinked hfile hobject hlink =>
    rw [FileSystem.cwd_without, FileSystem.cwd_without, hlinked hlink, hwritten hfile hobject]
  | linked hfile hobject hlink =>
    rw [FileSystem.cwd_without, hlinked hlink, hwritten hfile hobject]

/-- An executable of the user stands where an output leads, and the object code that it was linked
from is gone. Its own place is not touched by that, unless it is the place of the object code. -/
def Finished (output : String) (fs' : FileSystem) : Prop :=
  ∃ (linked : FileSystem) (object : String) (p : Place) (e : Entry),
    linked.find output = .ok (p, e) ∧ e.own = true ∧ e.mode = Toolchain.executableMode ∧
      fs' = linked.without object ∧
        (fs'.get? p = some e ∨ ∃ d, linked.findLink object = .ok (p, d))

/-- The object code could not be written to a new file, which is gone again. -/
def Unwritten (machine : Machine) (fs fs' : FileSystem) : Prop :=
  ∃ object files code e written, machine.newFile fs = .ok (object, files) ∧
    machine.writeObject code object files = (.error e, written) ∧ fs' = written.without object

theorem Made.finished (h : Made machine code driver output fs (.ok ()) fs') :
    Finished output fs' := by
  cases h with
  | @linked object _ _ linked hfile hobject hlink =>
    obtain ⟨_, p, e, -, -, -, hown, hfind, -⟩ := Toolchain.executable_of_link hlink
    have hstands : linked.get? p = some { e with mode := Toolchain.executableMode } :=
      FileSystem.stands_of_locate (FileSystem.find_eq_ok.mp hfind)
    refine ⟨linked, object, p, _, hfind, hown, rfl, rfl, ?_⟩
    rw [← hstands]
    exact linked.get?_without object p

theorem Made.failed {e : CompileError} (h : Made machine code driver output fs (.error e) fs') :
    fs' = fs ∨ Unwritten machine fs fs' ∨ fs'.Gone output := by
  cases h with
  | noFile => exact .inl rfl
  | noObject hfile hobject => exact .inr (.inl ⟨_, _, _, _, _, hfile, hobject, rfl⟩)
  | @notLinked object _ _ linked =>
    exact .inr (.inr ((FileSystem.gone_without linked output).without object))

end Machine

namespace Build

variable {searchPath home : String} {o : Options} {r : Report}

/-- A build of an executable fails and changes nothing, or it finds a driver and makes the
executable with it. -/
theorem run_executable (hemit : o.emit = .executable)
    (hrun : run (machine.host searchPath home) o fs = (r, fs')) :
    (∃ e, r.result = .error e ∧ fs' = fs) ∨
      ∃ src code driver, fs.readText o.input = .ok src ∧ fs.sameFile o.input o.output = false ∧
        compile src = .ok code ∧ fs.isExecutable driver = true ∧
          Machine.Made machine code driver o.output fs r.result fs' := by
  rcases run_writes hrun with hfailed | ⟨src, code, events, hsrc, hsame, hcompile, hmodule⟩
  · exact .inl hfailed
  rcases hfind : Toolchain.find (machine.host searchPath home) o.toolchain? fs with ⟨found, files⟩
  obtain rfl : files = fs := by
    rw [Machine.host, Toolchain.find_eq] at hfind
    exact (congrArg Prod.snd hfind).symm
  rw [Machine.host] at hfind
  simp only [writeModule, hemit, bind, StateT.bind, hfind] at hmodule
  cases found with
  | error e =>
    obtain ⟨result, reported⟩ := r
    cases hmodule
    exact .inl ⟨e, rfl, rfl⟩
  | ok driver =>
    have hmade := Machine.made_writeExecutable machine code driver o.output files
    obtain ⟨result, reported⟩ := r
    cases hmodule
    exact .inr ⟨src, code, driver, hsrc, hsame, hcompile,
      Toolchain.isExecutable_of_find (congrArg Prod.fst hfind), hmade⟩

/-- A build that succeeds has compiled its source and finished its output. -/
theorem run_succeeded (hemit : o.emit = .executable)
    (hrun : run (machine.host searchPath home) o fs = (r, fs')) (hr : r.result = .ok ()) :
    (∃ src code, fs.readText o.input = .ok src ∧ fs.sameFile o.input o.output = false ∧
      compile src = .ok code) ∧ Machine.Finished o.output fs' := by
  rcases run_executable hemit hrun with ⟨e, he, -⟩ | ⟨src, code, _, hsrc, hsame, hcompile, -, hmade⟩
  · cases hr.symm.trans he
  · rw [hr] at hmade
    exact ⟨⟨src, code, hsrc, hsame, hcompile⟩, hmade.finished⟩

/-- A build that fails changes nothing, or it could not write its object code, or nothing is left at
its output. -/
theorem run_failed {e : CompileError} (hemit : o.emit = .executable)
    (hrun : run (machine.host searchPath home) o fs = (r, fs')) (hr : r.result = .error e) :
    fs' = fs ∨ Machine.Unwritten machine fs fs' ∨ fs'.Gone o.output := by
  rcases run_executable hemit hrun with ⟨_, -, hsame⟩ | ⟨_, _, _, -, -, -, -, hmade⟩
  · exact .inl hsame
  · rw [hr] at hmade
    exact hmade.failed

/-- If nothing on the machine changes the directory where relative paths start, a build does not,
either. -/
theorem cwd_run (hemit : o.emit = .executable) (hmachine : machine.KeepsDirectory)
    (hrun : run (machine.host searchPath home) o fs = (r, fs')) : fs'.cwd = fs.cwd := by
  rcases run_executable hemit hrun with ⟨_, -, rfl⟩ | ⟨_, _, _, -, -, -, -, hmade⟩
  · rfl
  · exact hmade.cwd hmachine

end Build

end Looplet
