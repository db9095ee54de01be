import Looplet.CommandLine
import Looplet.Proofs.Emission
import Looplet.Proofs.Toolchain

/-!
# A build is all or nothing

As long as no native code is written, a build over files writes one file, or it fails and writes
nothing (`run_all_or_nothing`). The file is the one that its output leads to, and it is written only
if the whole source compiles. A build compares the places of its source and of its output, so it
never writes its source, however the output is spelled. No verifier is asked about the module, but
one that accepts what programs are lowered to would change nothing (`compileAndWrite_eq`).

A command line that fails says why (`CommandLine.status_ne_zero_iff`), and if it does not ask for
native code it has changed nothing (`CommandLine.unchanged_of_status_ne_zero`).
-/

namespace Looplet.Build

open FileSystem (hostWith)

variable {searchPath home : String} {fs fs' : FileSystem} {o : Options}
  {native : Code.Module → Option String → String → StateM FileSystem (Except CompileError Unit)}

/-! ## Steps -/

/-- Writing without native code writes the text of the module, or it fails and changes nothing. -/
theorem writeModule_cases {code : Code.Module}
    (h : o.emit = .llvmIr ∨ (o.emit = .executable ∧
      ∃ e, (Toolchain.find (hostWith searchPath home native) o.toolchain? fs).1 = .error e)) :
    (∃ e events, writeModule (hostWith searchPath home native) o code fs
      = ((.error e, events), fs)) ∨
    ∃ written events, fs.write o.output code.text.toUTF8 = .ok written ∧
      writeModule (hostWith searchPath home native) o code fs = ((.ok (), events), written) := by
  rcases h with hemit | ⟨hemit, e, he⟩
  · simp only [writeModule, hemit, bind, StateT.bind]
    cases hwrite : fs.write o.output code.text.toUTF8 with
    | error e =>
      have hhost : (hostWith searchPath home native).writeText o.output code.text fs
          = (.error e, fs) := by
        simp only [hostWith, hwrite]
      rw [hhost]
      exact .inl ⟨.unwritable o.output e, [], rfl⟩
    | ok written =>
      have hhost : (hostWith searchPath home native).writeText o.output code.text fs
          = (.ok (), written) := by
        simp only [hostWith, hwrite]
      rw [hhost]
      exact .inr ⟨written, [], rfl, rfl⟩
  · have hfind : Toolchain.find (hostWith searchPath home native) o.toolchain? fs
        = (.error e, fs) :=
      Prod.ext he (by rw [Toolchain.find_eq])
    simp only [writeModule, hemit, bind, StateT.bind, hfind]
    exact .inl ⟨e, [], rfl⟩

/-- A build may as well ask a verifier about the module that it writes, if the verifier accepts what
programs are lowered to. -/
theorem compileAndWrite_eq {verify : Code.Module → Option String}
    (hverify : Lowering.AcceptsLowered verify) {m : Type → Type} [Monad m] (host : Host m)
    (o : Options) (src : String) :
    compileAndWrite host o src =
      match compileVerified verify src with
      | .error e => pure (.finished o (.error e) (compileEvents src))
      | .ok code => writeModule host o code >>= fun (result, events) =>
        pure (.finished o result (compileEvents src ++ events)) := by
  rw [compileVerified_eq_compile hverify]
  rfl

theorem result_finished (o : Options) (result : Except CompileError Unit) (events : List Event) :
    (Report.finished o result events).result = result := by
  cases result <;> rfl

/-- A build reads its source, and then looks where its output leads to. -/
theorem run_eq : run (hostWith searchPath home native) o fs =
    match fs.readText o.input with
    | .error e => (.refused (.system o.input e), fs)
    | .ok src =>
      if fs.sameFile o.input o.output then (.refused (.outputIsSource o.output), fs)
      else compileAndWrite (hostWith searchPath home native) o src fs := by
  cases hsrc : fs.readText o.input with
  | error e =>
    simp only [run, hostWith, hsrc, bind, StateT.bind]
    rfl
  | ok src =>
    cases hsame : fs.sameFile o.input o.output
    all_goals
      simp only [run, hostWith, hsrc, hsame, bind, StateT.bind]
      rfl

/-! ## Builds -/

/-- A build comes to an end before native code is written: its source cannot be read as text, its
output is the source, the source does not compile, or no driver is found that would link it. -/
inductive EndsEarly (host : Host (StateM FileSystem)) (fs : FileSystem) (o : Options) : Prop where
  | unreadable {e : SystemError} (h : fs.readText o.input = .error e)
  | outputIsSource (h : fs.sameFile o.input o.output = true)
  | rejected {src : String} {e : CompileError} (hsrc : fs.readText o.input = .ok src)
    (h : compile src = .error e)
  | noDriver {e : CompileError} (hemit : o.emit = .executable)
    (h : (Toolchain.find host o.toolchain? fs).1 = .error e)

/-- If the source compiles and is not the output, it is the driver that is missing. -/
theorem EndsEarly.exists_find {host : Host (StateM FileSystem)} (h : EndsEarly host fs o)
    {src : String} {code : Code.Module} (hsrc : fs.readText o.input = .ok src)
    (hsame : fs.sameFile o.input o.output = false) (hcompile : compile src = .ok code) :
    o.emit = .executable ∧ ∃ e, (Toolchain.find host o.toolchain? fs).1 = .error e := by
  cases h with
  | unreadable h => exact nomatch hsrc.symm.trans h
  | outputIsSource h => exact nomatch hsame.symm.trans h
  | rejected hsrc' h =>
    obtain rfl := Except.ok.inj (hsrc.symm.trans hsrc')
    exact nomatch hcompile.symm.trans h
  | noDriver hemit h => exact ⟨hemit, _, h⟩

/-- A build fails and changes nothing, or its source compiles and the module is written. -/
theorem run_writes {r : Report} (hrun : run (hostWith searchPath home native) o fs = (r, fs')) :
    (∃ e, r.result = .error e ∧ fs' = fs) ∨
      ∃ src code events, fs.readText o.input = .ok src ∧ fs.sameFile o.input o.output = false ∧
        compile src = .ok code ∧
          writeModule (hostWith searchPath home native) o code fs = ((r.result, events), fs') := by
  rw [run_eq] at hrun
  cases hsrc : fs.readText o.input with
  | error e =>
    simp only [hsrc] at hrun
    cases hrun
    exact .inl ⟨_, rfl, rfl⟩
  | ok src =>
    simp only [hsrc] at hrun
    split at hrun
    · cases hrun
      exact .inl ⟨_, rfl, rfl⟩
    next hsame =>
    rw [Bool.not_eq_true] at hsame
    rw [compileAndWrite] at hrun
    cases hcompile : compile src with
    | error e =>
      simp only [hcompile] at hrun
      cases hrun
      exact .inl ⟨_, rfl, rfl⟩
    | ok code =>
      simp only [hcompile, bind, StateT.bind] at hrun
      rcases hwrite : writeModule (hostWith searchPath home native) o code fs
        with ⟨⟨result, events⟩, files⟩
      rw [hwrite] at hrun
      cases hrun
      rw [result_finished]
      exact .inr ⟨src, code, events, rfl, hsame, hcompile, hwrite⟩

/-- A build that writes no native code writes the text of a module, or it fails and changes
nothing. -/
theorem run_cases {r : Report}
    (h : o.emit = .llvmIr ∨ EndsEarly (hostWith searchPath home native) fs o)
    (hrun : run (hostWith searchPath home native) o fs = (r, fs')) :
    (∃ e, r.result = .error e ∧ fs' = fs) ∨
      ∃ src code, fs.readText o.input = .ok src ∧ fs.sameFile o.input o.output = false ∧
        compile src = .ok code ∧ r.result = .ok () ∧
          fs.write o.output code.text.toUTF8 = .ok fs' := by
  rcases run_writes hrun with hfailed | ⟨src, code, events, hsrc, hsame, hcompile, hmodule⟩
  · exact .inl hfailed
  have hemit := h.imp_right fun hearly => hearly.exists_find hsrc hsame hcompile
  obtain ⟨result, reported⟩ := r
  rcases writeModule_cases hemit with ⟨e, _, hfails⟩ | ⟨written, _, hwrite, hwrites⟩
  · cases hmodule.symm.trans hfails
    exact .inl ⟨e, rfl, rfl⟩
  · cases hmodule.symm.trans hwrites
    exact .inr ⟨src, code, hsrc, hsame, hcompile, rfl, hwrite⟩

/-- A build that writes no native code changes nothing if it fails. If it succeeds, the file that
the output leads to holds the text of the compiled source, and everything else is as it was. The
source is found as before in any case. -/
theorem run_all_or_nothing {r : Report} (hplain : fs.Plain)
    (h : o.emit = .llvmIr ∨ EndsEarly (hostWith searchPath home native) fs o)
    (hrun : run (hostWith searchPath home native) o fs = (r, fs')) :
    (∀ e, r.result = .error e → fs' = fs) ∧
      (r.result = .ok () → ∃ src code t written,
        fs.readText o.input = .ok src ∧ compile src = .ok code ∧
          fs.locate o.output = .ok t ∧ fs'.find o.output = .ok (t.place, written) ∧
            written.content = .file code.text.toUTF8 ∧ fs'.cwd = fs.cwd ∧
              ∀ q, q ≠ t.place → fs'.get? q = fs.get? q) ∧
      fs'.find o.input = fs.find o.input := by
  rcases run_cases h hrun with ⟨e, hr, rfl⟩ | ⟨src, code, hsrc, hsame, hcompile, hr, hwrite⟩
  · refine ⟨fun _ _ => rfl, fun hok => ?_, rfl⟩
    rw [hr] at hok
    cases hok
  · obtain ⟨t, written, hlocate, hcontent, hsets⟩ := FileSystem.sets_of_write hplain hwrite
    obtain ⟨q, source, hsource⟩ := FileSystem.exists_find_of_readText hsrc
    refine ⟨fun e he => ?_, fun _ => ⟨src, code, t, written, hsrc, hcompile, hlocate,
      hsets.find_place hlocate, hcontent, hsets.cwd, hsets.get?_of_ne⟩, ?_⟩
    · rw [hr] at he
      cases he
    · -- the output is not the source, so it stands at another place, even if it is new
      rw [hsource]
      exact hsets.find hsource (FileSystem.ne_of_sameFile hsource hlocate hsame)

/-- A working directory with a source, an older output and another directory. -/
def workshop : FileSystem where
  entries :=
    [(["w"], FileSystem.ownDirectory), (["w", "a"], FileSystem.ownDirectory),
      (["w", "prog"], ⟨.file "func main() { }".toUTF8, 0o644, true⟩),
      (["w", "out"], ⟨.file "old".toUTF8, 0o755, true⟩)]
  cwd := ["w"]

/-- A build of its source, with an output that is spelled with dots and slashes. -/
def workshopBuild (name : String) (emit : Emit) : Options :=
  ⟨"prog", "a/..//./" ++ name, emit, none, .warn⟩

/-- Such a build where no toolchain is at hand. -/
def workshopRun (name : String) (emit : Emit) : Report × FileSystem :=
  run (hostWith "" noHome noNative) (workshopBuild name emit) workshop

theorem workshop_all_or_nothing :
    workshop.Plain ∧
      (∃ r fs' code written, workshopRun "out" .llvmIr = (r, fs') ∧ r.result = .ok () ∧
        compile "func main() { }" = .ok code ∧
          fs'.find "a/..//./out" = .ok (["w", "out"], written) ∧
            written.content = .file code.text.toUTF8 ∧ fs'.find "prog" = workshop.find "prog") ∧
      ∃ r e, workshopRun "prog" .executable = (r, workshop) ∧ r.result = .error e := by
  have hplain : workshop.Plain := by
    intro place e h d
    simp only [workshop, List.mem_cons, Prod.mk.injEq, List.not_mem_nil, or_false] at h
    rcases h with ⟨-, rfl⟩ | ⟨-, rfl⟩ | ⟨-, rfl⟩ | ⟨-, rfl⟩ <;> rintro ⟨⟩
  refine ⟨hplain, ?_, ?_⟩
  · have hok : (workshopRun "out" .llvmIr).1.result.isOk = true := by decide +kernel
    have htext : (workshop.readText (workshopBuild "out" .llvmIr).input).toOption
        = some "func main() { }" := by
      decide +kernel
    have hplace : (workshop.locate (workshopBuild "out" .llvmIr).output).toOption.map
        FileSystem.Target.place = some ["w", "out"] := by
      decide +kernel
    obtain ⟨⟨r, fs'⟩, hrun⟩ : ∃ ended, workshopRun "out" .llvmIr = ended := ⟨_, rfl⟩
    rw [hrun] at hok
    obtain ⟨⟨⟩, hr⟩ := exists_ok hok
    have hemit : (workshopBuild "out" .llvmIr).emit = .llvmIr := rfl
    obtain ⟨-, hwritten, hsource⟩ := run_all_or_nothing hplain (.inl hemit) hrun
    obtain ⟨src, code, t, written, hsrc, hcompile, hlocate, hfind, hcontent, -, -⟩ := hwritten hr
    rw [hsrc] at htext
    obtain rfl := Option.some.inj htext
    rw [hlocate] at hplace
    rw [Option.some.inj hplace] at hfind
    exact ⟨r, fs', code, written, hrun, hr, hcompile, hfind, hcontent, hsource⟩
  · have hok : (workshopRun "prog" .executable).1.result.isOk = false := by decide +kernel
    obtain ⟨⟨r, fs'⟩, hrun⟩ : ∃ ended, workshopRun "prog" .executable = ended := ⟨_, rfl⟩
    rw [hrun] at hok
    have hearly : EndsEarly (hostWith "" noHome noNative) workshop
        (workshopBuild "prog" .executable) :=
      .outputIsSource (by decide +kernel)
    obtain ⟨hsame, -, -⟩ := run_all_or_nothing hplain (.inr hearly) hrun
    cases hr : r.result with
    | ok u => simp [hr, Except.isOk, Except.toBool] at hok
    | error e => exact ⟨r, e, by rw [hrun, hsame e hr], hr⟩

end Looplet.Build

/-! ## Command lines -/

namespace Looplet.CommandLine

open FileSystem (hostWith)

variable {searchPath home : String} {fs fs' : FileSystem} {args : List String} {env : Environment}
  {outcome : Outcome}
  {native : Code.Module → Option String → String → StateM FileSystem (Except CompileError Unit)}

theorem run_cases (hrun : run (hostWith searchPath home native) args env fs = (outcome, fs')) :
    (∃ e, outcome = misuse e ∧ fs' = fs) ∨ (outcome = help ∧ fs' = fs) ∨
      ∃ o r, Command.ofArguments args env = .ok (.build o) ∧
        Build.run (hostWith searchPath home native) o fs = (r, fs') ∧ outcome = built o r := by
  rw [run] at hrun
  rcases hcommand : Command.ofArguments args env with e | (_ | o)
  · rw [hcommand] at hrun
    cases hrun
    exact .inl ⟨e, rfl, rfl⟩
  · rw [hcommand] at hrun
    cases hrun
    exact .inr (.inl ⟨rfl, rfl⟩)
  · rcases hbuild : Build.run (hostWith searchPath home native) o fs with ⟨r, files⟩
    simp only [hcommand, bind, StateT.bind, hbuild] at hrun
    cases hrun
    exact .inr (.inr ⟨o, r, rfl, hbuild, rfl⟩)

/-- A command line fails if and only if it has something to say on its error output. -/
theorem status_ne_zero_iff
    (hrun : run (hostWith searchPath home native) args env fs = (outcome, fs')) :
    outcome.status ≠ 0 ↔ outcome.errors ≠ "" := by
  rcases run_cases hrun with ⟨e, rfl, -⟩ | ⟨rfl, -⟩ | ⟨o, r, -, -, rfl⟩
  · simp [misuse]
  · simp [help]
  · rw [built]
    split <;> simp

/-- A command line that fails has changed nothing, if it asks for the text of a module or for no
build at all. -/
theorem unchanged_of_status_ne_zero
    (hemit : ∀ o, Command.ofArguments args env = .ok (.build o) → o.emit = .llvmIr)
    (hrun : run (hostWith searchPath home native) args env fs = (outcome, fs'))
    (hstatus : outcome.status ≠ 0) : fs' = fs := by
  rcases run_cases hrun with ⟨-, -, hsame⟩ | ⟨-, hsame⟩ | ⟨o, r, hcommand, hbuild, rfl⟩
  · exact hsame
  · exact hsame
  · rcases Build.run_cases (.inl (hemit o hcommand)) hbuild with
      ⟨-, -, hsame⟩ | ⟨_, _, -, -, -, hr, -⟩
    · exact hsame
    · rw [built, hr] at hstatus
      exact absurd rfl hstatus

end Looplet.CommandLine
