import Looplet.Proofs.FileSystem
import Looplet.Toolchain.Native

/-!
# Finding and running the driver

The driver is the first path tried that can be executed (`find_eq_ok`). Linking with it ends in one
of four ways (`Linked`), whatever the programs of the machine do. If it succeeds, the output leads
to an entry of the user that everybody may execute (`executable_of_link`).
-/

namespace Looplet.Toolchain

open FileSystem (hostWith Sets)

variable {searchPath home : String} {fs fs' : FileSystem} {driver object output : String}

/-! ## Finding -/

/-- The paths that are tried, in order. -/
def tried (cwd home searchPath : String) : Option String → List String
  | some name => candidates cwd home searchPath name
  | none => drivers.flatMap (candidates cwd home searchPath)

/-- The error if none of the paths can be executed. -/
def notFound : Option String → CompileError
  | some name => .toolchainNotFound name
  | none => .noToolchain drivers

section Host

variable {native : Code.Module → Option String → String →
  StateM FileSystem (Except CompileError Unit)}

theorem findM?_isExecutable (paths : List String) :
    paths.findM? (hostWith searchPath home native).isExecutable fs
      = (paths.find? fs.isExecutable, fs) := by
  induction paths with
  | nil => rfl
  | cons path paths ih =>
    rw [List.findM?, List.find?]
    cases hpath : fs.isExecutable path with
    | true =>
      simp only [hostWith, hpath, bind, StateT.bind]
      rfl
    | false => simpa [hostWith, hpath, bind, StateT.bind] using ih

/-- The first path that can be executed is the driver, and looking for it changes nothing. -/
theorem find_eq (name? : Option String) : find (hostWith searchPath home native) name? fs =
    (match (tried fs.cwdPath home searchPath name?).find? fs.isExecutable with
      | some driver => .ok driver
      | none => .error (notFound name?), fs) := by
  have hcwd : (hostWith searchPath home native).workingDirectory fs = (fs.cwdPath, fs) := rfl
  cases name?
  all_goals
    simp only [find, bind, StateT.bind, hcwd, findM?_isExecutable, tried]
    simp only [hostWith]
    generalize List.find? _ _ = driver?
    cases driver? <;> rfl

theorem find_eq_ok {name? : Option String} :
    (find (hostWith searchPath home native) name? fs).1 = .ok driver ↔
      (tried fs.cwdPath home searchPath name?).find? fs.isExecutable = some driver := by
  rw [find_eq]
  cases (tried fs.cwdPath home searchPath name?).find? fs.isExecutable <;> simp

theorem isExecutable_of_find {name? : Option String}
    (h : (find (hostWith searchPath home native) name? fs).1 = .ok driver) :
    fs.isExecutable driver = true :=
  List.find?_some (find_eq_ok.mp h)

end Host

/-! ## Linking -/

variable {programs : Programs} {args : List String} {ended : Ended}

theorem start_eq_ok : start programs args fs = .ok ended ↔
    (∀ a ∈ args, '\x00' ∉ a.toList) ∧ programs args fs = .ok ended := by
  have hzero : (args.any fun a => a.toList.contains '\x00') = true ↔
      ∃ a ∈ args, '\x00' ∈ a.toList := by
    simp
  rw [start]
  constructor
  · intro h
    split at h
    · cases h
    next hany => exact ⟨fun a ha hmem => hany (hzero.mpr ⟨a, ha, hmem⟩), h⟩
  · rintro ⟨hall, h⟩
    rw [if_neg, h]
    intro hany
    obtain ⟨a, ha, hmem⟩ := hzero.mp hany
    exact hall a ha hmem

/-- How linking can end: the driver cannot be started; it fails; it leaves nothing of the user at
the output; or what it leaves there is made executable. -/
inductive Linked (programs : Programs) (driver object output : String) (fs : FileSystem) :
    Except CompileError Unit → FileSystem → Prop where
  | notStarted {e : SystemError}
    (h : start programs (arguments driver object output) fs = .error e) :
    Linked programs driver object output fs (.error (.system driver e)) fs
  | failed {ended : Ended} (h : start programs (arguments driver object output) fs = .ok ended)
    (hstatus : ended.status ≠ .code 0) :
    Linked programs driver object output fs
      (.error (.toolchainFailed driver ended.status (Text.trim ended.errors))) ended.files
  | noOutput {ended : Ended} {e : SystemError}
    (h : start programs (arguments driver object output) fs = .ok ended)
    (hstatus : ended.status = .code 0)
    (hmode : ended.files.setMode output executableMode = .error e) :
    Linked programs driver object output fs (.error (.system output e)) ended.files
  | linked {ended : Ended} {files : FileSystem}
    (h : start programs (arguments driver object output) fs = .ok ended)
    (hstatus : ended.status = .code 0)
    (hmode : ended.files.setMode output executableMode = .ok files) :
    Linked programs driver object output fs (.ok ()) files

theorem linked_link (programs : Programs) (driver object output : String) (fs : FileSystem) :
    Linked programs driver object output fs (link programs driver object output fs).1
      (link programs driver object output fs).2 := by
  rw [link]
  cases hstart : start programs (arguments driver object output) fs with
  | error e => exact .notStarted hstart
  | ok ended =>
    dsimp only
    split
    · next hstatus =>
      cases hmode : ended.files.setMode output executableMode with
      | error e => exact .noOutput hstart hstatus hmode
      | ok files => exact .linked hstart hstatus hmode
    · next hstatus => exact .failed hstart hstatus

/-- After linking the output leads to what the driver left there, with the rights of an executable.
Nothing else is touched. -/
theorem executable_of_link (h : link programs driver object output fs = (.ok (), fs')) :
    ∃ ended p e, start programs (arguments driver object output) fs = .ok ended ∧
      ended.status = .code 0 ∧ ended.files.find output = .ok (p, e) ∧ e.own = true ∧
      fs'.find output = .ok (p, { e with mode := executableMode }) ∧
      ∀ q, q ≠ p → fs'.get? q = ended.files.get? q := by
  have hlinked := linked_link programs driver object output fs
  rw [h] at hlinked
  cases hlinked with
  | @linked ended _ hstart hstatus hmode =>
    obtain ⟨p, e, hfind, hown, hsets, hfind'⟩ :=
      FileSystem.find_setMode (fun a => by cases a <;> decide) hmode
    exact ⟨ended, p, e, hstart, hstatus, hfind, hown, hfind', hsets.get?_of_ne⟩

/-- No program changes the directory where relative paths start. -/
def Programs.KeepDirectory (programs : Programs) : Prop :=
  ∀ args fs ended, programs args fs = .ok ended → ended.files.cwd = fs.cwd

theorem cwd_link (hprograms : programs.KeepDirectory) :
    (link programs driver object output fs).2.cwd = fs.cwd := by
  have hstarted {ended : Ended}
      (h : start programs (arguments driver object output) fs = .ok ended) :
      ended.files.cwd = fs.cwd :=
    hprograms _ _ _ (start_eq_ok.mp h).2
  have hlinked := linked_link programs driver object output fs
  generalize link programs driver object output fs = r at hlinked ⊢
  obtain ⟨result, fs'⟩ := r
  cases hlinked with
  | notStarted => rfl
  | failed h => exact hstarted h
  | noOutput h => exact hstarted h
  | linked h _ hmode =>
    obtain ⟨_, _, -, -, hsets, -⟩ :=
      FileSystem.find_setMode (fun a => by cases a <;> decide) hmode
    exact hsets.cwd.trans (hstarted h)

end Looplet.Toolchain
