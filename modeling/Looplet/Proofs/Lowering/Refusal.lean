import Looplet.Proofs.Bound.Accesses
import Looplet.Proofs.Emission
import Looplet.Proofs.Lowering.Correctness

/-!
# What is refused

A bound program may be made by hand, with numbers and names of all kinds. It is refused exactly if
it has one of the defects that `Bound.Program.Defect` lists (`emitProgram_refused_iff`): a
declaration that nothing provides, a jump out of no loop around it, a slot that its function does
not have, a callee that is not there, or no main function. Places that nothing gets to count like
all others.
-/

namespace Looplet

namespace Bound

/-- Whether there is a built-in of that name with as many parameters. -/
def Declaration.isProvided (d : Declaration) : Bool :=
  (Builtin.find? d.name).any fun b => b.arity = d.params.length

/-- The program with those of its declarations that are provided. -/
def Program.provided (p : Program) : Program :=
  { p with declarations := p.declarations.filter Declaration.isProvided }

/-- What keeps a program from being lowered. -/
inductive Program.Defect (p : Program) : Prop where
  | unprovided {d : Declaration} (hd : d ∈ p.declarations) (h : d.isProvided = false)
  | strayJump {f : Function} {id : Nat} {around : List Nat} (hf : f ∈ p.functions)
    (hj : (id, around) ∈ Stmt.jumpsOfAll [] f.body) (h : id ∉ around)
  | noStorage {f : Function} {a : Access} (hf : f ∈ p.functions)
    (ha : a ∈ Stmt.accessesOfAll f.body) (h : ¬a.slot < f.slots.length)
  | undefined {f : Function} {name : String} {n : Nat} (hf : f ∈ p.functions)
    (hc : (.defined name, n) ∈ Stmt.callsOfAll f.body) (h : ∀ g ∈ p.functions, g.name ≠ name)
  | undeclared {f : Function} {name : String} {n : Nat} (hf : f ∈ p.functions)
    (hc : (.declared name, n) ∈ Stmt.callsOfAll f.body) (h : ∀ d ∈ p.declarations, d.name ≠ name)
  | noMain (h : ∀ f ∈ p.functions, f.name ≠ Lowering.mainName)

theorem Declaration.isProvided_iff {d : Declaration} :
    d.isProvided = true ↔ d.name = printName ∧ d.params.length = 1 := by
  unfold Declaration.isProvided
  cases h : Builtin.find? d.name with
  | none =>
    have hn : d.name ≠ printName := by
      intro hn
      rw [Lowering.builtin_find?_eq_some.mpr ⟨hn, rfl⟩] at h
      cases h
    simp [hn]
  | some b =>
    obtain ⟨hn, rfl⟩ := Lowering.builtin_find?_eq_some.mp h
    simp [hn, Builtin.printInt, eq_comm]

/-- Where all declarations are provided none is left out. -/
theorem Program.provided_eq {p : Program} (h : ∀ d ∈ p.declarations, d.isProvided = true) :
    p.provided = p := by
  rw [Program.provided, List.filter_eq_self.mpr h]

end Bound

namespace Lowering

open Looplet.Bound (Access)

variable {p : Bound.Program}

/-- A callee of a program whose declarations are all provided is known if it is there. -/
theorem knows_iff {bs : List Builtin} (hbs : builtinsOf p.declarations = .ok bs) {slots : Nat}
    (c : Bound.Callee) :
    Context.Knows ⟨p.functions.map Bound.Function.name, bs, 0, slots⟩ c ↔
      match c with
      | .defined name => ∃ g ∈ p.functions, g.name = name
      | .declared name => ∃ d ∈ p.declarations, d.name = name := by
  obtain ⟨hprint, rfl⟩ := builtinsOf_eq_ok.mp hbs
  unfold Context.Knows
  cases c with
  | defined name => simp only [symbol_defined, exists_and_left, exists_eq, and_true, List.mem_map]
  | declared name =>
    constructor
    · rintro ⟨symbol, h⟩
      obtain ⟨hne, rfl, -⟩ := (symbol_declared rfl).mp h
      obtain ⟨d, hd⟩ := List.exists_mem_of_ne_nil _ hne
      exact ⟨d, hd, (hprint d hd).1⟩
    · rintro ⟨d, hd, rfl⟩
      exact ⟨_, (symbol_declared rfl).mpr ⟨List.ne_nil_of_mem hd, (hprint d hd).1, rfl⟩⟩

/-- A program is lowered exactly if it has no defect. -/
theorem exists_lower_iff (h : (p.functions.map Bound.Function.name).Nodup) :
    (∃ m, lower p = .ok m) ↔ ¬p.Defect := by
  simp only [exists_lower h, Bound.Stmt.scopedAll_iff]
  constructor
  · rintro ⟨bs, hbs, hbodies, hmain⟩ hdefect
    cases hdefect with
    | unprovided hd hp =>
      rw [Bound.Declaration.isProvided_iff.mpr ((builtinsOf_eq_ok.mp hbs).1 _ hd)] at hp
      cases hp
    | strayJump hf hj hid => exact hid ((hbodies _ hf).1.2 _ hj)
    | noStorage hf ha hslot => exact hslot ((hbodies _ hf).1.1 _ ha)
    | undefined hf hc hname =>
      obtain ⟨g, hg, hgname⟩ := (knows_iff hbs _).mp ((hbodies _ hf).2 _ hc)
      exact hname g hg hgname
    | undeclared hf hc hname =>
      obtain ⟨d, hd, hdname⟩ := (knows_iff hbs _).mp ((hbodies _ hf).2 _ hc)
      exact hname d hd hdname
    | noMain hname =>
      obtain ⟨f, hf, hfname⟩ := List.mem_map.mp hmain
      exact hname f hf hfname
  · intro hsound
    have hprovided : ∀ d ∈ p.declarations, d.name = printName ∧ d.params.length = 1 := by
      intro d hd
      rw [← Bound.Declaration.isProvided_iff]
      by_contra hp
      exact hsound (.unprovided hd (Bool.eq_false_iff.mpr hp))
    have hbs := builtinsOf_eq_ok.mpr ⟨hprovided, rfl⟩
    refine ⟨_, hbs, fun f hf => ⟨⟨fun a ha => ?_, fun j hj => ?_⟩, fun c hc => ?_⟩, ?_⟩
    · by_contra hslot
      exact hsound (.noStorage hf ha hslot)
    · by_contra hid
      exact hsound (.strayJump hf hj hid)
    · rw [knows_iff hbs]
      obtain ⟨callee, n⟩ := c
      cases callee with
      | defined name =>
        by_contra hname
        exact hsound (.undefined hf hc fun g hg hgname => hname ⟨g, hg, hgname⟩)
      | declared name =>
        by_contra hname
        exact hsound (.undeclared hf hc fun d hd hdname => hname ⟨d, hd, hdname⟩)
    · by_contra hmain
      exact hsound (.noMain fun f hf hfname => hmain (hfname ▸ List.mem_map_of_mem hf))

/-- A program is refused exactly if it has a defect, whoever made it, as long as functions have
different names, and declarations too, calls pass what the functions and the declarations that are
provided take, and `main` takes nothing. The verifier may be any that accepts what programs are
lowered to. -/
theorem emitProgram_refused_iff {verify : Code.Module → Option String}
    (hverify : AcceptsLowered verify)
    (hfunctions : (p.functions.map Bound.Function.name).Nodup)
    (hdeclarations : (p.declarations.map Bound.Declaration.name).Nodup)
    (hcalls : p.provided.CallsMatch) (hmain : p.Accepts 0 (.defined mainName)) :
    (∃ r, emitProgram verify p = .error r) ↔ p.Defect := by
  constructor
  · rintro ⟨r, hr⟩
    by_contra hsound
    obtain ⟨m, hm⟩ := (exists_lower_iff hfunctions).mpr hsound
    have hprovided : ∀ d ∈ p.declarations, d.isProvided = true := by
      intro d hd
      by_contra hp
      exact hsound (.unprovided hd (Bool.eq_false_iff.mpr hp))
    rw [Bound.Program.provided_eq hprovided] at hcalls
    rw [emitProgram_eq_lower hverify hfunctions hdeclarations hcalls hmain, hm] at hr
    cases hr
  · intro hdefect
    cases hemit : emitProgram verify p with
    | error r => exact ⟨r, rfl⟩
    | ok m =>
      have hlower := (emitProgram_eq_ok.mp hemit).1
      exact absurd hdefect ((exists_lower_iff hfunctions).mp ⟨m, hlower⟩)

/-- A jump to a loop that has ended, behind a jump out of the loop after it. -/
def closedLoop : Bound.Program where
  functions :=
    [{ name := "main"
       params := 0
       slots := []
       loops := 2
       body :=
        [.loop 0 (.int 1) [.jump .leave 0], .loop 1 (.int 1) [.jump .leave 1, .jump .again 0],
          .expr (.call (.declared printName) [.int 1])] }]
  declarations := [⟨printName, ["x"], Position.start⟩]

theorem closedLoop_refused_twinLoops_sound :
    (∃ r, emitProgram lastVerified closedLoop = .error r) ∧ ¬twinLoops.Defect := by
  constructor
  · refine (emitProgram_refused_iff acceptsLowered_lastVerified (by decide) (by decide)
      (by decide +kernel) (by decide)).mpr ?_
    obtain ⟨f, hf, hjump⟩ : ∃ f ∈ closedLoop.functions,
        (0, [1]) ∈ Bound.Stmt.jumpsOfAll [] f.body := by
      decide
    exact .strayJump hf hjump (by decide)
  · rw [← emitProgram_refused_iff acceptsLowered_lastVerified (by decide) (by decide)
      (by decide +kernel) (by decide)]
    obtain ⟨m, hm⟩ : ∃ m, emitProgram lastVerified twinLoops = .ok m :=
      exists_ok (by decide +kernel)
    rintro ⟨r, hr⟩
    rw [hm] at hr
    cases hr

end Lowering

end Looplet
