import Looplet.Proofs.Code.Behavior
import Looplet.Proofs.Lowering.Execution
import Looplet.Proofs.Lowering.Program

/-!
# Lowered programs do what the programs mean

    emitProgram verify p = .ok m → m.Follows p.run           (emitProgram_follows)

for programs made by any means, if names are different, calls match and `main` takes no arguments.
A call of a function pays for one unit of the budget, so calls are realized by induction on it
(`answers`): the cells are made and filled, the body is realized, and zero is given back.
-/

namespace Looplet.Lowering

open Code (Operand Instr Block Frame Machine Steps Realizes)
open Draft

variable {m : Code.Module} {k : Nat} {callers : List (Nat × Frame)} {rest : List Instr}

/-! ## Cells -/

/-- What the cell of slot `slot` starts with. -/
def startWord (f : Bound.Function) (args : List Int64) (slot : Nat) : Int64 :=
  if slot < f.params then args.getD slot 0 else 0

theorem word?_initialValue {f : Bound.Function} {slot : Nat} {o : Operand}
    (h : initialValue f.params f slot = .ok o) {g : Frame} (hg : g.args.length = f.params) :
    g.word? o = some (startWord f g.args slot) := by
  unfold initialValue at h
  split at h
  · next hs =>
    cases h
    simp [Frame.word?, Frame.operand?, startWord, hs, hg]
  · next hs =>
    cases h
    simp [startWord, hs]

/-- The cells that are there, and the values that stand for them. -/
structure Stored (f : Bound.Function) (base k : Nat) (ws : List Int64) (g : Frame) : Prop where
  args : g.args = ws
  cells : g.cells.toList = (List.range k).map (startWord f ws)
  storage : ∀ slot < k, g.operand? (.value (base + slot)) = some (.cell slot)

theorem Stored.size {f : Bound.Function} {base k : Nat} {args : List Int64} {g : Frame}
    (h : Stored f base k args g) : g.cells.size = k := by
  rw [← Array.length_toList, h.cells, List.length_map, List.length_range]

/-- One more cell is made and filled. -/
theorem store_steps {f : Bound.Function} {base k : Nat} {args : List Int64} {g : Frame}
    {o : Operand} (h : Stored f base k args g) (hargs : args.length = f.params)
    (ho : initialValue f.params f k = .ok o) (slot : String) (callers : List (Nat × Frame))
    (rest : List Instr) :
    ∃ g', Steps m 2 ⟨g.goOn (.define (base + k) slot .alloca ::
        .store o (.value (base + k)) :: rest), callers⟩ [] ⟨g'.goOn rest, callers⟩ ∧
      g'.blocks = g.blocks ∧ Stored f base (k + 1) args g' := by
  let g₁ : Frame := Frame.define { g with cells := g.cells.push 0 } (base + k) (.cell g.cells.size)
  have hw : g₁.word? o = some (startWord f args k) := by
    rw [word?_initialValue ho (g := g₁) (by rw [← hargs, ← h.args]; rfl), ← h.args]
    rfl
  have hc : g₁.cell? (.value (base + k)) = some k := by
    have hself : g₁.operand? (.value (base + k)) = some (.cell g.cells.size) := by
      rw [Frame.operand?_define, if_pos rfl]
    rw [Frame.cell?, hself, h.size]
    exact if_pos (by simp [g₁, Frame.define, h.size])
  have hfill : (g₁.cells.setIfInBounds k (startWord f args k)).toList
      = (List.range (k + 1)).map (startWord f args) := by
    have hlen : g.cells.toList.length = k := by rw [Array.length_toList, h.size]
    rw [Array.toList_setIfInBounds, List.range_succ, List.map_append, ← h.cells]
    show (g.cells.push 0).toList.set k _ = _
    rw [Array.toList_push, List.set_append_right _ _ (by omega), hlen, Nat.sub_self]
    rfl
  refine ⟨{ g₁ with cells := g₁.cells.setIfInBounds k (startWord f args k) },
    (Steps.one (Machine.step_define rfl)).trans (.one (Machine.step_store hw hc)), rfl,
    h.args, hfill, ?_⟩
  intro slot hslot
  show g₁.operand? (.value (base + slot)) = _
  rw [Frame.operand?_define]
  by_cases hs : slot = k
  · rw [if_pos (by omega), h.size, hs]
  · rw [if_neg (by omega)]
    exact h.storage slot (by omega)

/-- All cells are made and filled. -/
theorem cells_steps {f : Bound.Function} {base : Nat} {args : List Int64}
    (hargs : args.length = f.params) (callers : List (Nat × Frame)) (rest : List Instr) :
    (slots : List String) → {k : Nat} → {is : List Instr} → {g : Frame} →
    cells f.params f base k slots = .ok is → Stored f base k args g →
    ∃ n g', Steps m n ⟨g.goOn (is ++ rest), callers⟩ [] ⟨g'.goOn rest, callers⟩ ∧
      g'.blocks = g.blocks ∧ Stored f base (k + slots.length) args g'
  | [], k, is, g, h, hg => by
    cases h
    exact ⟨0, g, .refl _, rfl, hg⟩
  | slot :: slots, k, is, g, h, hg => by
    obtain ⟨o, ho, more, hmore, rfl⟩ := cells_cons.mp h
    obtain ⟨g₁, hs₁, hb₁, hg₁⟩ := store_steps (m := m) hg hargs ho slot callers (more ++ rest)
    obtain ⟨n, g₂, hs₂, hb₂, hg₂⟩ := cells_steps hargs callers rest slots hmore hg₁
    refine ⟨2 + n, g₂, hs₁.trans hs₂, hb₂.trans hb₁, ?_⟩
    rw [List.length_cons, Nat.add_comm slots.length 1, ← Nat.add_assoc]
    exact hg₂

/-! ## Calls -/

/-- A function that is entered is realized: it comes to where it gives zero back. -/
theorem function_realizes {names : List String} {builtins : List Builtin} {f : Bound.Function}
    {callee : Code.Function} {call : Bound.Calls} {accepts : Nat → Bound.Callee → Prop}
    {args : List Int64} (hf : Lowered names builtins f callee) (hargs : args.length = f.params)
    (hcall : Answers m k ⟨names, builtins, 0, f.slots.length⟩ accepts call)
    (ha : ∀ c ∈ Bound.Stmt.callsOfAll f.body, accepts c.2 c.1) (callers : List (Nat × Frame)) :
    ∃ g, Frame.enter? callee args = some g ∧
      Realizes m k ⟨g, callers⟩ (f.run call k args) fun w s => w = 0 ∧
        ∃ (g' : Frame) (more : List Instr),
          s = ⟨g'.goOn (.ret (.const 0) :: more), callers⟩ := by
  obtain ⟨d, hd, rfl⟩ := hf
  obtain ⟨is, his, d₁, h₁, rfl⟩ := body_eq_ok.mp hd
  let d₀ := Draft.enter .empty f.slots.length is
  let B := (d₁.push [.ret (.const 0)]).blocks
  have hlive : d₀.Live := live_enter .empty f.slots.length (cells_straight his)
  obtain ⟨hlive₁, hgrows⟩ := stmts_grows f.body hlive h₁
  have hB₁ : Extends d₁.blocks B := extends_push d₁ _
  have hentry : d₀.blocks[0]? = some ⟨"entry", is⟩ := rfl
  obtain ⟨more, hfirst⟩ := (hgrows.blocks.trans hB₁) 0 _ hentry
  have hrest : d₀.rest B = more := by
    simp only [Draft.rest, show d₀.current = 0 from rfl, codeAt_of_getElem? hentry,
      codeAt_of_getElem? hfirst, List.drop_left]
  refine ⟨_, Frame.enter?_eq_some hfirst args, ?_⟩
  have hstart : Stored f 0 0 args ⟨B, is ++ more, args, #[], #[]⟩ :=
    ⟨rfl, rfl, fun j hj => absurd hj (Nat.not_lt_zero j)⟩
  obtain ⟨n, g₁, hs, hb, hg₁⟩ := cells_steps (m := m) hargs callers more f.slots his hstart
  rw [Nat.zero_add] at hg₁
  have hholds : Holds ⟨names, builtins, 0, f.slots.length⟩ (f.cells args) g₁ :=
    ⟨hg₁.cells, by simp [Bound.Function.cells], hg₁.storage⟩
  have hrun : Realizes m k ⟨g₁.goOn more, callers⟩ (Bound.Stmt.execAll call k f.body (f.cells args))
      (Lands ⟨names, builtins, 0, f.slots.length⟩ B [] d₁ callers) := by
    rw [← hrest]
    have hready : Ready ⟨names, builtins, 0, f.slots.length⟩ [] d₀ :=
      ⟨hlive, fun l hl => absurd hl List.not_mem_nil, by simp [d₀, enter, Draft.empty]⟩
    exact stmts_realizes hcall f.body hready h₁ hB₁ ha ⟨hholds, hb⟩
  have hsteps := Realizes.steps hs hrun
  rw [Outcome.after_nil] at hsteps
  refine (hsteps.mono (Nat.le_add_left k n)).bind ?_
  rintro ⟨signal, cs⟩ _ ⟨g₂, code, hland, rfl, -⟩
  cases signal with
  | next =>
    simp only [landing, Option.some.injEq] at hland
    subst hland
    rw [rest_push hlive₁.lt _ (Extends.refl _)]
    exact .pure ⟨rfl, g₂, _, rfl⟩
  | jump j id => cases hland

/-- The built-in prints its argument and gives zero back. -/
theorem printInt_steps {g : Frame} {n : Nat} {hint : String} {args : List Operand} {w : Int64}
    (hm : m.function? Builtin.printInt.symbol = some Builtin.printInt.function)
    (hp : m.printsWord Builtin.wordFormat.name = true) (hargs : g.words? args = some [w]) :
    Steps m 3 ⟨g.goOn (.define n hint (.call Builtin.printInt.symbol args) :: rest), callers⟩ [w]
      ⟨(g.define n (.word 0)).goOn rest, callers⟩ := by
  let g₀ : Frame := ⟨Builtin.printInt.blocks, [], [w], #[], #[]⟩
  let g₁ : Frame := g₀.goOn
    [.define 0 "" (.call Code.printf [.global Builtin.wordFormat.name, .param 0]), .ret (.const 0)]
  refine .cons (Machine.step_call (g := g₁) (by decide) hm hargs rfl) ?_
  exact .cons (Machine.step_print (f := g₀) (w := w) rfl rfl hp) (.one (Machine.step_ret rfl))

variable {p : Bound.Program} {builtins : List Builtin} {gs : List Code.Function}

/-- Calls of the program are realized on every budget. -/
theorem answers (hds : builtinsOf p.declarations = .ok builtins)
    (hgs : List.Forall₂ (Lowered (p.functions.map Bound.Function.name) builtins) p.functions gs)
    (hp : p.CallsMatch) (budget base slots : Nat) :
    Answers (moduleOf builtins gs) budget
      ⟨p.functions.map Bound.Function.name, builtins, base, slots⟩ p.Accepts (p.call budget) := by
  induction budget generalizing base slots with
  | zero => exact fun _ _ _ _ _ _ _ _ _ _ _ _ => .unfinished
  | succ budget ih =>
    intro callee symbol ws hs ha g callers n hint args rest hw
    cases callee with
    | declared name =>
      obtain ⟨hd, rfl⟩ := builtinsOf_eq_ok.mp hds
      obtain ⟨hne, rfl, rfl⟩ := (symbol_declared rfl).mp hs
      obtain ⟨d, hmem⟩ := List.exists_mem_of_ne_nil _ hne
      have hlen : ws.length = 1 := (ha d hmem (hd d hmem).1).symm.trans (hd d hmem).2
      obtain ⟨w, rfl⟩ := List.length_eq_one_iff.mp hlen
      exact ⟨3, _, printInt_steps (function?_printInt hmem) (printsWord_wordFormat hmem) hw, rfl⟩
    | defined name =>
      obtain ⟨hname, rfl⟩ := symbol_defined.mp hs
      obtain ⟨f', hf', rfl⟩ := List.mem_map.mp hname
      obtain ⟨f, hf⟩ : ∃ f, p.function? f'.name = some f :=
        Option.isSome_iff_exists.mp (List.find?_isSome.mpr ⟨f', hf', by simp⟩)
      have hmem : f ∈ p.functions := List.mem_of_find?_eq_some hf
      have hfname : f.name = f'.name := by simpa using List.find?_some hf
      have hlen : ws.length = f.params := (ha f hmem hfname).symm
      obtain ⟨callee, hcallee, hl⟩ := function?_defined hds hgs hf
      obtain ⟨g₀, henter, hrun⟩ := function_realizes hl hlen (ih 0 f.slots.length) (hp f hmem)
        ((n, g.goOn rest) :: callers)
      simp only [Bound.Program.call, hf, hlen, if_true]
      refine .step (Machine.step_call (functionSymbol_ne_printf f'.name) hcallee hw henter)
        (hrun.andThen ?_)
      rintro w s ⟨rfl, g', more, rfl⟩
      exact ⟨1, _, .one (Machine.step_ret rfl), rfl⟩

/-! ## Programs -/

/-- The module follows the program. -/
theorem lower_follows {p : Bound.Program} {m : Code.Module}
    (hnames : (p.functions.map Bound.Function.name).Nodup) (hcalls : p.CallsMatch)
    (hmain : p.Accepts 0 (.defined mainName)) (hm : lower p = .ok m) : m.Follows p.run := by
  obtain ⟨bs, hbs, gs, hgs, hname, rfl⟩ := (lower_eq_ok hnames).mp hm
  let g : Frame := ⟨entry.blocks, [], [], #[], #[]⟩
  have hstart : Machine.start? (moduleOf bs gs) = some ⟨g.goOn
      [.define 0 "" (.call (Code.functionSymbol mainName) []), .ret (.const 0)], []⟩ := by
    simp only [Machine.start?, function?_entry hbs hgs]
    rfl
  refine Code.follows_of_realizes hstart fun budget => ?_
  refine (answers hbs hgs hcalls budget 0 0 (.defined mainName) _ [] (symbol_defined.mpr
    ⟨hname, rfl⟩) hmain g [] 0 "" [] [.ret (.const 0)] rfl).imp ?_
  rintro w _ rfl
  exact Machine.step_ret rfl

/-- A program made by any means and lowered does what it means, if functions have different names,
calls pass as many arguments as there are parameters, and `main` has none: it ends where the program
ends and runs forever where the program does, with the same lines printed, and is never stuck.
Names of declarations may repeat. -/
theorem emitProgram_follows {verify : Code.Module → Option String} {p : Bound.Program}
    {m : Code.Module} (hnames : (p.functions.map Bound.Function.name).Nodup)
    (hcalls : p.CallsMatch) (hmain : p.Accepts 0 (.defined mainName))
    (hm : emitProgram verify p = .ok m) : m.Follows p.run :=
  lower_follows hnames hcalls hmain (emitProgram_eq_ok.mp hm).1

/-- Two loops of one number, one in the other, two slots of one name, and code after a jump. -/
def twinLoops : Bound.Program where
  functions :=
    [{ name := "main"
       params := 0
       slots := ["x", "x"]
       loops := 0
       body :=
        [.store 0 (.int (-3)),
          .loop 7 (.load 0)
            [.store 0 (.binary .add (.load 0) (.int 1)),
              .loop 7 (.int 1)
                [.expr (.call (.declared printName) [.load 0]), .jump .leave 7,
                  .ifElse (.int 1) [.jump .again 7] [.loop 7 (.int 1) []]],
              .store 1 (.load 0)],
          .expr (.call (.declared printName) [.load 1])] }]
  declarations := [⟨printName, ["x"], Position.start⟩]

theorem twinLoops_halts :
    ∃ m, emitProgram (fun _ => none) twinLoops = .ok m ∧ m.Halts 0 "-2\n-1\n0\n0\n" := by
  obtain ⟨m, hm⟩ : ∃ m, emitProgram (fun _ => none) twinLoops = .ok m :=
    exists_ok (by decide +kernel)
  have hf := emitProgram_follows (by decide) (by decide) (by decide) hm
  have hends : Ends twinLoops.run "-2\n-1\n0\n0\n" :=
    ⟨5, [-2, -1, 0, 0], 0, rfl, by decide +kernel⟩
  exact ⟨m, hm, (hf.halts _).mp hends⟩

end Looplet.Lowering
