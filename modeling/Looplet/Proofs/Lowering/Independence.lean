import Looplet.Proofs.Lowering.Program

/-!
# Functions are lowered independently

Of the program around it the code of a function holds only the symbols of callees. A callee has the
same symbol wherever it has one (`Context.Agrees`), and no state is left from one function to the
next. So a function that is lowered in two programs is lowered to the same code (`lowered_unique`),
and that is all that either module has under its symbol (`emitProgram_same_code`).
-/

namespace Looplet.Lowering

variable {ctx ctx' : Context}

/-- Cells and callees are the same in both contexts, as far as both have them. -/
structure Context.Agrees (ctx ctx' : Context) : Prop where
  cell : ∀ slot, Concur (ctx.cell slot) (ctx'.cell slot)
  symbol : ∀ callee, Concur (ctx.symbol callee) (ctx'.symbol callee)

/-- Built-ins that declarations are given have one symbol, so contexts with the same cells agree. -/
theorem Context.agrees_of_builtinsOf {names names' : List String} {bs bs' : List Builtin}
    {ds ds' : List Bound.Declaration} (hbs : builtinsOf ds = .ok bs)
    (hbs' : builtinsOf ds' = .ok bs') (base slots : Nat) :
    Context.Agrees ⟨names, bs, base, slots⟩ ⟨names', bs', base, slots⟩ := by
  obtain ⟨-, rfl⟩ := builtinsOf_eq_ok.mp hbs
  obtain ⟨-, rfl⟩ := builtinsOf_eq_ok.mp hbs'
  refine ⟨fun slot => .refl _, fun callee s s' hs hs' => ?_⟩
  cases callee with
  | declared n =>
    obtain ⟨-, -, rfl⟩ := (symbol_declared rfl).mp hs
    obtain ⟨-, -, rfl⟩ := (symbol_declared rfl).mp hs'
    rfl
  | defined n =>
    obtain ⟨-, rfl⟩ := symbol_defined.mp hs
    obtain ⟨-, rfl⟩ := symbol_defined.mp hs'
    rfl

/-! ## Expressions and statements -/

mutual

theorem expr_concur (h : ctx.Agrees ctx') (next : Nat) : (e : Bound.Expr) →
    Concur (expr ctx next e) (expr ctx' next e)
  | .int v => .refl _
  | .load slot => by
    rw [expr, expr]
    exact (h.cell slot).bind fun _ => .refl _
  | .binary op l r => by
    rw [expr, expr]
    exact (expr_concur h next l).bind fun fl => (expr_concur h fl.next r).bind fun _ => .refl _
  | .call callee args => by
    rw [expr, expr]
    exact (h.symbol callee).bind fun _ => (exprs_concur h next args).bind fun _ => .refl _

theorem exprs_concur (h : ctx.Agrees ctx') (next : Nat) : (es : List Bound.Expr) →
    Concur (exprs ctx next es) (exprs ctx' next es)
  | [] => .refl _
  | e :: es => by
    rw [exprs, exprs]
    exact (expr_concur h next e).bind fun f => (exprs_concur h f.next es).bind fun _ => .refl _

end

theorem condition_concur (h : ctx.Agrees ctx') (next : Nat) (c : Bound.Expr) :
    Concur (condition ctx next c) (condition ctx' next c) :=
  (expr_concur h next c).bind fun _ => .refl _

mutual

theorem stmt_concur (h : ctx.Agrees ctx') (loops : List OpenLoop) (d : Draft) :
    (s : Bound.Stmt) → Concur (stmt ctx loops d s) (stmt ctx' loops d s)
  | .store slot e => by
    rw [stmt, stmt]
    exact (expr_concur h d.next e).bind fun _ => (h.cell slot).bind fun _ => .refl _
  | .ifElse c t e => by
    rw [stmt, stmt]
    refine (condition_concur h d.next c).bind fun f => ?_
    refine Concur.bind (.refl _) fun d₁ => Concur.bind (.refl _) fun d₂ => ?_
    refine Concur.bind (.refl _) fun d₃ => ?_
    refine (stmts_concur h loops _ t).bind fun d₄ => Concur.bind (.refl _) fun d₅ => ?_
    exact (stmts_concur h loops _ e).bind fun d₆ => .refl _
  | .loop id c body => by
    rw [stmt, stmt]
    refine Concur.bind (.refl _) fun d₁ => Concur.bind (.refl _) fun d₂ => ?_
    refine (condition_concur h _ c).bind fun f => ?_
    refine Concur.bind (.refl _) fun d₃ => Concur.bind (.refl _) fun d₄ => ?_
    exact (stmts_concur h _ _ body).bind fun d₅ => .refl _
  | .jump j id => by
    rw [stmt, stmt]
    exact .refl _
  | .expr e => by
    rw [stmt, stmt]
    exact (expr_concur h d.next e).bind fun _ => .refl _

theorem stmts_concur (h : ctx.Agrees ctx') (loops : List OpenLoop) (d : Draft) :
    (ss : List Bound.Stmt) → Concur (stmts ctx loops d ss) (stmts ctx' loops d ss)
  | [] => .refl _
  | s :: ss => by
    rw [stmts, stmts]
    exact (stmt_concur h loops d s).bind fun d₁ => stmts_concur h loops d₁ ss

end

/-! ## Functions -/

/-- A function is lowered to one code at most, whatever the program around it. -/
theorem lowered_unique {names names' : List String} {bs bs' : List Builtin}
    {ds ds' : List Bound.Declaration} (hbs : builtinsOf ds = .ok bs)
    (hbs' : builtinsOf ds' = .ok bs') {f : Bound.Function} {g g' : Code.Function}
    (h : Lowered names bs f g) (h' : Lowered names' bs' f g') : g = g' := by
  obtain ⟨d, hd, rfl⟩ := h
  obtain ⟨d', hd', rfl⟩ := h'
  have hbody : Concur (body names bs f.params .empty f) (body names' bs' f.params .empty f) := by
    rw [body, body]
    refine Concur.bind (.refl _) fun is => ?_
    refine (stmts_concur ?_ [] _ f.body).bind fun d => .refl _
    exact Context.agrees_of_builtinsOf hbs hbs' _ _
  rw [hbody d d' hd hd']

/-! ## Programs -/

/-- The code that a module has under the symbol of a function of the program. -/
def codeOf (m : Code.Module) (name : String) : List Code.Function :=
  m.functions.filter fun g => g.symbol = Code.functionSymbol name

theorem Lowered.symbol {names : List String} {bs : List Builtin} {f : Bound.Function}
    {g : Code.Function} (h : Lowered names bs f g) : g.symbol = Code.functionSymbol f.name := by
  obtain ⟨d, -, rfl⟩ := h
  rfl

/-- Built-ins and the entry have other symbols than the functions of a program. -/
theorem codeOf_moduleOf {ds : List Bound.Declaration} {bs : List Builtin}
    (hbs : builtinsOf ds = .ok bs) (gs : List Code.Function) (name : String) :
    codeOf (moduleOf bs gs) name = gs.filter fun g => g.symbol = Code.functionSymbol name := by
  obtain ⟨-, rfl⟩ := builtinsOf_eq_ok.mp hbs
  have hbuiltin : Builtin.printInt.function.symbol ≠ Code.functionSymbol name :=
    (functionSymbol_ne_printInt name).symm
  have hentry : entry.symbol ≠ Code.functionSymbol name := (functionSymbol_ne_entry name).symm
  simp [codeOf, moduleOf, hbuiltin, hentry]

/-- Where functions have different names a symbol stands for the code of one of them. -/
theorem filter_lowered {names : List String} {bs : List Builtin} {fs : List Bound.Function}
    {gs : List Code.Function} (h : List.Forall₂ (Lowered names bs) fs gs)
    (hn : (fs.map Bound.Function.name).Nodup) {f : Bound.Function} (hf : f ∈ fs) :
    ∃ g, gs.filter (fun g => g.symbol = Code.functionSymbol f.name) = [g] ∧
      Lowered names bs f g := by
  induction h with
  | nil => cases hf
  | @cons f' g' fs gs hl hrest ih =>
    rw [List.map_cons, List.nodup_cons] at hn
    rcases List.mem_cons.mp hf with rfl | hf
    · refine ⟨g', ?_, hl⟩
      have hothers : gs.filter (fun g => g.symbol = Code.functionSymbol f.name) = [] := by
        rw [List.filter_eq_nil_iff]
        intro g hg hsymbol
        obtain ⟨f', hf', hl'⟩ := exists_of_mem_right hrest hg
        rw [hl'.symbol, decide_eq_true_iff] at hsymbol
        exact hn.1 (functionSymbol_injective hsymbol ▸ List.mem_map_of_mem hf')
      rw [List.filter_cons_of_pos (by simpa using hl.symbol), hothers]
    · have hne : g'.symbol ≠ Code.functionSymbol f.name := fun hsymbol =>
        hn.1 (functionSymbol_injective (hl.symbol.symm.trans hsymbol) ▸ List.mem_map_of_mem hf)
      rw [List.filter_cons_of_neg (by simpa using hne)]
      exact ih hn.2 hf

variable {verify verify' : Code.Module → Option String} {p q : Bound.Program} {m m' : Code.Module}

/-- In a program that is lowered every function has one code. -/
theorem exists_codeOf (hn : (p.functions.map Bound.Function.name).Nodup)
    (hm : emitProgram verify p = .ok m) {f : Bound.Function} (hf : f ∈ p.functions) :
    ∃ bs g, builtinsOf p.declarations = .ok bs ∧ codeOf m f.name = [g] ∧
      Lowered (p.functions.map Bound.Function.name) bs f g := by
  obtain ⟨bs, hbs, gs, hgs, -, rfl⟩ := (lower_eq_ok hn).mp (emitProgram_eq_ok.mp hm).1
  obtain ⟨g, hg, hl⟩ := filter_lowered hgs hn hf
  exact ⟨bs, g, hbs, (codeOf_moduleOf hbs gs f.name).trans hg, hl⟩

/-- A function that stands in two programs has the same code in both, blocks with their names,
numbers of values and instructions, whatever other functions and declarations they have and wherever
it stands among them. -/
theorem emitProgram_same_code (hp : (p.functions.map Bound.Function.name).Nodup)
    (hq : (q.functions.map Bound.Function.name).Nodup) (hm : emitProgram verify p = .ok m)
    (hm' : emitProgram verify' q = .ok m') {f : Bound.Function} (hf : f ∈ p.functions)
    (hf' : f ∈ q.functions) :
    ∃ g : Code.Function, g.blocks ≠ [] ∧ codeOf m f.name = [g] ∧ codeOf m' f.name = [g] := by
  obtain ⟨bs, g, hbs, hg, hl⟩ := exists_codeOf hp hm hf
  obtain ⟨bs', g', hbs', hg', hl'⟩ := exists_codeOf hq hm' hf'
  obtain rfl := lowered_unique hbs hbs' hl hl'
  exact ⟨g, by simpa using hl.nonempty, hg, hg'⟩

/-- A function whose body goes on after a jump. -/
def leaving : Bound.Function where
  name := "leaving"
  params := 2
  slots := ["n"]
  loops := 0
  body :=
    [.loop 3 (.load 0) [.jump .leave 3, .ifElse (.load 0) [.jump .again 3] []],
      .expr (.call (.defined "main") [])]

/-- A program where the function stands last, after one that ends in a jump. -/
def leavingLast : Bound.Program where
  functions :=
    [⟨"main", 0, ["x"], 1, [.store 0 (.int 5), .loop 3 (.load 0) [.jump .leave 3]]⟩, leaving]
  declarations := []

/-- A program where the function stands between two others. -/
def leavingBetween : Bound.Program where
  functions := [⟨"f", 0, [], 0, []⟩, leaving, ⟨"main", 0, [], 0, []⟩]
  declarations := [⟨printName, ["w"], Position.start⟩]

theorem leaving_same_code :
    ∃ m m' g, emitProgram (fun _ => none) leavingLast = .ok m ∧
      emitProgram (fun _ => none) leavingBetween = .ok m' ∧ m ≠ m' ∧
      codeOf m "leaving" = [g] ∧ codeOf m' "leaving" = [g] := by
  have hdiffer : (emitProgram (fun _ => none) leavingLast).toOption
      ≠ (emitProgram (fun _ => none) leavingBetween).toOption := by
    decide +kernel
  obtain ⟨m, hm⟩ : ∃ m, emitProgram (fun _ => none) leavingLast = .ok m :=
    exists_ok (by decide +kernel)
  obtain ⟨m', hm'⟩ : ∃ m, emitProgram (fun _ => none) leavingBetween = .ok m :=
    exists_ok (by decide +kernel)
  obtain ⟨g, -, hg, hg'⟩ := emitProgram_same_code (by decide) (by decide) hm hm'
    (f := leaving) (.tail _ (.head _)) (.tail _ (.head _))
  refine ⟨m, m', g, hm, hm', ?_, hg, hg'⟩
  rintro rfl
  exact hdiffer (by rw [hm, hm'])

end Looplet.Lowering
