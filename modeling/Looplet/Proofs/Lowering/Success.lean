import Looplet.Proofs.Bound.References
import Looplet.Proofs.Lowering.Program

/-!
# When lowering succeeds

Lowering checks the numbers and the callees in a program, and nothing else can go wrong: a body is
lowered exactly if it is in scope and all its callees have a symbol (`exists_stmts`), a program
exactly if this holds for its bodies, its declarations have built-ins, and there is a main function
(`exists_lower`). The declarations are looked at first.
-/

namespace Looplet.Lowering

open Code (Operand)
open Draft

variable {ctx : Context}

/-- The callee has a symbol. -/
def Context.Knows (ctx : Context) (callee : Bound.Callee) : Prop :=
  ∃ symbol, ctx.symbol callee = .ok symbol

theorem exists_cell (ctx : Context) {slot : Nat} :
    (∃ o, ctx.cell slot = .ok o) ↔ slot < ctx.slots := by
  unfold Context.cell
  split
  · next h => simp [h]
  · next h => simp [h]

/-! ## Expressions -/

mutual

theorem exists_expr (next : Nat) : (e : Bound.Expr) →
    ((∃ f, expr ctx next e = .ok f) ↔ e.Scoped ctx.slots ∧ ∀ c ∈ e.calls, ctx.Knows c.1)
  | .int v => by simp [expr, Bound.Expr.Scoped, Bound.Expr.calls]
  | .load slot => by
    simp only [expr_load, Bound.Expr.Scoped, Bound.Expr.calls, ← exists_cell ctx]
    constructor
    · rintro ⟨f, cell, hc, rfl⟩
      exact ⟨⟨cell, hc⟩, nofun⟩
    · rintro ⟨⟨cell, hc⟩, -⟩
      exact ⟨_, cell, hc, rfl⟩
  | .binary op l r => by
    simp only [expr_binary, Bound.Expr.Scoped, Bound.Expr.calls, List.forall_mem_append]
    constructor
    · rintro ⟨f, fl, hl, fr, hr, rfl⟩
      obtain ⟨hsl, hcl⟩ := (exists_expr next l).mp ⟨fl, hl⟩
      obtain ⟨hsr, hcr⟩ := (exists_expr fl.next r).mp ⟨fr, hr⟩
      exact ⟨⟨hsl, hsr⟩, hcl, hcr⟩
    · rintro ⟨⟨hsl, hsr⟩, hcl, hcr⟩
      obtain ⟨fl, hl⟩ := (exists_expr next l).mpr ⟨hsl, hcl⟩
      obtain ⟨fr, hr⟩ := (exists_expr fl.next r).mpr ⟨hsr, hcr⟩
      exact ⟨_, fl, hl, fr, hr, rfl⟩
  | .call callee args => by
    simp only [expr_call, Bound.Expr.Scoped, Bound.Expr.calls, List.forall_mem_cons]
    constructor
    · rintro ⟨f, symbol, hs, fs, hf, rfl⟩
      obtain ⟨hsa, hca⟩ := (exists_exprs next args).mp ⟨fs, hf⟩
      exact ⟨hsa, ⟨symbol, hs⟩, hca⟩
    · rintro ⟨hsa, ⟨symbol, hs⟩, hca⟩
      obtain ⟨fs, hf⟩ := (exists_exprs next args).mpr ⟨hsa, hca⟩
      exact ⟨_, symbol, hs, fs, hf, rfl⟩

theorem exists_exprs (next : Nat) : (es : List Bound.Expr) →
    ((∃ f, exprs ctx next es = .ok f) ↔
      Bound.Expr.ScopedAll ctx.slots es ∧ ∀ c ∈ Bound.Expr.callsOfAll es, ctx.Knows c.1)
  | [] => by simp [exprs, Bound.Expr.ScopedAll, Bound.Expr.callsOfAll]
  | e :: es => by
    simp only [exprs_cons, Bound.Expr.ScopedAll, Bound.Expr.callsOfAll, List.forall_mem_append]
    constructor
    · rintro ⟨f, g, hg, gs, hgs, rfl⟩
      obtain ⟨hs, hc⟩ := (exists_expr next e).mp ⟨g, hg⟩
      obtain ⟨hss, hcs⟩ := (exists_exprs g.next es).mp ⟨gs, hgs⟩
      exact ⟨⟨hs, hss⟩, hc, hcs⟩
    · rintro ⟨⟨hs, hss⟩, hc, hcs⟩
      obtain ⟨g, hg⟩ := (exists_expr next e).mpr ⟨hs, hc⟩
      obtain ⟨gs, hgs⟩ := (exists_exprs g.next es).mpr ⟨hss, hcs⟩
      exact ⟨_, g, hg, gs, hgs, rfl⟩

end

theorem exists_condition (next : Nat) (c : Bound.Expr) :
    (∃ f, condition ctx next c = .ok f) ↔
      c.Scoped ctx.slots ∧ ∀ call ∈ c.calls, ctx.Knows call.1 := by
  simp only [condition_eq_ok, ← exists_expr next c]
  constructor
  · rintro ⟨f, g, hg, rfl⟩
    exact ⟨g, hg⟩
  · rintro ⟨g, hg⟩
    exact ⟨_, g, hg, rfl⟩

/-! ## Statements -/

theorem exists_loop (loops : List OpenLoop) {id : Nat} :
    (∃ l, loops.find? (fun l => l.id = id) = some l) ↔ id ∈ loops.map OpenLoop.id := by
  rw [← Option.isSome_iff_exists, List.find?_isSome, List.mem_map]
  simp

mutual

theorem exists_stmt {loops : List OpenLoop} {d : Draft} : (s : Bound.Stmt) → d.Live →
    ((∃ d', stmt ctx loops d s = .ok d') ↔
      s.Scoped ctx.slots (loops.map OpenLoop.id) ∧ ∀ c ∈ s.calls, ctx.Knows c.1)
  | .store slot e, hd => by
    simp only [stmt_store hd, Bound.Stmt.Scoped, Bound.Stmt.calls, ← exists_cell ctx]
    constructor
    · rintro ⟨d', f, hf, cell, hc, rfl⟩
      obtain ⟨hs, hcalls⟩ := (exists_expr _ e).mp ⟨f, hf⟩
      exact ⟨⟨⟨cell, hc⟩, hs⟩, hcalls⟩
    · rintro ⟨⟨⟨cell, hc⟩, hs⟩, hcalls⟩
      obtain ⟨f, hf⟩ := (exists_expr d.next e).mpr ⟨hs, hcalls⟩
      exact ⟨_, f, hf, cell, hc, rfl⟩
  | .ifElse c t e, hd => by
    simp only [stmt_ifElse hd (grow ctx loops t) (grow ctx loops e), Bound.Stmt.Scoped,
      Bound.Stmt.calls, List.forall_mem_append]
    constructor
    · rintro ⟨d', f, hf, d₁, h₁, d₂, h₂, rfl⟩
      have hthen := (fresh_thenPart hd.lt f).1.live
      have helse := (fresh_elsePart hd (grow ctx loops t) h₁ (d.blocks.length + 2)).2.live
      obtain ⟨hsc, hcc⟩ := (exists_condition _ c).mp ⟨f, hf⟩
      obtain ⟨hst, hct⟩ := (exists_stmts t hthen).mp ⟨d₁, h₁⟩
      obtain ⟨hse, hce⟩ := (exists_stmts e helse).mp ⟨d₂, h₂⟩
      exact ⟨⟨hsc, hst, hse⟩, hcc, hct, hce⟩
    · rintro ⟨⟨hsc, hst, hse⟩, hcc, hct, hce⟩
      obtain ⟨f, hf⟩ := (exists_condition d.next c).mpr ⟨hsc, hcc⟩
      have hthen := (fresh_thenPart hd.lt f).1.live
      obtain ⟨d₁, h₁⟩ := (exists_stmts t hthen).mpr ⟨hst, hct⟩
      have helse := (fresh_elsePart hd (grow ctx loops t) h₁ (d.blocks.length + 2)).2.live
      obtain ⟨d₂, h₂⟩ := (exists_stmts e helse).mpr ⟨hse, hce⟩
      exact ⟨_, f, hf, d₁, h₁, d₂, h₂, rfl⟩
  | .loop id c body, hd => by
    simp only [stmt_loop hd (grow ctx _ body), Bound.Stmt.Scoped, Bound.Stmt.calls,
      List.forall_mem_append]
    constructor
    · rintro ⟨d', f, hf, d₁, h₁, rfl⟩
      obtain ⟨hsc, hcc⟩ := (exists_condition _ c).mp ⟨f, hf⟩
      obtain ⟨hsb, hcb⟩ := (exists_stmts body (fresh_loopBody hd id f).live).mp ⟨d₁, h₁⟩
      exact ⟨⟨hsc, hsb⟩, hcc, hcb⟩
    · rintro ⟨⟨hsc, hsb⟩, hcc, hcb⟩
      obtain ⟨f, hf⟩ := (exists_condition d.next c).mpr ⟨hsc, hcc⟩
      obtain ⟨d₁, h₁⟩ : ∃ d₁, stmts ctx (⟨id, d.blocks.length, d.blocks.length + 2⟩ :: loops)
          ((d.loopHead id).loopBody f) body = .ok d₁ :=
        (exists_stmts body (fresh_loopBody hd id f).live).mpr ⟨hsb, hcb⟩
      exact ⟨_, f, hf, d₁, h₁, rfl⟩
  | .jump j id, hd => by
    simp only [stmt_jump hd, Bound.Stmt.Scoped, Bound.Stmt.calls, ← exists_loop loops]
    constructor
    · rintro ⟨d', l, hl, rfl⟩
      exact ⟨⟨l, hl⟩, nofun⟩
    · rintro ⟨⟨l, hl⟩, -⟩
      exact ⟨_, l, hl, rfl⟩
  | .expr e, hd => by
    simp only [stmt_expr hd, Bound.Stmt.Scoped, Bound.Stmt.calls, ← exists_expr d.next e]
    constructor
    · rintro ⟨d', f, hf, rfl⟩
      exact ⟨f, hf⟩
    · rintro ⟨f, hf⟩
      exact ⟨_, f, hf, rfl⟩

theorem exists_stmts {loops : List OpenLoop} {d : Draft} : (ss : List Bound.Stmt) → d.Live →
    ((∃ d', stmts ctx loops d ss = .ok d') ↔
      Bound.Stmt.ScopedAll ctx.slots (loops.map OpenLoop.id) ss ∧
        ∀ c ∈ Bound.Stmt.callsOfAll ss, ctx.Knows c.1)
  | [], hd => by simp [stmts, Bound.Stmt.ScopedAll, Bound.Stmt.callsOfAll]
  | s :: ss, hd => by
    simp only [stmts_cons, Bound.Stmt.ScopedAll, Bound.Stmt.callsOfAll, List.forall_mem_append]
    constructor
    · rintro ⟨d', d₁, h₁, h₂⟩
      obtain ⟨hs, hc⟩ := (exists_stmt s hd).mp ⟨d₁, h₁⟩
      obtain ⟨hss, hcs⟩ := (exists_stmts ss (stmt_grows s hd h₁).1).mp ⟨d', h₂⟩
      exact ⟨⟨hs, hss⟩, hc, hcs⟩
    · rintro ⟨⟨hs, hss⟩, hc, hcs⟩
      obtain ⟨d₁, h₁⟩ := (exists_stmt s hd).mpr ⟨hs, hc⟩
      obtain ⟨d', h₂⟩ := (exists_stmts ss (stmt_grows s hd h₁).1).mpr ⟨hss, hcs⟩
      exact ⟨d', d₁, h₁, h₂⟩

end

/-! ## Programs -/

theorem exists_cells (f : Bound.Function) (base k : Nat) (slots : List String) :
    ∃ is, cells f.params f base k slots = .ok is := by
  induction slots generalizing k with
  | nil => exact ⟨[], rfl⟩
  | cons slot slots ih =>
    obtain ⟨more, hmore⟩ := ih (k + 1)
    exact ⟨_, cells_cons.mpr ⟨_, initialValue_eq_ok.mpr rfl, more, hmore, rfl⟩⟩

/-- A function is lowered if its body is in scope and its callees have symbols. -/
theorem exists_lowered {names : List String} {builtins : List Builtin} {f : Bound.Function} :
    (∃ g, Lowered names builtins f g) ↔ Bound.Stmt.ScopedAll f.slots.length [] f.body ∧
      ∀ c ∈ Bound.Stmt.callsOfAll f.body,
        Context.Knows ⟨names, builtins, 0, f.slots.length⟩ c.1 := by
  constructor
  · rintro ⟨g, d, hd, rfl⟩
    obtain ⟨is, his, d₁, h₁, rfl⟩ := body_eq_ok.mp hd
    exact (exists_stmts f.body (live_enter .empty _ (cells_straight his))).mp ⟨d₁, h₁⟩
  · intro h
    obtain ⟨is, his⟩ := exists_cells f 0 0 f.slots
    have hlive := live_enter .empty f.slots.length (cells_straight his)
    obtain ⟨d₁, h₁⟩ : ∃ d₁, stmts ⟨names, builtins, 0, f.slots.length⟩ []
        (Draft.enter .empty f.slots.length is) f.body = .ok d₁ := (exists_stmts f.body hlive).mpr h
    exact ⟨_, _, body_eq_ok.mpr ⟨is, his, d₁, h₁, rfl⟩, rfl⟩

theorem exists_lower {p : Bound.Program} (h : (p.functions.map Bound.Function.name).Nodup) :
    (∃ m, lower p = .ok m) ↔ ∃ bs, builtinsOf p.declarations = .ok bs ∧
      (∀ f ∈ p.functions, Bound.Stmt.ScopedAll f.slots.length [] f.body ∧
        ∀ c ∈ Bound.Stmt.callsOfAll f.body,
          Context.Knows ⟨p.functions.map Bound.Function.name, bs, 0, f.slots.length⟩ c.1) ∧
      mainName ∈ p.functions.map Bound.Function.name := by
  simp only [lower_eq_ok h, ← exists_lowered, ← exists_forall₂_iff]
  constructor
  · rintro ⟨m, bs, hbs, gs, hgs, hmain, rfl⟩
    exact ⟨bs, hbs, ⟨gs, hgs⟩, hmain⟩
  · rintro ⟨bs, hbs, ⟨gs, hgs⟩, hmain⟩
    exact ⟨_, bs, hbs, gs, hgs, hmain, rfl⟩

/-- A declaration without a built-in is refused. -/
theorem builtinOf_eq_error {d : Bound.Declaration} {r : Refusal} :
    builtinOf d = .error r ↔ d.name ≠ printName ∧ r = .noBuiltin d.name ∨
      d.name = printName ∧ d.params.length ≠ 1 ∧ r = .builtinArity d.name d.params.length 1 := by
  unfold builtinOf
  cases h : Builtin.find? d.name with
  | none =>
    have hn : d.name ≠ printName := by
      intro hn
      rw [builtin_find?_eq_some.mpr ⟨hn, rfl⟩] at h
      cases h
    simp [hn, eq_comm]
  | some b =>
    obtain ⟨hn, rfl⟩ := builtin_find?_eq_some.mp h
    show (if 1 = d.params.length then _ else _) = _ ↔ _
    by_cases hl : d.params.length = 1
    · simp [hn, hl]
    · simp [hn, hl, Ne.symm hl, eq_comm, Builtin.printInt]

theorem lower_eq_error_of_builtinsOf {p : Bound.Program} {r : Refusal}
    (h : builtinsOf p.declarations = .error r) : lower p = .error r := by
  rw [lower, h]
  rfl

end Looplet.Lowering
