import Looplet.Proofs.Bound.References
import Looplet.Proofs.Code.WellFormed
import Looplet.Proofs.Lowering.Statement

/-!
# The shape of lowered code

A lowered expression uses the cells of the slots, and values that it gives itself before
(`Fragment.Fits`). So all operands of a draft are there in their own block or are cells, every block
but the one that grows and those that are still to be entered has its terminator, and jumps go to
blocks that there are (`Draft.Tidy`).
-/

namespace Looplet.Lowering

open Code (Operand Op Instr Block Checks numbers)
open Draft

variable {m : Code.Module} {arity : Nat} {known : Nat → Prop} {ctx : Context}

/-! ## Expressions -/

section Fragments

variable {α β : Type} {next : Nat} {os os' : List Operand}

/-- Instructions whose operands are known or given by instructions before, and that give values
numbered from `next` on. The operands `os` are there at the end. -/
structure Fragment.Fits (m : Code.Module) (arity : Nat) (known : Nat → Prop) (next : Nat)
    (os : List Operand) (f : Fragment α) : Prop where
  checks : Checks m arity known f.instrs
  results : ∀ o ∈ os, o.Fits m arity fun n => known n ∨ n ∈ numbers f.instrs
  numbers : ∃ k, f.next = next + k ∧ numbers f.instrs = List.range' next k

theorem Fragment.fits_nil {a : α} (h : ∀ o ∈ os, o.Fits m arity known) :
    (⟨[], a, next⟩ : Fragment α).Fits m arity known next os where
  checks := trivial
  results o ho := (h o ho).mono fun _ => Or.inl
  numbers := ⟨0, rfl, rfl⟩

namespace Fragment.Fits

theorem define {f : Fragment α} (h : f.Fits m arity known next os) (hint : String) {op : Op}
    (ho : ∀ o ∈ op.operands, o ∈ os ∨ o.Fits m arity known)
    (hcall : ∀ symbol args, op = .call symbol args → m.Takes symbol args.length) :
    (f.define hint op).Fits m arity known next [(f.define hint op).result] where
  checks := by
    refine Checks.append.mpr ⟨h.checks, ⟨fun o hmem => ?_, fun symbol n hs => ?_⟩, trivial⟩
    · rcases ho o hmem with ho | ho
      · exact h.results o ho
      · exact ho.mono fun _ => Or.inl
    · cases op with
      | call symbol' args =>
        obtain ⟨rfl, rfl⟩ : symbol' = symbol ∧ args.length = n := by simpa [Instr.call?] using hs
        exact hcall symbol' args rfl
      | _ => cases hs
  results o hmem := by
    rw [List.mem_singleton] at hmem
    subst hmem
    exact .inr (by simp [Fragment.define, Code.numbers, Instr.number?])
  numbers := by
    obtain ⟨k, hk, hn⟩ := h.numbers
    refine ⟨k + 1, congrArg (· + 1) hk, ?_⟩
    rw [Fragment.define, Code.numbers_append, hn, List.range'_1_concat, hk]
    rfl

theorem append {f : Fragment α} {g : Fragment β} (hf : f.Fits m arity known next os)
    (hg : g.Fits m arity known f.next os') {γ : Type} (c : γ) :
    (⟨f.instrs ++ g.instrs, c, g.next⟩ : Fragment γ).Fits m arity known next (os ++ os') where
  checks := Checks.append.mpr ⟨hf.checks, hg.checks.mono fun _ => Or.inl⟩
  results o ho := by
    rcases List.mem_append.mp ho with ho | ho
    · refine (hf.results o ho).mono fun n => Or.imp_right fun hn => ?_
      rw [Code.numbers_append]
      exact List.mem_append_left _ hn
    · refine (hg.results o ho).mono fun n => Or.imp_right fun hn => ?_
      rw [Code.numbers_append]
      exact List.mem_append_right _ hn
  numbers := by
    obtain ⟨k, hk, hn⟩ := hf.numbers
    obtain ⟨l, hl, hn'⟩ := hg.numbers
    refine ⟨k + l, by rw [← Nat.add_assoc, ← hk]; exact hl, ?_⟩
    rw [Code.numbers_append, hn, hn', hk, List.range'_append_1]

theorem binary {f : Fragment (Operand × Operand)}
    (h : f.Fits m arity known next [f.result.1, f.result.2]) (op : BinaryOp) :
    (f.binary op).Fits m arity known next [(f.binary op).result] := by
  have hcompare : ∀ c hint, (f.define hint (.compare c f.result.1 f.result.2)).Fits m arity known
      next [(f.define hint (.compare c f.result.1 f.result.2)).result] :=
    fun c hint => h.define hint (fun o ho => .inl ho) nofun
  cases op with
  | add => exact h.define "add" (fun o ho => .inl ho) nofun
  | equal => exact (hcompare .equal "eq").define "eq.zext" (fun o ho => .inl ho) nofun
  | notEqual => exact (hcompare .notEqual "ne").define "ne.zext" (fun o ho => .inl ho) nofun

end Fragment.Fits

/-- The values that are cells of slots. -/
def Context.IsCell (ctx : Context) (n : Nat) : Prop :=
  ctx.base ≤ n ∧ n < ctx.base + ctx.slots

/-- A call passes what the function of its symbol takes. -/
def Context.Calls (ctx : Context) (m : Code.Module) (call : Bound.Callee × Nat) : Prop :=
  ∀ symbol, ctx.symbol call.1 = .ok symbol → m.Takes symbol call.2

theorem fits_cell {slot : Nat} {o : Operand} (h : ctx.cell slot = .ok o) :
    o.Fits m arity ctx.IsCell := by
  unfold Context.cell at h
  split at h
  · cases h
    exact ⟨Nat.le_add_right _ _, by omega⟩
  · cases h

mutual

theorem expr_fits {next : Nat} : (e : Bound.Expr) → {f : Fragment Operand} →
    expr ctx next e = .ok f → (∀ c ∈ e.calls, ctx.Calls m c) →
    f.Fits m arity ctx.IsCell next [f.result]
  | .int v, f, h, _ => by
    cases h
    exact Fragment.fits_nil (by simp [Operand.Fits])
  | .load slot, f, h, _ => by
    obtain ⟨cell, hc, rfl⟩ := expr_load.mp h
    have hos : ∀ o ∈ [cell], o.Fits m arity ctx.IsCell := by
      simpa using fits_cell hc
    exact (Fragment.fits_nil hos).define _ (fun o ho => .inl ho) nofun
  | .binary op l r, f, h, hcalls => by
    obtain ⟨fl, hl, fr, hr, rfl⟩ := expr_binary.mp h
    rw [Bound.Expr.calls, List.forall_mem_append] at hcalls
    exact ((expr_fits l hl hcalls.1).append (expr_fits r hr hcalls.2) _).binary op
  | .call callee args, f, h, hcalls => by
    obtain ⟨symbol, hs, fs, hf, rfl⟩ := expr_call.mp h
    rw [Bound.Expr.calls, List.forall_mem_cons] at hcalls
    obtain ⟨hfs, hlen⟩ := exprs_fits args hf hcalls.2
    refine hfs.define _ (fun o ho => .inl ho) ?_
    rintro _ _ ⟨⟩
    rw [hlen]
    exact hcalls.1 symbol hs

theorem exprs_fits {next : Nat} : (es : List Bound.Expr) → {f : Fragment (List Operand)} →
    exprs ctx next es = .ok f → (∀ c ∈ Bound.Expr.callsOfAll es, ctx.Calls m c) →
    f.Fits m arity ctx.IsCell next f.result ∧ f.result.length = es.length
  | [], f, h, _ => by
    cases h
    exact ⟨Fragment.fits_nil (by simp), rfl⟩
  | e :: es, f, h, hcalls => by
    obtain ⟨g, hg, gs, hgs, rfl⟩ := exprs_cons.mp h
    rw [Bound.Expr.callsOfAll, List.forall_mem_append] at hcalls
    obtain ⟨hfs, hlen⟩ := exprs_fits es hgs hcalls.2
    refine ⟨(expr_fits e hg hcalls.1).append hfs _, ?_⟩
    rw [List.length_cons, List.length_cons, hlen]

end

theorem condition_fits {c : Bound.Expr} {f : Fragment Operand} (h : condition ctx next c = .ok f)
    (hcalls : ∀ call ∈ c.calls, ctx.Calls m call) :
    f.Fits m arity ctx.IsCell next [f.result] := by
  obtain ⟨g, hg, rfl⟩ := condition_eq_ok.mp h
  refine (expr_fits c hg hcalls).define _ (fun o ho => ?_) nofun
  rcases List.mem_cons.mp ho with rfl | ho
  · exact .inl (List.mem_singleton_self _)
  · obtain rfl := List.mem_singleton.mp ho
    exact .inr trivial

end Fragments

end Looplet.Lowering
