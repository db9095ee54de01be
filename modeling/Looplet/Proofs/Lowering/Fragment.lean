import Looplet.Code.Lowering
import Looplet.Proofs.Code.Frame
import Looplet.Proofs.Result

/-!
# Fragments

A fragment that computes an expression is straight code: it has no terminator, it numbers its
values from the next free number on, and its result is one of them or a constant.
-/

namespace Looplet.Lowering

open Code (Operand Op Instr Block)

variable {α β : Type} {ctx : Context} {next : Nat}

/-- A fragment of straight code whose values are numbered from `next` on; the operands `os` are
among what it computes. -/
structure Fragment.Sound (next : Nat) (os : List Operand) (f : Fragment α) : Prop where
  next_le : next ≤ f.next
  below : ∀ o ∈ os, o.Below f.next
  straight : ∀ i ∈ f.instrs, i.isTerminator = false

namespace Fragment.Sound

theorem define {os : List Operand} {f : Fragment α} (h : f.Sound next os) (hint : String)
    (op : Op) : (f.define hint op).Sound next [(f.define hint op).result] where
  next_le := Nat.le_succ_of_le h.next_le
  below o ho := by
    rw [List.mem_singleton] at ho
    subst ho
    exact Nat.lt_succ_self f.next
  straight i hi := by
    rcases List.mem_append.mp hi with hi | hi
    · exact h.straight i hi
    · rw [List.mem_singleton] at hi
      subst hi
      rfl

theorem append {os os' : List Operand} {f : Fragment α} {g : Fragment β} (hf : f.Sound next os)
    (hg : g.Sound f.next os') {γ : Type} (c : γ) :
    (⟨f.instrs ++ g.instrs, c, g.next⟩ : Fragment γ).Sound next (os ++ os') where
  next_le := Nat.le_trans hf.next_le hg.next_le
  below o ho := by
    rcases List.mem_append.mp ho with ho | ho
    · exact (hf.below o ho).mono hg.next_le
    · exact hg.below o ho
  straight i hi := by
    rcases List.mem_append.mp hi with hi | hi
    · exact hf.straight i hi
    · exact hg.straight i hi

theorem binary {os : List Operand} {f : Fragment (Operand × Operand)} (h : f.Sound next os)
    (op : BinaryOp) : (f.binary op).Sound next [(f.binary op).result] := by
  cases op with
  | add => exact h.define _ _
  | equal => exact (h.define _ _).define _ _
  | notEqual => exact (h.define _ _).define _ _

end Fragment.Sound

/-! ## Expressions -/

theorem expr_load {slot : Nat} {f : Fragment Operand} :
    expr ctx next (.load slot) = .ok f ↔ ∃ cell, ctx.cell slot = .ok cell ∧
      f = Fragment.define ⟨[], (), next⟩ "load" (.load cell) := by
  simp only [expr, bind_eq_ok, pure_eq_ok]

theorem expr_binary {op : BinaryOp} {l r : Bound.Expr} {f : Fragment Operand} :
    expr ctx next (.binary op l r) = .ok f ↔ ∃ fl, expr ctx next l = .ok fl ∧
      ∃ fr, expr ctx fl.next r = .ok fr ∧
        f = Fragment.binary ⟨fl.instrs ++ fr.instrs, (fl.result, fr.result), fr.next⟩ op := by
  simp only [expr, bind_eq_ok, pure_eq_ok]

theorem expr_call {callee : Bound.Callee} {args : List Bound.Expr} {f : Fragment Operand} :
    expr ctx next (.call callee args) = .ok f ↔ ∃ symbol, ctx.symbol callee = .ok symbol ∧
      ∃ fs, exprs ctx next args = .ok fs ∧ f = fs.define "call" (.call symbol fs.result) := by
  simp only [expr, bind_eq_ok, pure_eq_ok]

theorem exprs_cons {e : Bound.Expr} {es : List Bound.Expr} {f : Fragment (List Operand)} :
    exprs ctx next (e :: es) = .ok f ↔ ∃ g, expr ctx next e = .ok g ∧
      ∃ gs, exprs ctx g.next es = .ok gs ∧
        f = ⟨g.instrs ++ gs.instrs, g.result :: gs.result, gs.next⟩ := by
  simp only [exprs, bind_eq_ok, pure_eq_ok]

theorem condition_eq_ok {c : Bound.Expr} {f : Fragment Operand} :
    condition ctx next c = .ok f ↔ ∃ g, expr ctx next c = .ok g ∧
      f = g.define "cond" (.compare .notEqual g.result (.const 0)) := by
  simp only [condition, bind_eq_ok, pure_eq_ok]

theorem Fragment.sound_nil (next : Nat) : (⟨[], (), next⟩ : Fragment Unit).Sound next [] :=
  ⟨Nat.le_refl next, by simp, by simp⟩

mutual

theorem expr_sound {next : Nat} : (e : Bound.Expr) → {f : Fragment Operand} →
    expr ctx next e = .ok f → f.Sound next [f.result]
  | .int v, f, h => by
    simp only [expr, Except.ok.injEq] at h
    subst h
    exact ⟨Nat.le_refl next, by simp [Operand.Below], by simp⟩
  | .load slot, f, h => by
    obtain ⟨cell, -, rfl⟩ := expr_load.mp h
    exact (Fragment.sound_nil next).define _ _
  | .binary op l r, f, h => by
    obtain ⟨fl, hl, fr, hr, rfl⟩ := expr_binary.mp h
    exact ((expr_sound l hl).append (expr_sound r hr) _).binary op
  | .call callee args, f, h => by
    obtain ⟨symbol, -, fs, hf, rfl⟩ := expr_call.mp h
    exact (exprs_sound args hf).define _ _

theorem exprs_sound {next : Nat} : (es : List Bound.Expr) → {f : Fragment (List Operand)} →
    exprs ctx next es = .ok f → f.Sound next f.result
  | [], f, h => by
    simp only [exprs, Except.ok.injEq] at h
    subst h
    exact ⟨Nat.le_refl next, by simp, by simp⟩
  | e :: es, f, h => by
    obtain ⟨g, hg, gs, hgs, rfl⟩ := exprs_cons.mp h
    exact (expr_sound e hg).append (exprs_sound es hgs) _

end

theorem condition_sound {c : Bound.Expr} {f : Fragment Operand}
    (h : condition ctx next c = .ok f) : f.Sound next [f.result] := by
  obtain ⟨g, hg, rfl⟩ := condition_eq_ok.mp h
  exact (expr_sound c hg).define _ _

end Looplet.Lowering
