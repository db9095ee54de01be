import Looplet.Proofs.Bound.References

/-!
# Reads, writes and jumps in the order of the text

A walk over a bound body meets loads and stores (`Stmt.accessesOfAll`) and jumps, each with the
loops whose bodies hold it (`Stmt.jumpsOfAll`). A body is in scope exactly if all slots that it
meets are those of its function and every jump acts on a loop around it (`scopedAll_iff`), wherever
they stand, behind another jump as well.
-/

namespace Looplet.Bound

/-- What a place in a body does with a slot. -/
inductive Access where
  | load (slot : Nat)
  | store (slot : Nat)
  deriving DecidableEq

/-- The slot that is read or written. -/
def Access.slot : Access → Nat
  | load slot => slot
  | store slot => slot

mutual

/-- The accesses in an expression, in the order of its text. -/
def Expr.accesses : Expr → List Access
  | .int _ => []
  | .load slot => [.load slot]
  | .binary _ l r => l.accesses ++ r.accesses
  | .call _ args => Expr.accessesOfAll args

/-- The accesses in expressions. -/
def Expr.accessesOfAll : List Expr → List Access
  | [] => []
  | e :: es => e.accesses ++ Expr.accessesOfAll es

end

mutual

/-- The accesses in a statement, in the order of its text. A store stands after the value that it
stores. -/
def Stmt.accesses : Stmt → List Access
  | .store slot e => e.accesses ++ [.store slot]
  | .ifElse c t e => c.accesses ++ (Stmt.accessesOfAll t ++ Stmt.accessesOfAll e)
  | .loop _ c body => c.accesses ++ Stmt.accessesOfAll body
  | .jump _ _ => []
  | .expr e => e.accesses

/-- The accesses in statements. -/
def Stmt.accessesOfAll : List Stmt → List Access
  | [] => []
  | s :: ss => s.accesses ++ Stmt.accessesOfAll ss

end

mutual

/-- The jumps in a statement that stands in the loops `around`: the number that each of them has,
and the numbers of the loops whose bodies hold it, the innermost first. -/
def Stmt.jumps (around : List Nat) : Stmt → List (Nat × List Nat)
  | .store _ _ => []
  | .ifElse _ t e => Stmt.jumpsOfAll around t ++ Stmt.jumpsOfAll around e
  | .loop id _ body => Stmt.jumpsOfAll (id :: around) body
  | .jump _ id => [(id, around)]
  | .expr _ => []

/-- The jumps in statements. -/
def Stmt.jumpsOfAll (around : List Nat) : List Stmt → List (Nat × List Nat)
  | [] => []
  | s :: ss => s.jumps around ++ Stmt.jumpsOfAll around ss

end

/-! ## Scopes -/

variable {slots : Nat}

mutual

theorem Expr.scoped_iff : (e : Expr) → (e.Scoped slots ↔ ∀ a ∈ e.accesses, a.slot < slots)
  | .int v => by simp [Expr.Scoped, Expr.accesses]
  | .load slot => by simp [Expr.Scoped, Expr.accesses, Access.slot]
  | .binary op l r => by
    rw [Expr.Scoped, Expr.accesses, List.forall_mem_append, l.scoped_iff, r.scoped_iff]
  | .call callee args => by
    rw [Expr.Scoped, Expr.accesses, Expr.scopedAll_iff args]

theorem Expr.scopedAll_iff : (es : List Expr) →
    (Expr.ScopedAll slots es ↔ ∀ a ∈ Expr.accessesOfAll es, a.slot < slots)
  | [] => by simp [Expr.ScopedAll, Expr.accessesOfAll]
  | e :: es => by
    rw [Expr.ScopedAll, Expr.accessesOfAll, List.forall_mem_append, e.scoped_iff,
      Expr.scopedAll_iff es]

end

mutual

theorem Stmt.scoped_iff (around : List Nat) : (s : Stmt) → (s.Scoped slots around ↔
    (∀ a ∈ s.accesses, a.slot < slots) ∧ ∀ j ∈ s.jumps around, j.1 ∈ j.2)
  | .store slot e => by
    rw [Stmt.Scoped, Stmt.accesses, Stmt.jumps, List.forall_mem_append, List.forall_mem_singleton,
      e.scoped_iff, and_comm]
    exact (and_iff_left (List.forall_mem_nil _)).symm
  | .ifElse c t e => by
    rw [Stmt.Scoped, Stmt.accesses, Stmt.jumps, List.forall_mem_append, List.forall_mem_append,
      List.forall_mem_append, c.scoped_iff, Stmt.scopedAll_iff around t,
      Stmt.scopedAll_iff around e, and_and_and_comm, ← and_assoc]
  | .loop id c body => by
    rw [Stmt.Scoped, Stmt.accesses, Stmt.jumps, List.forall_mem_append, c.scoped_iff,
      Stmt.scopedAll_iff (id :: around) body, and_assoc]
  | .jump j id => by simp [Stmt.Scoped, Stmt.accesses, Stmt.jumps]
  | .expr e => by simp [Stmt.Scoped, Stmt.accesses, Stmt.jumps, e.scoped_iff]

/-- A body is in scope exactly if its slots are and its jumps act on loops around them. -/
theorem Stmt.scopedAll_iff (around : List Nat) : (ss : List Stmt) →
    (Stmt.ScopedAll slots around ss ↔ (∀ a ∈ Stmt.accessesOfAll ss, a.slot < slots) ∧
      ∀ j ∈ Stmt.jumpsOfAll around ss, j.1 ∈ j.2)
  | [] => by simp [Stmt.ScopedAll, Stmt.accessesOfAll, Stmt.jumpsOfAll]
  | s :: ss => by
    rw [Stmt.ScopedAll, Stmt.accessesOfAll, Stmt.jumpsOfAll, List.forall_mem_append,
      List.forall_mem_append, s.scoped_iff around, Stmt.scopedAll_iff around ss,
      and_and_and_comm]

end

end Looplet.Bound
