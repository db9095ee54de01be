import Looplet.Bound

/-!
# What bound programs refer to

A body is in scope if its slots are those of its function and its jumps act on loops around them
(`Stmt.ScopedAll`), in all its parts, even where nothing gets to. A program calls its functions as
they are declared if every call in a body passes as many arguments as the function of its name has
parameters (`Program.CallsMatch`).
-/

namespace Looplet.Bound

mutual

/-- The calls in an expression: callees, and how many arguments they get. -/
def Expr.calls : Expr → List (Callee × Nat)
  | .int _ => []
  | .load _ => []
  | .binary _ l r => l.calls ++ r.calls
  | .call callee args => (callee, args.length) :: Expr.callsOfAll args

/-- The calls in expressions. -/
def Expr.callsOfAll : List Expr → List (Callee × Nat)
  | [] => []
  | e :: es => e.calls ++ Expr.callsOfAll es

end

mutual

/-- The calls in a statement. -/
def Stmt.calls : Stmt → List (Callee × Nat)
  | .store _ e => e.calls
  | .ifElse c t e => c.calls ++ (Stmt.callsOfAll t ++ Stmt.callsOfAll e)
  | .loop _ c body => c.calls ++ Stmt.callsOfAll body
  | .jump _ _ => []
  | .expr e => e.calls

/-- The calls in statements. -/
def Stmt.callsOfAll : List Stmt → List (Callee × Nat)
  | [] => []
  | s :: ss => s.calls ++ Stmt.callsOfAll ss

end

mutual

/-- The slots in an expression are among the first `slots`. -/
def Expr.Scoped (slots : Nat) : Expr → Prop
  | .int _ => True
  | .load slot => slot < slots
  | .binary _ l r => l.Scoped slots ∧ r.Scoped slots
  | .call _ args => Expr.ScopedAll slots args

/-- The slots in expressions are among the first `slots`. -/
def Expr.ScopedAll (slots : Nat) : List Expr → Prop
  | [] => True
  | e :: es => e.Scoped slots ∧ Expr.ScopedAll slots es

end

mutual

/-- The slots in a statement are among the first `slots`, and its jumps act on loops in it or on
those around it, which have the numbers `loops`. -/
def Stmt.Scoped (slots : Nat) (loops : List Nat) : Stmt → Prop
  | .store slot e => slot < slots ∧ e.Scoped slots
  | .ifElse c t e =>
    c.Scoped slots ∧ Stmt.ScopedAll slots loops t ∧ Stmt.ScopedAll slots loops e
  | .loop id c body => c.Scoped slots ∧ Stmt.ScopedAll slots (id :: loops) body
  | .jump _ id => id ∈ loops
  | .expr e => e.Scoped slots

/-- The same of statements. -/
def Stmt.ScopedAll (slots : Nat) (loops : List Nat) : List Stmt → Prop
  | [] => True
  | s :: ss => s.Scoped slots loops ∧ Stmt.ScopedAll slots loops ss

end

/-- A callee may get `n` arguments: the functions and declarations that it names have `n`
parameters. -/
def Program.Accepts (p : Program) (n : Nat) : Callee → Prop
  | .defined name => ∀ f ∈ p.functions, f.name = name → f.params = n
  | .declared name => ∀ d ∈ p.declarations, d.name = name → d.params.length = n

instance (p : Program) (n : Nat) : (callee : Callee) → Decidable (p.Accepts n callee)
  | .defined name => inferInstanceAs (Decidable (∀ f ∈ p.functions, f.name = name → f.params = n))
  | .declared name =>
    inferInstanceAs (Decidable (∀ d ∈ p.declarations, d.name = name → d.params.length = n))

/-- Every call passes as many arguments as its callee has parameters. -/
def Program.CallsMatch (p : Program) : Prop :=
  ∀ f ∈ p.functions, ∀ call ∈ Stmt.callsOfAll f.body, p.Accepts call.2 call.1

instance (p : Program) : Decidable p.CallsMatch :=
  inferInstanceAs (Decidable (∀ f ∈ p.functions, ∀ call ∈ Stmt.callsOfAll f.body,
    p.Accepts call.2 call.1))

end Looplet.Bound
