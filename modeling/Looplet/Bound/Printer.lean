import Looplet.Bound
import Looplet.Tree.Printer

/-!
# Writing bound programs

Bound trees are written like program trees, with slots and loop numbers in place of names. The else
branch is always written.
-/

namespace Looplet.Bound

/-- The word before the name of a callee, and the name. -/
def Callee.parts : Callee → String × String
  | declared n => ("extern", n)
  | defined n => ("fn", n)

mutual

/-- An expression in written form. -/
def Expr.render : Expr → String
  | .int v => Text.ofWord v
  | .load s => parenthesized "load" [Nat.repr s]
  | .binary op l r => parenthesized op.sign [l.render, r.render]
  | .call f args => parenthesized f.parts.1 (f.parts.2 :: renderExprs args)

/-- A list of expressions, each in written form. -/
def renderExprs : List Expr → List String
  | [] => []
  | e :: es => e.render :: renderExprs es

end

mutual

/-- A statement in written form. -/
def Stmt.render : Stmt → String
  | .store s e => parenthesized "store" [Nat.repr s, e.render]
  | .ifElse c t e =>
    parenthesized "if"
      [c.render, parenthesized "then" (renderStmts t), parenthesized "else" (renderStmts e)]
  | .loop id c body =>
    parenthesized "while" [Nat.repr id, c.render, parenthesized "body" (renderStmts body)]
  | .jump j id => parenthesized j.word [Nat.repr id]
  | .expr e => parenthesized "expr" [e.render]

/-- A list of statements, each in written form. -/
def renderStmts : List Stmt → List String
  | [] => []
  | s :: ss => s.render :: renderStmts ss

end

end Looplet.Bound
