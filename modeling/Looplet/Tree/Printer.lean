import Looplet.Text.Decimal
import Looplet.Tree

/-!
# Writing program trees

Trees are written as nested lists in parentheses, one space between the parts, every stored position
shown. An absent label is written `-`, and an else branch is written whenever it is present.
-/

namespace Looplet

/-- A list in parentheses that starts with `head`. -/
def parenthesized (head : String) (parts : List String) : String :=
  "(" ++ " ".intercalate (head :: parts) ++ ")"

/-- The sign of an operator. -/
def BinaryOp.sign : BinaryOp → String
  | add => "+"
  | equal => "=="
  | notEqual => "!="

namespace Tree

mutual

/-- An expression in written form. -/
def Expr.render : Expr → String
  | .int v => Text.ofWord v
  | .var x p => parenthesized "var" [x, p.text]
  | .binary op l r => parenthesized op.sign [l.render, r.render]
  | .call f args p => parenthesized "call" (f :: p.text :: renderExprs args)

/-- A list of expressions, each in written form. -/
def renderExprs : List Expr → List String
  | [] => []
  | e :: es => e.render :: renderExprs es

end

/-- A label, or a dash if there is none. -/
def labelText (label? : Option String) : String :=
  label?.getD "-"

mutual

/-- A statement in written form. -/
def Stmt.render : Stmt → String
  | .assign x e p => parenthesized "assign" [x, p.text, e.render]
  | .ifThen c body => parenthesized "if" [c.render, parenthesized "then" (renderStmts body)]
  | .ifElse c t e =>
    parenthesized "if"
      [c.render, parenthesized "then" (renderStmts t), parenthesized "else" (renderStmts e)]
  | .loop l c body p =>
    parenthesized "while" [labelText l, p.text, c.render, parenthesized "body" (renderStmts body)]
  | .jump j l p => parenthesized j.word [labelText l, p.text]
  | .expr e => parenthesized "expr" [e.render]

/-- A list of statements, each in written form. -/
def renderStmts : List Stmt → List String
  | [] => []
  | s :: ss => s.render :: renderStmts ss

end

end Tree

end Looplet
