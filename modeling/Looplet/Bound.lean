import Looplet.Tree

/-!
# Bound programs

The tree after names are bound: a variable is the number of its slot, a jump names the loop it
acts on, and a call says whether its callee is declared or defined. A bound program may also be
made by hand; nothing here promises that its numbers are in range. The table of names is not part
of it: callees say all that is needed, and nothing after binding looks at names again.
-/

namespace Looplet.Bound

/-- The function that a call names. -/
inductive Callee where
  | declared (name : String)
  | defined (name : String)
  deriving DecidableEq

/-- An expression over slots. -/
inductive Expr where
  | int (value : Int64)
  | load (slot : Nat)
  | binary (op : BinaryOp) (lhs rhs : Expr)
  | call (callee : Callee) (args : List Expr)

/-- A statement over slots and numbered loops. -/
inductive Stmt where
  | store (slot : Nat) (value : Expr)
  | ifElse (cond : Expr) (thenBody elseBody : List Stmt)
  | loop (id : Nat) (cond : Expr) (body : List Stmt)
  | jump (jump : Jump) (id : Nat)
  | expr (value : Expr)

/-- A function. Its first `params` slots hold the arguments of a call. -/
structure Function where
  name : String
  params : Nat
  slots : List String
  loops : Nat
  body : List Stmt

/-- A function that the environment provides. -/
structure Declaration where
  name : String
  params : List String
  position : Position
  deriving DecidableEq

/-- A program: its definitions and its declarations, each in source order. -/
structure Program where
  functions : List Function
  declarations : List Declaration

end Looplet.Bound
