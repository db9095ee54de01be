import Looplet.Position

/-!
# Program trees

A program is a list of function items. An item without a body declares a function that the
environment provides. Nodes that a later message may name keep their position.
-/

namespace Looplet

/-- The operators of expressions. -/
inductive BinaryOp where
  | add
  | equal
  | notEqual
  deriving DecidableEq

/-- The two jumps out of the middle of a loop body. -/
inductive Jump where
  | leave
  | again
  deriving DecidableEq

/-- The word that writes a jump. -/
def Jump.word : Jump → String
  | leave => "break"
  | again => "continue"

namespace Tree

/-- An expression. A variable and a call keep the position of their name. -/
inductive Expr where
  | int (value : Int64)
  | var (name : String) (position : Position)
  | binary (op : BinaryOp) (lhs rhs : Expr)
  | call (callee : String) (args : List Expr) (position : Position)

/-- A statement. An assignment keeps the position of its target, a loop that of its label or else
of its keyword, a jump that of its keyword. -/
inductive Stmt where
  | assign (target : String) (value : Expr) (position : Position)
  | ifThen (cond : Expr) (body : List Stmt)
  | ifElse (cond : Expr) (thenBody elseBody : List Stmt)
  | loop (label? : Option String) (cond : Expr) (body : List Stmt) (position : Position)
  | jump (jump : Jump) (label? : Option String) (position : Position)
  | expr (value : Expr)

/-- A function item, at the position of its keyword. It is a declaration if it has no body. -/
structure Item where
  name : String
  params : List String
  position : Position
  body? : Option (List Stmt)

/-- Whether an item is a declaration. -/
def Item.isDeclaration (i : Item) : Bool := i.body?.isNone

end Tree

/-- The items of a program, in source order. -/
structure Program where
  items : List Tree.Item

end Looplet
