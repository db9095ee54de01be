/-!
# Modules of basic blocks

A module holds functions of signed 64-bit words. A function is a list of blocks, a block a list of
instructions. An instruction that gives a value numbers it; numbers are unique in a function. The
order of the blocks is the order in which they were added, and a jump names a block by its place
there.
-/

namespace Looplet.Code

/-- What an instruction works on. -/
inductive Operand where
  | value (number : Nat)
  | param (index : Nat)
  | const (word : Int64)
  | global (name : String)
  deriving DecidableEq

/-- The constant that 64 bits are, the highest of which is the sign. -/
def Operand.ofBits (bits : UInt64) : Operand :=
  .const bits.toInt64

/-- The bits of a word are the constant of that word, whatever its sign. -/
@[simp] theorem Operand.ofBits_toUInt64 (w : Int64) : ofBits w.toUInt64 = .const w := rfl

/-- The two comparisons. -/
inductive Comparison where
  | equal
  | notEqual
  deriving DecidableEq

/-- An operation that gives a value: a fresh cell, the word in a cell, a sum, a comparison bit, a
bit as a word, or the result of a call. -/
inductive Op where
  | alloca
  | load (cell : Operand)
  | add (lhs rhs : Operand)
  | compare (comparison : Comparison) (lhs rhs : Operand)
  | extend (bit : Operand)
  | call (symbol : String) (args : List Operand)
  deriving DecidableEq

/-- An instruction. A value has a name for readers beside its number; the name may be empty. -/
inductive Instr where
  | define (number : Nat) (hint : String) (op : Op)
  | store (word cell : Operand)
  | jump (block : Nat)
  | branch (bit : Operand) (thenBlock elseBlock : Nat)
  | ret (word : Operand)
  deriving DecidableEq

/-- Whether an instruction ends its block. -/
def Instr.isTerminator : Instr → Bool
  | jump _ => true
  | branch _ _ _ => true
  | ret _ => true
  | define _ _ _ => false
  | store _ _ => false

/-- A named list of instructions. -/
structure Block where
  name : String
  instrs : List Instr
  deriving DecidableEq

/-- Whether a function can be seen from outside its module. -/
inductive Visibility where
  | internal
  | external
  deriving DecidableEq

/-- A function. It starts in its first block; without blocks it is only declared. -/
structure Function where
  visibility : Visibility
  symbol : String
  arity : Nat
  blocks : List Block
  deriving DecidableEq

/-- A constant text. -/
structure Global where
  name : String
  text : String
  deriving DecidableEq

/-- Constant texts and functions. Every module may also call `printf`, which the environment
provides. -/
structure Module where
  globals : List Global
  functions : List Function
  deriving DecidableEq

/-- The symbol of the function that prints by a format. -/
def printf : String := "printf"

/-- The symbol of the function where a process starts. -/
def entrySymbol : String := "main"

/-- The symbol of a function of the program, kept apart from all other symbols. -/
def functionSymbol (name : String) : String := "lambda_fn_" ++ name

/-- The function with blocks that a symbol names. -/
def Module.function? (m : Module) (symbol : String) : Option Function :=
  m.functions.find? fun f => f.symbol = symbol && !f.blocks.isEmpty

end Looplet.Code
