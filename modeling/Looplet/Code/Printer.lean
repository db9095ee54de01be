import Looplet.Code
import Looplet.Text.Decimal

/-!
# Writing modules

A module is written line by line: its globals, the declaration of `printf`, then its functions with
their blocks. Block lines carry the block's number, instruction lines are indented by two spaces.
-/

namespace Looplet.Code

/-- An operand in written form. -/
def Operand.render : Operand → String
  | value n => "%" ++ Nat.repr n
  | param n => "$" ++ Nat.repr n
  | const w => Text.ofWord w
  | global g => "@" ++ g

/-- Operands with commas between them. -/
def renderOperands (os : List Operand) : String :=
  ", ".intercalate (os.map Operand.render)

/-- The word for a comparison. -/
def Comparison.word : Comparison → String
  | equal => "eq"
  | notEqual => "ne"

/-- An operation in written form. -/
def Op.render : Op → String
  | alloca => "alloca"
  | load p => "load " ++ p.render
  | add a b => "add " ++ renderOperands [a, b]
  | compare c a b => "icmp " ++ c.word ++ " " ++ renderOperands [a, b]
  | extend a => "zext " ++ a.render
  | call f args => "call @" ++ f ++ "(" ++ renderOperands args ++ ")"

/-- The name of a value after its number; an empty name is left out. -/
def hintText (hint : String) : String :=
  if hint = "" then "" else ":" ++ hint

/-- An instruction in written form. -/
def Instr.render : Instr → String
  | define n hint op => "%" ++ Nat.repr n ++ hintText hint ++ " = " ++ op.render
  | store v p => "store " ++ renderOperands [v, p]
  | jump b => "br " ++ Nat.repr b
  | branch c t e => "br " ++ c.render ++ ", " ++ Nat.repr t ++ ", " ++ Nat.repr e
  | ret v => "ret " ++ v.render

/-- The lines of a block, which is the one with the given number. -/
def Block.lines (number : Nat) (b : Block) : List String :=
  (Nat.repr number ++ ":" ++ b.name) :: b.instrs.map fun i => "  " ++ i.render

/-- The lines of blocks that are numbered from `number` on. -/
def blockLines (number : Nat) : List Block → List String
  | [] => []
  | b :: bs => b.lines number ++ blockLines (number + 1) bs

/-- The linkage of a function. -/
def Visibility.linkage : Visibility → String
  | internal => "internal"
  | external => "external"

/-- The type of a function's result. Only where a process starts it is a status. -/
def Visibility.resultType : Visibility → String
  | internal => "i64"
  | external => "i32"

/-- How the line of a function starts. A function without blocks has no linkage. -/
def Function.heading (f : Function) : String :=
  if f.blocks.isEmpty then "declare " ++ f.visibility.resultType
  else "define " ++ f.visibility.linkage ++ " " ++ f.visibility.resultType

/-- The lines of a function. -/
def Function.lines (f : Function) : List String :=
  (f.heading ++ " @" ++ f.symbol ++ "("
    ++ ", ".intercalate (List.replicate f.arity "i64") ++ ")") :: blockLines 0 f.blocks

/-- A text with its line feeds written as escapes. -/
def escapedText (s : String) : String :=
  String.join (s.toList.map fun c => if c = '\n' then "\\n" else c.toString)

/-- The line of a constant text. -/
def Global.line (g : Global) : String :=
  "global @" ++ g.name ++ " = " ++ escapedText g.text

/-- The lines of a module. -/
def Module.lines (m : Module) : List String :=
  "module lambda" :: m.globals.map Global.line
    ++ "declare i32 @printf(ptr, ...)" :: m.functions.flatMap Function.lines

/-- A module as text. Every line ends in a line feed. -/
def Module.text (m : Module) : String :=
  String.join (m.lines.map fun l => l ++ "\n")

end Looplet.Code
