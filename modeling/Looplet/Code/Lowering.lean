import Looplet.Bound
import Looplet.Builtin

/-!
# Lowering bound programs to modules

Every slot of a function is a cell, made in the entry block and filled there with its argument or
with zero; slot `k` is value `k`. A conditional takes three blocks, a loop three, and a jump one
more for the statements after it, which nothing reaches. Instructions go to the end of the block
that grows at the moment; a part that ends in a jump of its own is not left a second time.

    lower p = .ok m        every declaration has a built-in and every number of `p` is in range

A name stands for the last function that has it. When several functions share a name, the last one
takes the bodies of all of them, one after the other, and the others stay without blocks.
-/

namespace Looplet

namespace Lowering

open Code (Operand Op Instr Block)

/-- Why a bound program cannot be lowered. That a call gives no value is no reason, nor that a
built-in lacks a parameter: every function gives a word, and every built-in has what it uses. -/
inductive Refusal where
  | noBuiltin (name : String)
  | builtinArity (name : String) (declared provided : Nat)
  | unboundDeclaration (name : String)
  | undefinedFunction (name : String)
  | missingParameter (function : String) (index : Nat)
  | noStorage (slot : Nat)
  | noLoop (id : Nat)
  | unplaced
  | outsideFunction
  | invalidModule (reason : String)
  deriving DecidableEq

/-- The wording of a refusal. -/
def Refusal.message : Refusal → String
  | noBuiltin n => "extern `" ++ n ++ "` has no runtime implementation"
  | builtinArity n k m =>
    "extern `" ++ n ++ "` is declared with " ++ Nat.repr k
      ++ " parameter(s) but the runtime provides " ++ Nat.repr m
  | unboundDeclaration n => "extern `" ++ n ++ "` is not bound"
  | undefinedFunction n => "function `" ++ n ++ "` was never declared"
  | missingParameter n k => "function `" ++ n ++ "` is missing parameter " ++ Nat.repr k
  | noStorage s => "slot " ++ Nat.repr s ++ " has no storage"
  | noLoop id => "unresolved jump target for loop " ++ Nat.repr id
  | unplaced => "llvm builder: UnsetPosition"
  | outsideFunction => "builder is not inside a function"
  | invalidModule reason => "invalid module: " ++ reason

/-- What a body can refer to: the functions of the program, the built-ins that are bound, and its
slots, whose cells are the values numbered from `base` on. -/
structure Context where
  functions : List String
  builtins : List Builtin
  base : Nat
  slots : Nat

/-- The symbol of a callee. -/
def Context.symbol (ctx : Context) : Bound.Callee → Except Refusal String
  | .declared n =>
    match ctx.builtins.find? fun b => b.name = n with
    | some b => .ok b.symbol
    | none => .error (.unboundDeclaration n)
  | .defined n =>
    if n ∈ ctx.functions then .ok (Code.functionSymbol n) else .error (.undefinedFunction n)

/-- The cell of a slot. -/
def Context.cell (ctx : Context) (slot : Nat) : Except Refusal Operand :=
  if slot < ctx.slots then .ok (.value (ctx.base + slot)) else .error (.noStorage slot)

/-! ## Expressions -/

/-- Instructions that compute `result`; the next free value number is `next`. -/
structure Fragment (α : Type) where
  instrs : List Instr
  result : α
  next : Nat

/-- Applies an operation to the result of the instructions so far. -/
def Fragment.define {α : Type} (f : Fragment α) (hint : String) (op : Op) : Fragment Operand :=
  ⟨f.instrs ++ [.define f.next hint op], .value f.next, f.next + 1⟩

/-- Applies an operator to two words. A comparison bit is extended to a word. -/
def Fragment.binary (f : Fragment (Operand × Operand)) : BinaryOp → Fragment Operand
  | .add => f.define "add" (.add f.result.1 f.result.2)
  | .equal =>
    let bit := f.define "eq" (.compare .equal f.result.1 f.result.2)
    bit.define "eq.zext" (.extend bit.result)
  | .notEqual =>
    let bit := f.define "ne" (.compare .notEqual f.result.1 f.result.2)
    bit.define "ne.zext" (.extend bit.result)

mutual

/-- Lowers an expression whose first value has number `next`. -/
def expr (ctx : Context) (next : Nat) : Bound.Expr → Except Refusal (Fragment Operand)
  | .int v => .ok ⟨[], .ofBits v.toUInt64, next⟩
  | .load slot => do
    let cell ← ctx.cell slot
    return Fragment.define ⟨[], (), next⟩ "load" (.load cell)
  | .binary op l r => do
    let l ← expr ctx next l
    let r ← expr ctx l.next r
    return Fragment.binary ⟨l.instrs ++ r.instrs, (l.result, r.result), r.next⟩ op
  | .call callee args => do
    let symbol ← ctx.symbol callee
    let args ← exprs ctx next args
    return args.define "call" (.call symbol args.result)

/-- Lowers expressions from left to right. -/
def exprs (ctx : Context) (next : Nat) :
    List Bound.Expr → Except Refusal (Fragment (List Operand))
  | [] => .ok ⟨[], [], next⟩
  | e :: es => do
    let e ← expr ctx next e
    let es ← exprs ctx e.next es
    return ⟨e.instrs ++ es.instrs, e.result :: es.result, es.next⟩

end

/-- Lowers a condition to a bit: every word but zero is true. -/
def condition (ctx : Context) (next : Nat) (c : Bound.Expr) :
    Except Refusal (Fragment Operand) := do
  let f ← expr ctx next c
  return f.define "cond" (.compare .notEqual f.result (.const 0))

/-! ## Statements -/

/-- A function under construction: the blocks so far, which of them grows, the next free value
number, and how many conditionals there have been. -/
structure Draft where
  blocks : List Block
  current : Nat
  next : Nat
  ifs : Nat

namespace Draft

/-- Adds instructions at the end of the current block. -/
def push (d : Draft) (is : List Instr) : Draft :=
  { d with blocks := d.blocks.modify d.current fun b => { b with instrs := b.instrs ++ is } }

/-- Adds empty blocks. -/
def append (d : Draft) (names : List String) : Draft :=
  { d with blocks := d.blocks ++ names.map fun n => ⟨n, []⟩ }

/-- Lets another block grow. -/
def moveTo (d : Draft) (block : Nat) : Draft :=
  { d with current := block }

/-- Whether there is a block that grows. -/
def isPlaced (d : Draft) : Bool :=
  d.current < d.blocks.length

/-- Adds instructions to the current block, if there is one. -/
def emit (d : Draft) (is : List Instr) : Except Refusal Draft :=
  if d.isPlaced then .ok (d.push is) else .error .unplaced

/-- Adds the instructions of a fragment to the current block. -/
def emitFragment {α : Type} (d : Draft) (f : Fragment α) : Except Refusal Draft :=
  { d with next := f.next }.emit f.instrs

/-- Adds empty blocks to the function that the current block is part of. -/
def reserve (d : Draft) (names : List String) : Except Refusal Draft :=
  if d.isPlaced then .ok (d.append names) else .error .outsideFunction

/-- Whether the current block still lacks a terminator. -/
def isOpen (d : Draft) : Except Refusal Bool :=
  match d.blocks[d.current]? with
  | some b => .ok !(b.instrs.getLast?.any Instr.isTerminator)
  | none => .error .outsideFunction

/-- Ends the current block with the given instruction, unless it has ended already. -/
def close (d : Draft) (i : Instr) : Except Refusal Draft := do
  if ← d.isOpen then d.emit [i] else return d

end Draft

/-- A loop around the statement at hand: the block of its condition and the one after it. -/
structure OpenLoop where
  id : Nat
  head : Nat
  exit : Nat
  deriving DecidableEq

/-- The block that a jump goes to. -/
def OpenLoop.target (l : OpenLoop) : Jump → Nat
  | .leave => l.exit
  | .again => l.head

/-- The names of the blocks of a conditional. -/
def ifNames (n : Nat) : List String :=
  [".then", ".else", ".end"].map fun part => "if" ++ Nat.repr n ++ part

/-- The names of the blocks of a loop. -/
def loopNames (id : Nat) : List String :=
  [".cond", ".body", ".end"].map fun part => "loop" ++ Nat.repr id ++ part

mutual

/-- Lowers a statement inside the given loops, the innermost first. -/
def stmt (ctx : Context) (loops : List OpenLoop) (d : Draft) : Bound.Stmt → Except Refusal Draft
  | .store slot e => do
    let f ← expr ctx d.next e
    let cell ← ctx.cell slot
    let d ← d.emitFragment f
    d.emit [.store f.result cell]
  | .ifElse c t e => do
    let f ← condition ctx d.next c
    let n := d.ifs
    let b := d.blocks.length
    let d ← { d with ifs := n + 1 }.emitFragment f
    let d ← d.reserve (ifNames n)
    let d ← d.emit [.branch f.result b (b + 1)]
    let d ← stmts ctx loops (d.moveTo b) t
    let d ← d.close (.jump (b + 2))
    let d ← stmts ctx loops (d.moveTo (b + 1)) e
    let d ← d.close (.jump (b + 2))
    return d.moveTo (b + 2)
  | .loop id c body => do
    let b := d.blocks.length
    let d ← d.reserve (loopNames id)
    let d ← d.emit [.jump b]
    let d := d.moveTo b
    let f ← condition ctx d.next c
    let d ← d.emitFragment f
    let d ← d.emit [.branch f.result (b + 1) (b + 2)]
    let d ← stmts ctx (⟨id, b, b + 2⟩ :: loops) (d.moveTo (b + 1)) body
    let d ← d.close (.jump b)
    return d.moveTo (b + 2)
  | .jump j id =>
    match loops.find? fun l => l.id = id with
    | none => .error (.noLoop id)
    | some l => do
      let b := d.blocks.length
      let d ← d.emit [.jump (l.target j)]
      let d ← d.reserve ["dead"]
      return d.moveTo b
  | .expr e => do
    let f ← expr ctx d.next e
    d.emitFragment f

/-- Lowers statements from the first to the last. -/
def stmts (ctx : Context) (loops : List OpenLoop) (d : Draft) :
    List Bound.Stmt → Except Refusal Draft
  | [] => .ok d
  | s :: ss => do
    let d ← stmt ctx loops d s
    stmts ctx loops d ss

end

/-! ## Functions and programs -/

/-- What slot `k` of the function `f` starts with, in a function of the given arity: its argument
or zero. -/
def initialValue (arity : Nat) (f : Bound.Function) (k : Nat) : Except Refusal Operand :=
  if k < f.params then
    if k < arity then .ok (.param k) else .error (.missingParameter f.name k)
  else .ok (.const 0)

/-- Makes and fills the cells of the slots numbered from `k` on. Slot `k` is value `base + k`. -/
def cells (arity : Nat) (f : Bound.Function) (base k : Nat) :
    List String → Except Refusal (List Instr)
  | [] => .ok []
  | name :: names => do
    let initial ← initialValue arity f k
    let rest ← cells arity f base (k + 1) names
    return .define (base + k) name .alloca :: .store initial (.value (base + k)) :: rest

/-- A function that has no blocks yet. -/
def Draft.empty : Draft := ⟨[], 0, 0, 0⟩

/-- Starts a body after the blocks there are: its cells are made and filled in a block of their
own. -/
def Draft.enter (d : Draft) (slots : Nat) (instrs : List Instr) : Draft :=
  ⟨d.blocks ++ [⟨"entry", instrs⟩], d.blocks.length, d.next + slots, 0⟩

/-- Lowers the body of a function after the blocks there are, in a function of the given arity. It
gives zero when it ends. -/
def body (functions : List String) (builtins : List Builtin) (arity : Nat) (d : Draft)
    (f : Bound.Function) : Except Refusal Draft := do
  let instrs ← cells arity f d.next 0 f.slots
  let ctx : Context := ⟨functions, builtins, d.next, f.slots.length⟩
  let d ← stmts ctx [] (d.enter f.slots.length instrs) f.body
  d.close (.ret (.const 0))

/-- Lowers bodies one after the other. -/
def bodies (functions : List String) (builtins : List Builtin) (arity : Nat) (d : Draft) :
    List Bound.Function → Except Refusal Draft
  | [] => .ok d
  | f :: fs => do
    let d ← body functions builtins arity d f
    bodies functions builtins arity d fs

/-- The functions of a name, in order. -/
def namesakes (name : String) (fs : List Bound.Function) : List Bound.Function :=
  fs.filter fun f => f.name = name

/-- Lowers a function that stands between others. The last function of a name has the bodies of
all functions of that name. -/
def function (names : List String) (builtins : List Builtin) (before : List Bound.Function)
    (f : Bound.Function) (after : List Bound.Function) : Except Refusal Code.Function := do
  let target := (namesakes f.name after).getLast?.getD f
  let d ← bodies names builtins target.params .empty (namesakes f.name before ++ [f])
  let blocks := if (namesakes f.name after).isEmpty then d.blocks else []
  return ⟨.internal, Code.functionSymbol f.name, f.params, blocks⟩

/-- Lowers functions in order, after those in `before`. -/
def functions (names : List String) (builtins : List Builtin) (before : List Bound.Function) :
    List Bound.Function → Except Refusal (List Code.Function)
  | [] => .ok []
  | f :: after => do
    let g ← function names builtins before f after
    let gs ← functions names builtins (before ++ [f]) after
    return g :: gs

/-- The built-in of a declaration. -/
def builtinOf (d : Bound.Declaration) : Except Refusal Builtin :=
  match Builtin.find? d.name with
  | none => .error (.noBuiltin d.name)
  | some b =>
    if b.arity = d.params.length then .ok b
    else .error (.builtinArity d.name d.params.length b.arity)

/-- The built-ins of declarations, in order. -/
def builtinsOf : List Bound.Declaration → Except Refusal (List Builtin)
  | [] => .ok []
  | d :: ds => do
    let b ← builtinOf d
    let bs ← builtinsOf ds
    return b :: bs

/-- The name of the function where a program starts. -/
def mainName : String := "main"

/-- Where a process starts: it calls the program's main function and gives zero. -/
def entry : Code.Function :=
  ⟨.external, Code.entrySymbol, 0,
    [⟨"entry", [.define 0 "" (.call (Code.functionSymbol mainName) []), .ret (.const 0)]⟩]⟩

end Lowering

/-- Lowers a bound program: the built-ins, then its functions, then the entry. -/
def lower (p : Bound.Program) : Except Lowering.Refusal Code.Module := do
  let builtins ← Lowering.builtinsOf p.declarations
  let names := p.functions.map Bound.Function.name
  let functions ← Lowering.functions names builtins [] p.functions
  if Lowering.mainName ∈ names then
    return ⟨builtins.flatMap Builtin.globals,
      builtins.map Builtin.function ++ functions ++ [Lowering.entry]⟩
  else .error (.undefinedFunction Lowering.mainName)

/-- Lowers a bound program and asks a verifier about the module. The verifier gives a reason if it
finds a fault. -/
def emitProgram (verify : Code.Module → Option String) (p : Bound.Program) :
    Except Lowering.Refusal Code.Module := do
  let m ← lower p
  match verify m with
  | none => return m
  | some reason => .error (.invalidModule reason)

end Looplet
