import Looplet.Bound
import Looplet.Proofs.Outcome

/-!
# The meaning of bound programs

An activation of a function is a list of cells, one for each slot. Expressions read the cells,
statements give new ones. A jump acts on the innermost loop around it that has its number, whatever
other loops have that number too.

    p.run budget        what `main` comes to

Calls and loops share the budget: a program that needs deeper calls or more turns is unfinished.
-/

namespace Looplet

namespace Bound

/-- What the calls in a body come to. -/
abbrev Calls := Callee → List Int64 → Outcome Int64

mutual

/-- The word of an expression. Operands and arguments are evaluated from left to right. -/
def Expr.eval (call : Calls) (cells : List Int64) : Expr → Outcome Int64
  | .int v => return v
  | .load slot => .ofOption cells[slot]?
  | .binary op l r => do
    let a ← l.eval call cells
    let b ← r.eval call cells
    return op.apply a b
  | .call callee args => do
    let ws ← Expr.evalAll call cells args
    call callee ws

/-- The words of expressions, evaluated from left to right. -/
def Expr.evalAll (call : Calls) (cells : List Int64) : List Expr → Outcome (List Int64)
  | [] => return []
  | e :: es => do
    let w ← e.eval call cells
    let ws ← Expr.evalAll call cells es
    return w :: ws

end

mutual

/-- Runs a statement. Each loop in it has the given number of turns. -/
def Stmt.exec (call : Calls) (turns : Nat) :
    Stmt → List Int64 → Outcome (Signal Nat × List Int64)
  | .store slot e, cells => do
    let w ← e.eval call cells
    if slot < cells.length then return (.next, cells.set slot w) else .undefined
  | .ifElse c t e, cells => do
    let w ← c.eval call cells
    if w = 0 then Stmt.execAll call turns e cells else Stmt.execAll call turns t cells
  | .loop id c body, cells =>
    Outcome.iterate (fun target => target = id) (fun cells => c.eval call cells)
      (fun cells => Stmt.execAll call turns body cells) turns cells
  | .jump j id, cells => return (.jump j id, cells)
  | .expr e, cells => do
    let _ ← e.eval call cells
    return (.next, cells)

/-- Runs statements until one of them jumps. -/
def Stmt.execAll (call : Calls) (turns : Nat) :
    List Stmt → List Int64 → Outcome (Signal Nat × List Int64)
  | [], cells => return (.next, cells)
  | s :: ss, cells => do
    let (signal, cells) ← s.exec call turns cells
    match signal with
    | .next => Stmt.execAll call turns ss cells
    | .jump j id => return (.jump j id, cells)

end

/-- The cells at the start of a call: the first `params` hold arguments, the others zero. -/
def Function.cells (f : Function) (args : List Int64) : List Int64 :=
  (List.range f.slots.length).map fun k => if k < f.params then args.getD k 0 else 0

/-- Runs the body of a function. A call gives zero. -/
def Function.run (f : Function) (call : Calls) (turns : Nat) (args : List Int64) :
    Outcome Int64 := do
  let (signal, _) ← Stmt.execAll call turns f.body (f.cells args)
  match signal with
  | .next => return 0
  | .jump _ _ => .undefined

/-- The function of a name. -/
def Program.function? (p : Program) (name : String) : Option Function :=
  p.functions.find? fun f => f.name = name

/-- What a call comes to on a budget. -/
def Program.call (p : Program) : Nat → Calls
  | 0, _, _ => .unfinished []
  | _ + 1, .declared name, args => callDeclared name args
  | budget + 1, .defined name, args =>
    match p.function? name with
    | some f => if args.length = f.params then f.run (p.call budget) budget args else .undefined
    | none => .undefined

/-- What a program comes to on a budget. -/
def Program.run (p : Program) (budget : Nat) : Outcome Int64 :=
  p.call budget (.defined "main") []

end Bound

end Looplet
