import Looplet.Proofs.Outcome

/-!
# The meaning of program trees

An activation of a function gives a word to every name (`Env`): its arguments to the parameters,
and zero to all other names until they are assigned. A jump without a label acts on the innermost
loop, one with a label on the innermost loop of that label.

    p.run budget        what `main` comes to

Calls and loops share the budget: a program that needs deeper calls or more turns is unfinished.
-/

namespace Looplet

namespace Tree

/-- The words of all names. -/
abbrev Env := String → Int64

/-- Gives a word to a name. -/
def Env.set (env : Env) (x : String) (w : Int64) : Env :=
  fun y => if y = x then w else env y

/-- What the names stand for at the start of a call. -/
def Env.start (params : List String) (args : List Int64) : Env :=
  fun x =>
    match params.idxOf? x with
    | some k => args.getD k 0
    | none => 0

/-- What the calls in a body come to. -/
abbrev Calls := String → List Int64 → Outcome Int64

mutual

/-- The word of an expression. Operands and arguments are evaluated from left to right. -/
def Expr.eval (call : Calls) (env : Env) : Expr → Outcome Int64
  | .int v => return v
  | .var x _ => return env x
  | .binary op l r => do
    let a ← l.eval call env
    let b ← r.eval call env
    return op.apply a b
  | .call f args _ => do
    let ws ← Expr.evalAll call env args
    call f ws

/-- The words of expressions, evaluated from left to right. -/
def Expr.evalAll (call : Calls) (env : Env) : List Expr → Outcome (List Int64)
  | [] => return []
  | e :: es => do
    let w ← e.eval call env
    let ws ← Expr.evalAll call env es
    return w :: ws

end

/-- Whether a jump with or without a label acts on the loop that it stands in. -/
def actsOn (label? target : Option String) : Bool :=
  match target with
  | none => true
  | some label => label? = some label

mutual

/-- Runs a statement. Each loop in it has the given number of turns. -/
def Stmt.exec (call : Calls) (turns : Nat) :
    Stmt → Env → Outcome (Signal (Option String) × Env)
  | .assign x e _, env => do
    let w ← e.eval call env
    return (.next, env.set x w)
  | .ifThen c body, env => do
    let w ← c.eval call env
    if w = 0 then return (.next, env) else Stmt.execAll call turns body env
  | .ifElse c t e, env => do
    let w ← c.eval call env
    if w = 0 then Stmt.execAll call turns e env else Stmt.execAll call turns t env
  | .loop label? c body _, env =>
    Outcome.iterate (actsOn label?) (fun env => c.eval call env)
      (fun env => Stmt.execAll call turns body env) turns env
  | .jump j target _, env => return (.jump j target, env)
  | .expr e, env => do
    let _ ← e.eval call env
    return (.next, env)

/-- Runs statements until one of them jumps. -/
def Stmt.execAll (call : Calls) (turns : Nat) :
    List Stmt → Env → Outcome (Signal (Option String) × Env)
  | [], env => return (.next, env)
  | s :: ss, env => do
    let (signal, env) ← s.exec call turns env
    match signal with
    | .next => Stmt.execAll call turns ss env
    | .jump j target => return (.jump j target, env)

end

/-- Runs the body of a function. A call gives zero. -/
def runBody (params : List String) (body : List Stmt) (call : Calls) (turns : Nat)
    (args : List Int64) : Outcome Int64 := do
  let (signal, _) ← Stmt.execAll call turns body (Env.start params args)
  match signal with
  | .next => return 0
  | .jump _ _ => .undefined

/-- What a call of an item comes to, `call` being what the calls in its body come to. -/
def Item.run (i : Item) (call : Calls) (turns : Nat) (args : List Int64) : Outcome Int64 :=
  match i.body? with
  | none => callDeclared i.name args
  | some body =>
    if args.length = i.params.length then runBody i.params body call turns args else .undefined

end Tree

/-- The item of a name. -/
def Program.item? (p : Program) (name : String) : Option Tree.Item :=
  p.items.find? fun i => i.name = name

/-- What a call comes to on a budget. -/
def Program.call (p : Program) : Nat → Tree.Calls
  | 0, _, _ => .unfinished []
  | budget + 1, f, args =>
    match p.item? f with
    | some i => i.run (p.call budget) budget args
    | none => .undefined

/-- What a program comes to on a budget. -/
def Program.run (p : Program) (budget : Nat) : Outcome Int64 :=
  p.call budget "main" []

end Looplet
