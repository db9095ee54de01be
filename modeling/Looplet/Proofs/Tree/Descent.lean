import Looplet.Proofs.Tree.Reading

/-!
# The descent by index

A `Descent` reads tokens at an index into the whole list and moves the index, past no ending token.
A look at a token is limited to the last one. Nothing in the way the descent is put together keeps
it from looking into an empty list (`Outcome.outside`), or from going around without moving, until
its budget is used up (`Outcome.unfinished`).

    expr budget : Descent Expr        reads an expression, and so on for each step of the grammar
-/

namespace Looplet

open Looplet.Tree (Expr Stmt Item)
open Looplet.Parser (Expected comparison?)

namespace Descent

/-- How a descent ends. -/
inductive Outcome (α : Type) where
  | outside
  | unfinished
  | mismatch (expected : Expected) (found : Token) (index : Nat)
  | done (value : α) (index : Nat)

end Descent

/-- Reads a value off a list of tokens from an index on. -/
structure Descent (α : Type) where
  run : List Token → Nat → Descent.Outcome α

namespace Descent

variable {α β : Type}

instance : Monad Descent where
  pure a := ⟨fun _ i => .done a i⟩
  bind d k := ⟨fun ts i =>
    match d.run ts i with
    | .outside => .outside
    | .unfinished => .unfinished
    | .mismatch x t i => .mismatch x t i
    | .done a i => (k a).run ts i⟩

/-! ## Tokens -/

/-- Ends for want of budget. -/
def exhausted : Descent α := ⟨fun _ _ => .unfinished⟩

/-- The token some places ahead, or the last one if there are fewer. -/
def peekAt (ahead : Nat) : Descent Token := ⟨fun ts i =>
  match ts[min (i + ahead) (ts.length - 1)]? with
  | none => .outside
  | some t => .done t i⟩

/-- The next token. -/
def peek : Descent Token := peekAt 0

/-- Whether the next token is of the given kind. -/
def check (k : Token.Kind) : Descent Bool := do
  let t ← peek
  return t.kind = k

/-- Moves the index on. -/
def move : Descent Unit := ⟨fun _ i => .done () (i + 1)⟩

/-- Takes the next token, unless it is an ending token. -/
def advance : Descent Token := do
  let t ← peek
  if t.kind ≠ .ending then move
  return t

/-- Takes the next token if it is of the given kind. -/
def eat (k : Token.Kind) : Descent Bool := do
  if ← check k then
    let _ ← advance
    return true
  else return false

/-- Ends with a mismatch at the token `t`. -/
def fail (x : Expected) (t : Token) : Descent α := ⟨fun _ i => .mismatch x t i⟩

/-- Ends with a mismatch at the next token. -/
def unexpected (x : Expected) : Descent α := do
  fail x (← peek)

/-- Takes the next token, which has to be of the given kind. -/
def expect (k : Token.Kind) : Descent Token := do
  if ← check k then advance else unexpected (.kind k)

/-! ## Expressions -/

mutual

/-- Reads an expression. -/
def expr : Nat → Descent Expr
  | 0 => exhausted
  | n + 1 => do
    let l ← sum n
    comparisons n l

/-- Reads comparisons onto the expression on their left. -/
def comparisons : Nat → Expr → Descent Expr
  | 0, _ => exhausted
  | n + 1, lhs => do
    match comparison? (← peek).kind with
    | none => return lhs
    | some op =>
      let _ ← advance
      let r ← sum n
      comparisons n (.binary op lhs r)

/-- Reads a sum. -/
def sum : Nat → Descent Expr
  | 0 => exhausted
  | n + 1 => do
    let l ← primary n
    additions n l

/-- Reads additions onto the expression on their left. -/
def additions : Nat → Expr → Descent Expr
  | 0, _ => exhausted
  | n + 1, lhs => do
    if ← eat .plus then
      let r ← primary n
      additions n (.binary .add lhs r)
    else return lhs

/-- Reads a number, a variable, a call or an expression in parentheses. -/
def primary : Nat → Descent Expr
  | 0 => exhausted
  | n + 1 => do
    match (← peek).kind with
    | .number =>
      let t ← advance
      match t.value? with
      | none => fail (.kind .number) t
      | some v => return .int v
    | .name =>
      let t ← advance
      if ← eat .openParen then
        let as ← arguments n
        return .call t.text as t.position
      else return .var t.text t.position
    | .openParen =>
      let _ ← advance
      let e ← expr n
      let _ ← expect .closeParen
      return e
    | _ => unexpected .expression

/-- Reads the arguments of a call and the parenthesis that closes them. -/
def arguments : Nat → Descent (List Expr)
  | 0 => exhausted
  | n + 1 => do
    if ← check .closeParen then
      let _ ← expect .closeParen
      return []
    else moreArguments n

/-- Reads one or more arguments and the parenthesis that closes them. -/
def moreArguments : Nat → Descent (List Expr)
  | 0 => exhausted
  | n + 1 => do
    let e ← expr n
    if ← eat .comma then
      let es ← moreArguments n
      return e :: es
    else
      let _ ← expect .closeParen
      return [e]

end

/-! ## Statements -/

/-- Reads an expression statement. -/
def expression (n : Nat) : Descent Stmt := do
  let e ← expr n
  let _ ← expect .semicolon
  return .expr e

/-- Reads an assignment. -/
def assignment (n : Nat) : Descent Stmt := do
  let x ← advance
  let _ ← advance
  let e ← expr n
  let _ ← expect .semicolon
  return .assign x.text e x.position

/-- Reads a jump. -/
def jump (j : Jump) : Descent Stmt := do
  let keyword ← advance
  if ← check .name then
    let label ← advance
    let _ ← expect .semicolon
    return .jump j (some label.text) keyword.position
  else
    let _ ← expect .semicolon
    return .jump j none keyword.position

mutual

/-- Reads a block. -/
def block : Nat → Descent (List Stmt)
  | 0 => exhausted
  | n + 1 => do
    let _ ← expect .openBrace
    statements n

/-- Reads statements and the brace that closes them. -/
def statements : Nat → Descent (List Stmt)
  | 0 => exhausted
  | n + 1 => do
    if ← check .closeBrace then
      let _ ← expect .closeBrace
      return []
    else if ← check .ending then unexpected (.kind .closeBrace)
    else
      let s ← statement n
      let ss ← statements n
      return s :: ss

/-- Reads a statement. -/
def statement : Nat → Descent Stmt
  | 0 => exhausted
  | n + 1 => do
    match (← peek).kind with
    | .ifWord => branch n
    | .whileWord => loop n none
    | .breakWord => jump .leave
    | .continueWord => jump .again
    | .name =>
      if (← peekAt 1).kind = .arrow then assignment n
      else if (← peekAt 1).kind = .colon then
        let label ← advance
        let _ ← advance
        if ← check .whileWord then loop n (some label) else unexpected .loopAfterLabel
      else expression n
    | _ => expression n

/-- Reads a conditional. -/
def branch : Nat → Descent Stmt
  | 0 => exhausted
  | n + 1 => do
    let _ ← expect .ifWord
    let c ← expr n
    let t ← block n
    if ← eat .elseWord then
      let e ← block n
      return .ifElse c t e
    else return .ifThen c t

/-- Reads a loop after its label. -/
def loop : Nat → Option Token → Descent Stmt
  | 0, _ => exhausted
  | n + 1, label? => do
    let keyword ← expect .whileWord
    let c ← expr n
    let b ← block n
    return .loop (label?.map Token.text) c b ((label?.getD keyword).position)

end

/-! ## Items -/

/-- Reads one or more parameter names and the parenthesis that closes them. -/
def moreParams : Nat → Descent (List String)
  | 0 => exhausted
  | n + 1 => do
    let x ← expect .name
    if ← eat .comma then
      let xs ← moreParams n
      return x.text :: xs
    else
      let _ ← expect .closeParen
      return [x.text]

/-- Reads the parameters of an item and the parenthesis that closes them. -/
def params (n : Nat) : Descent (List String) := do
  if ← check .closeParen then
    let _ ← expect .closeParen
    return []
  else moreParams n

/-- Reads the body of an item, or the semicolon that stands for none. -/
def body (n : Nat) : Descent (Option (List Stmt)) := do
  if ← eat .semicolon then return none
  else if ← check .openBrace then
    let b ← block n
    return some b
  else unexpected .semicolonOrBody

/-- Reads an item. -/
def item (n : Nat) : Descent Item := do
  let f ← expect .funcWord
  let x ← expect .name
  let _ ← expect .openParen
  let xs ← params n
  let b ← body n
  return ⟨x.text, xs, f.position, b⟩

/-- Reads items up to an ending token. -/
def items : Nat → Descent (List Item)
  | 0 => exhausted
  | n + 1 => do
    if ← check .ending then return []
    else
      let i ← item n
      let is ← items n
      return i :: is

/-- Reads a program. -/
def program (n : Nat) : Descent Program := do
  return ⟨← items n⟩

end Descent

end Looplet
