import Looplet.Shell.Arithmetic

/-!
# Conditions

The conditions of `test`: on texts, on numbers and on files, joined by `!`, `-a` and `-o`.
Conditions of up to four arguments are read by their number first, so that an argument that looks
like an operator can be an operand.
-/

namespace Looplet.Shell.Condition

/-- The operators with one operand. -/
def unaryOps : List String :=
  ["-r", "-w", "-x", "-e", "-f", "-d", "-c", "-b", "-p", "-u", "-g", "-k", "-s", "-t", "-z", "-n",
    "-h", "-O", "-G", "-L", "-S"]

/-- The operators with two operands. -/
def binaryOps : List String :=
  ["=", "!=", "<", ">", "-eq", "-ne", "-ge", "-gt", "-le", "-lt", "-nt", "-ot", "-ef"]

/-- What an argument is read as. -/
inductive Symbol where
  | ending
  | operand
  | unary (op : String)
  | binary (op : String)
  | both
  | either
  | negation
  | openParen
  | closeParen
  deriving DecidableEq

/-- What is asked about files: a test on one path or on two. -/
structure Files where
  holds : String → String → Bool
  compare : String → String → String → Bool

/-- A condition that is being read: its arguments, and the place of the one at hand. -/
abbrev Reading := StateT Nat (Except String)

/-- Whether the argument after a place makes the one at it an operand. -/
def isOperand (args : Array String) (i : Nat) : Bool :=
  match args[i + 1]?, args[i + 2]? with
  | none, _ => true
  | some _, none => false
  | some s, some _ => s ∈ binaryOps

/-- What the argument at a place is read as. -/
def symbolAt (args : Array String) (i : Nat) : Symbol :=
  match args[i]? with
  | none => .ending
  | some s =>
    if s ∈ unaryOps then if isOperand args i then .operand else .unary s
    else if s ∈ binaryOps then .binary s
    else if s = "-a" then .both
    else if s = "-o" then .either
    else if s = "!" then .negation
    else if s = "(" then if (args[i + 1]?).isNone then .operand else .openParen
    else if s = ")" then .closeParen
    else .operand

/-- A fault, which may name an argument. -/
def fault {α : Type} (name message : String) : Reading α :=
  throw (if name = "" then message else name ++ ": " ++ message)

/-- An argument as a number. -/
def number (s : String) : Reading Int :=
  let bad {α : Type} : Reading α := throw ("Illegal number: " ++ s)
  let cs := s.toList.dropWhile Arithmetic.isSpace
  let (negative, body) := match cs with
    | '-' :: ds => (true, ds)
    | '+' :: ds => (false, ds)
    | ds => (false, ds)
  let digits := body.takeWhile Char.isDigit
  let n := Int.ofNat (Text.digitsValue digits)
  let n := if negative then -n else n
  let ends := (body.drop digits.length).all Arithmetic.isSpace
  if digits.isEmpty || !ends || !Text.fitsWord n then bad
  else return n

/-- Compares two operands. -/
def compared (files : Files) (op a b : String) : Reading Bool := do
  match op with
  | "=" => return a = b
  | "!=" => return a ≠ b
  | "<" => return a.toList < b.toList
  | ">" => return b.toList < a.toList
  | "-eq" => return (← number a) = (← number b)
  | "-ne" => return (← number a) ≠ (← number b)
  | "-ge" => return (← number a) ≥ (← number b)
  | "-gt" => return (← number a) > (← number b)
  | "-le" => return (← number a) ≤ (← number b)
  | "-lt" => return (← number a) < (← number b)
  | _ => return files.compare op a b

/-- What holds of one operand. -/
def tested (files : Files) (op s : String) : Reading Bool := do
  match op with
  | "-z" => return s = ""
  | "-n" => return s ≠ ""
  | "-t" =>
    let _ ← number s
    return false
  | _ => return files.holds op s

mutual

/-- Reads a condition without connectives, whose first symbol is given. -/
def primary (files : Files) (args : Array String) : Nat → Symbol → Reading Bool
  | 0, _ => return false
  | fuel + 1, s => do
    let i ← get
    match s with
    | .ending => return false
    | .openParen =>
      set (i + 1)
      let t := symbolAt args (i + 1)
      if t = .closeParen then return false
      let r ← either files args fuel t
      modify (· + 1)
      if symbolAt args (← get) = .closeParen then return r else fault "" "closing paren expected"
    | .unary op =>
      set (i + 1)
      match args[i + 1]? with
      | some a => tested files op a
      | none => fault op "argument expected"
    | _ =>
      match symbolAt args (i + 1) with
      | .binary op =>
        set (i + 2)
        match args[i + 2]? with
        | some b => compared files op (args[i]?.getD "") b
        | none => fault op "argument expected"
      | _ => return args[i]?.getD "" ≠ ""

/-- Reads a condition that may be negated. -/
def negated (files : Files) (args : Array String) : Nat → Symbol → Reading Bool
  | 0, _ => return false
  | fuel + 1, s => do
    if s = .negation then
      let i ← get
      let t := symbolAt args (i + 1)
      if t ≠ .ending then set (i + 1)
      return !(← negated files args fuel t)
    else primary files args fuel s

/-- Reads conditions that must all hold. -/
def both (files : Files) (args : Array String) : Nat → Symbol → Reading Bool
  | 0, _ => return false
  | fuel + 1, s => do
    let r ← negated files args fuel s
    let i ← get
    if symbolAt args (i + 1) = .both then
      set (i + 2)
      let rest ← both files args fuel (symbolAt args (i + 2))
      return r && rest
    else return r

/-- Reads conditions of which one must hold. -/
def either (files : Files) (args : Array String) : Nat → Symbol → Reading Bool
  | 0, _ => return false
  | fuel + 1, s => do
    let r ← both files args fuel s
    let i ← get
    if symbolAt args (i + 1) = .either then
      set (i + 2)
      let rest ← either files args fuel (symbolAt args (i + 2))
      return r || rest
    else return r

end

/-- Reads all of a condition whose first symbol is given. -/
def whole (files : Files) (args : List String) (first? : Option Symbol) : Except String Bool := do
  let a := args.toArray
  let (r, i) ← (either files a (4 * a.size + 8) (first?.getD (symbolAt a 0))).run 0
  match a[i]?, a[i + 1]? with
  | some s, some _ => throw (if s = "" then "unexpected operator" else s ++ ": unexpected operator")
  | _, _ => return r

/-- Whether a condition holds, or does not hold if it is `negated`. A sign of negation before two or
three arguments negates the condition, and a second one does not change that. -/
def holds (files : Files) (negated : Bool) : Nat → List String → Except String Bool
  | 0, _ => return false
  | fuel + 1, args =>
    let settled (args : List String) (first? : Option Symbol) : Except String Bool := do
      return (← whole files args first?) != negated
    match args with
    | [] => return false
    | [a, op, b] =>
      if op ∈ binaryOps then settled args (some .operand)
      else if a = "(" && b = ")" then settled [op] none
      else if a = "!" then holds files true fuel [op, b]
      else settled args none
    | [a, b, c, d] =>
      if a = "(" && d = ")" then settled [b, c] none
      else if a = "!" then holds files true fuel [b, c, d]
      else settled args none
    | _ => settled args none

/-- Whether the condition of the arguments of `test` holds. -/
def ofArguments (files : Files) (args : List String) : Except String Bool :=
  holds files false 3 args

/-- Whether the condition of the arguments of `[` holds, the last of which must be a bracket. -/
def ofBracketed (files : Files) (args : List String) : Except String Bool :=
  if args.getLast? = some "]" then ofArguments files args.dropLast else .error "missing ]"

end Looplet.Shell.Condition
