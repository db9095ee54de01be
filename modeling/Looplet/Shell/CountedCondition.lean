import Looplet.Shell.Condition

/-!
# Conditions by the number of their arguments

A condition of up to four arguments is read by how many they are; a longer one by its operators.
What can be wrong is told apart by its cause (`Fault`), which every program words in its own way.
-/

namespace Looplet.Shell.CountedCondition

/-- Why a condition cannot be read. -/
inductive Fault where
  | notNumber (arg : String)
  | notUnary (arg : String)
  | notBinary (arg : String)
  | missingAfter (arg : String)
  | missingParen (found? : Option String)
  | tooMany (arg : String)
  | missingBracket
  deriving DecidableEq

/-- An argument as a number. -/
def number (s : String) : Except Fault Int :=
  let cs := (s.toList.dropWhile Arithmetic.isSpace).reverse.dropWhile Arithmetic.isSpace
  let (sign, body) := match cs.reverse with
    | '-' :: ds => (-1, ds)
    | '+' :: ds => (1, ds)
    | ds => ((1 : Int), ds)
  match Text.natural? body with
  | some n => .ok (sign * Int.ofNat n)
  | none => .error (.notNumber s)

/-- What a condition may ask. -/
structure Tests where
  unary : List String
  binary : List String
  holds : String → String → Except Fault Bool
  number : String → Except Fault Int
  compare : String → String → String → Bool
  /-- The operators before which `-l` stands for the length of a text. -/
  lengthBefore : List String
  /-- Whether what looks like an operator is taken for one, even if it is none. -/
  byLooks : Bool
  /-- The operators that do not hold of anything but a number, and leave it alone. -/
  numeric : List String

/-- Compares two operands. -/
def binary (t : Tests) (a op b : String) : Except Fault Bool := do
  match op with
  | "=" | "==" => return a = b
  | "!=" => return a ≠ b
  | "<" => return a.toList < b.toList
  | ">" => return b.toList < a.toList
  | "-nt" | "-ot" | "-ef" => return t.compare op a b
  | _ =>
    let (m, n) := (← t.number a, ← t.number b)
    match op with
    | "-eq" => return m = n
    | "-ne" => return m ≠ n
    | "-ge" => return m ≥ n
    | "-gt" => return m > n
    | "-le" => return m ≤ n
    | _ => return m < n

/-- Whether an argument looks like an operator with one operand. -/
def looksUnary (s : String) : Bool :=
  match s.toList with
  | ['-', _] => true
  | _ => false

/-- Whether an argument is taken for an operator with one operand. -/
def Tests.takesUnary (t : Tests) (s : String) : Bool :=
  if t.byLooks then looksUnary s else s ∈ t.unary

/-- Whether an operator leaves an operand alone. -/
def Tests.leaves (t : Tests) (op a : String) : Bool :=
  op ∈ t.numeric && match t.number a with
    | .ok _ => false
    | .error _ => true

/-- An operator with one operand. -/
def unary (t : Tests) (op a : String) : Except Fault Bool :=
  if op ∈ t.unary then
    match op with
    | "-z" => .ok (a = "")
    | "-n" => .ok (a ≠ "")
    | _ => t.holds op a
  else .error (.notUnary op)

mutual

/-- Reads a condition without connectives. Gives what is left. -/
def term (t : Tests) (last : String) : Nat → List String → Except Fault (Bool × List String)
  | 0, _ => .error (.missingAfter last)
  | fuel + 1, args =>
    match args with
    | [] => .error (.missingAfter last)
    | "!" :: rest => do
      let (b, rest) ← term t last fuel rest
      return (!b, rest)
    | "(" :: rest => do
      let (b, rest) ← either t last fuel rest
      match rest with
      | ")" :: rest => return (b, rest)
      | [] => .error (.missingParen none)
      | s :: _ => .error (.missingParen (some s))
    | a :: op :: b :: rest =>
      match if a = "-l" && b ∈ t.lengthBefore then rest else [] with
      | c :: rest => do return (← binary t (Nat.repr op.length) b c, rest)
      | [] =>
        if op ∈ t.binary then do return (← binary t a op b, rest)
        else if t.leaves a op then .ok (false, op :: b :: rest)
        else if t.takesUnary a then do return (← unary t a op, b :: rest)
        else .ok (a ≠ "", op :: b :: rest)
    | [a, b] =>
      if t.leaves a b then .ok (false, [b])
      else if t.takesUnary a then do return (← unary t a b, [])
      else .ok (a ≠ "", [b])
    | [a] => .ok (a ≠ "", [])

/-- Reads conditions that must all hold. -/
def both (t : Tests) (last : String) : Nat → List String → Except Fault (Bool × List String)
  | 0, _ => .error (.missingAfter last)
  | fuel + 1, args => do
    let (a, rest) ← term t last fuel args
    match rest with
    | "-a" :: rest =>
      let (b, rest) ← both t last fuel rest
      return (a && b, rest)
    | _ => return (a, rest)

/-- Reads conditions of which one must hold. -/
def either (t : Tests) (last : String) : Nat → List String → Except Fault (Bool × List String)
  | 0, _ => .error (.missingAfter last)
  | fuel + 1, args => do
    let (a, rest) ← both t last fuel args
    match rest with
    | "-o" :: rest =>
      let (b, rest) ← either t last fuel rest
      return (a || b, rest)
    | _ => return (a, rest)

end

/-- Reads a condition of any length. -/
def whole (t : Tests) (args : List String) : Except Fault Bool := do
  let (b, rest) ← either t (args.getLast?.getD "") (4 * args.length + 8) args
  match rest with
  | [] => return b
  | s :: _ => .error (.tooMany s)

/-- A condition of two arguments. -/
def two (t : Tests) (a b : String) : Except Fault Bool :=
  if a = "!" then .ok (b = "")
  else if looksUnary a then unary t a b
  else .error (if t.byLooks then .missingAfter b else .notUnary a)

/-- A condition of three arguments. -/
def three (t : Tests) (a op b : String) : Except Fault Bool :=
  if op ∈ t.binary then binary t a op b
  else if op = "-a" then .ok (a ≠ "" && b ≠ "")
  else if op = "-o" then .ok (a ≠ "" || b ≠ "")
  else if a = "!" then do return !(← two t op b)
  else if a = "(" && b = ")" then .ok (op ≠ "")
  else .error (.notBinary op)

/-- Whether a condition holds. -/
def holds (t : Tests) (args : List String) : Except Fault Bool :=
  match args with
  | [] => .ok false
  | [a] => .ok (a ≠ "")
  | [a, b] => two t a b
  | [a, b, c] => three t a b c
  | [a, b, c, d] =>
    if a = "!" then do return !(← three t b c d)
    else if a = "(" && d = ")" then two t b c
    else whole t args
  | _ => whole t args

/-- Whether a condition holds whose last argument must be a bracket. -/
def ofBracketed (t : Tests) (args : List String) : Except Fault Bool :=
  if args.getLast? = some "]" then holds t args.dropLast else .error .missingBracket

end Looplet.Shell.CountedCondition
