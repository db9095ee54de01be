import Looplet.Text.Decimal

/-!
# Arithmetic

Expressions over signed 64-bit words with variables. An expression is computed while it is read
(`valueOf`), so a part that has no value is reported before a fault in the form of what follows it.
What does not count, such as a branch that is not taken, is read without being computed. Numbers may
be decimal, octal or hexadecimal; one that is too large counts as the largest word.
-/

namespace Looplet.Shell.Arithmetic

open Text (isDigitIn valueIn)

/-- A symbol of an expression. -/
inductive Symbol where
  | number (value : Int64)
  | name (name : String)
  | sign (text : String)
  | bad
  deriving DecidableEq

/-! ## Numbers -/

/-- The largest word that is not above a number. -/
def saturated (n : Int) : Int64 :=
  if n > 9223372036854775807 then Int64.ofInt 9223372036854775807
  else if n < -9223372036854775808 then Int64.ofInt (-9223372036854775808)
  else Int64.ofInt n

/-- Reads the number at the start of a text, and what follows it. -/
def number (cs : List Char) : Nat × List Char :=
  let inBase := fun (base : Nat) (ds : List Char) =>
    (valueIn base (ds.takeWhile (isDigitIn base)), ds.dropWhile (isDigitIn base))
  match cs with
  | '0' :: x :: d :: ds =>
    if (x = 'x' || x = 'X') && isDigitIn 16 d then inBase 16 (d :: ds) else inBase 8 cs
  | '0' :: _ => inBase 8 cs
  | _ => inBase 10 cs

/-- Whether a character is blank in an expression. -/
def isSpace (c : Char) : Bool := c = ' ' || ('\t' ≤ c && c ≤ '\r')

/-- The value of a whole text that is a number, perhaps with a sign and with blanks around it. A
text of blanks is zero. The sign stands before digits and not before blanks. -/
def wordOf? (s : String) : Option Int :=
  let cs := s.toList.dropWhile isSpace
  let (negative, body) := match cs with
    | '-' :: ds => (true, ds)
    | '+' :: ds => (false, ds)
    | ds => (false, ds)
  if cs.isEmpty then some 0
  else if !(body.head?.map Char.isDigit).getD false then none
  else
    let (n, rest) := number body
    if rest.all isSpace then some (if negative then -Int.ofNat n else Int.ofNat n) else none

/-! ## Symbols -/

/-- The signs, longer ones first. -/
def signs : List String :=
  ["<<=", ">>=", "<<", ">>", "<=", ">=", "==", "!=", "&&", "||", "+=", "-=", "*=", "/=", "%=",
    "&=", "^=", "|=", "=", "<", ">", "&", "|", "^", "!", "~", "?", ":", "(", ")", "+", "-", "*",
    "/", "%"]

/-- The symbols of an expression. -/
def symbols : Nat → List Char → List Symbol
  | 0, _ => []
  | _ + 1, [] => []
  | fuel + 1, c :: cs =>
    if isSpace c then symbols fuel cs
    else if c.isDigit then
      let (n, rest) := number (c :: cs)
      .number (saturated n) :: symbols fuel rest
    else if c.isAlpha || c = '_' then
      let isNameChar := fun (d : Char) => d.isAlphanum || d = '_'
      .name (String.ofList ((c :: cs).takeWhile isNameChar))
        :: symbols fuel ((c :: cs).dropWhile isNameChar)
    else
      match signs.find? fun s => s.toList.isPrefixOf (c :: cs) with
      | some s => .sign s :: symbols fuel ((c :: cs).drop s.length)
      | none => [.bad]

/-! ## Words -/

/-- The word of a truth value. -/
def truth (b : Bool) : Int64 := if b then 1 else 0

/-- The least word. -/
def leastWord : Int64 := Int64.ofInt (-9223372036854775808)

/-- Whether a quotient does not fit in a word. -/
def quotientOverflows (a b : Int64) : Bool := a = leastWord && b = -1

/-- Applies an operator to two words. Only a division may have no value. -/
def applied? (op : String) (a b : Int64) : Option Int64 :=
  let power := Int.ofNat (Nat.shiftLeft 1 (b.toInt % 64).toNat)
  match op with
  | "*" => some (a * b)
  | "/" => if b = 0 || quotientOverflows a b then none else some (a / b)
  | "%" => if b = 0 || quotientOverflows a b then none else some (a % b)
  | "+" => some (a + b)
  | "-" => some (a - b)
  | "<<" => some (Int64.ofInt (a.toInt * power))
  | ">>" => some (Int64.ofInt (Int.fdiv a.toInt power))
  | "<" => some (truth (a < b))
  | "<=" => some (truth (a ≤ b))
  | ">" => some (truth (b < a))
  | ">=" => some (truth (b ≤ a))
  | "==" => some (truth (a = b))
  | "!=" => some (truth (a ≠ b))
  | "&" => some (a &&& b)
  | "^" => some (a ^^^ b)
  | "|" => some (a ||| b)
  | _ => none

/-- What evaluation needs from the shell: the values of variables, a way to set them, and a way to
give up. -/
structure Scope (m : Type → Type) where
  lookup : String → m Int64
  assign : String → Int64 → m Unit
  fail : {α : Type} → String → m α
  /-- What becomes of a quotient that does not fit. -/
  overflow : m Int64

/-- Applies an operator or gives up. -/
def Scope.apply {m : Type → Type} [Monad m] (scope : Scope m) (op : String) (a b : Int64) :
    m Int64 :=
  match applied? op a b with
  | some n => return n
  | none => if b = 0 then scope.fail "division by zero" else scope.overflow

/-! ## Reading -/

/-- How tightly an operator between two words binds. -/
def precedence? : String → Option Nat
  | "*" | "/" | "%" => some 8
  | "+" | "-" => some 7
  | "<<" | ">>" => some 6
  | "<" | "<=" | ">" | ">=" => some 5
  | "==" | "!=" => some 4
  | "&" => some 3
  | "^" => some 2
  | "|" => some 1
  | _ => none

/-- The operator of an assignment sign. -/
def assignOp? : String → Option String
  | "=" => some ""
  | "+=" => some "+"
  | "-=" => some "-"
  | "*=" => some "*"
  | "/=" => some "/"
  | "%=" => some "%"
  | "<<=" => some "<<"
  | ">>=" => some ">>"
  | "&=" => some "&"
  | "^=" => some "^"
  | "|=" => some "|"
  | _ => none

variable {m : Type → Type} [Monad m]

mutual

/-- Reads an expression without operators between operands. Nothing is computed if it is not
`needed`. -/
def primary (scope : Scope m) (needed : Bool) : Nat → List Symbol → m (Int64 × List Symbol)
  | 0, _ => scope.fail "expecting primary"
  | fuel + 1, ss =>
    match ss with
    | .number n :: rest => return (n, rest)
    | .name n :: rest => do return (← if needed then scope.lookup n else pure 0, rest)
    | .sign "(" :: rest => do
      let (n, rest) ← assignment scope needed fuel rest
      match rest with
      | .sign ")" :: rest => return (n, rest)
      | _ => scope.fail "expecting ')'"
    | .sign "+" :: rest => primary scope needed fuel rest
    | .sign "-" :: rest => do
      let (n, rest) ← primary scope needed fuel rest
      return (-n, rest)
    | .sign "!" :: rest => do
      let (n, rest) ← primary scope needed fuel rest
      return (truth (n = 0), rest)
    | .sign "~" :: rest => do
      let (n, rest) ← primary scope needed fuel rest
      return (~~~n, rest)
    | _ => scope.fail "expecting primary"

/-- Reads the operators after an operand that bind at least as tightly as `least`. -/
def operators (scope : Scope m) (needed : Bool) :
    Nat → Nat → Int64 → List Symbol → m (Int64 × List Symbol)
  | 0, _, a, ss => return (a, ss)
  | fuel + 1, least, a, ss =>
    match ss with
    | .sign op :: rest =>
      match precedence? op with
      | some level =>
        if level < least then return (a, ss)
        else do
          let (b, rest) ← primary scope needed fuel rest
          let (b, rest) ← operators scope needed fuel (level + 1) b rest
          let n ← if needed then scope.apply op a b else pure b
          operators scope needed fuel least n rest
      | none => return (a, ss)
    | _ => return (a, ss)

/-- Reads operands that must all be true. What follows one that is not does not count. -/
def allTrue (scope : Scope m) (needed : Bool) : Nat → List Symbol → m (Int64 × List Symbol)
  | 0, _ => scope.fail "expecting primary"
  | fuel + 1, ss => do
    let (a, rest) ← primary scope needed fuel ss
    let (a, rest) ← operators scope needed fuel 0 a rest
    match rest with
    | .sign "&&" :: rest =>
      let (b, rest) ← allTrue scope (needed && a ≠ 0) fuel rest
      return (truth (a ≠ 0 && b ≠ 0), rest)
    | _ => return (a, rest)

/-- Reads operands of which one must be true. What follows one that is does not count. -/
def oneTrue (scope : Scope m) (needed : Bool) : Nat → List Symbol → m (Int64 × List Symbol)
  | 0, _ => scope.fail "expecting primary"
  | fuel + 1, ss => do
    let (a, rest) ← allTrue scope needed fuel ss
    match rest with
    | .sign "||" :: rest =>
      let (b, rest) ← oneTrue scope (needed && a = 0) fuel rest
      return (truth (a ≠ 0 || b ≠ 0), rest)
    | _ => return (a, rest)

/-- Reads an expression with a choice at its end. -/
def choice (scope : Scope m) (needed : Bool) : Nat → List Symbol → m (Int64 × List Symbol)
  | 0, _ => scope.fail "expecting primary"
  | fuel + 1, ss => do
    let (a, rest) ← oneTrue scope needed fuel ss
    match rest with
    | .sign "?" :: rest =>
      let (yes, rest) ← assignment scope (needed && a ≠ 0) fuel rest
      match rest with
      | .sign ":" :: rest =>
        let (no, rest) ← choice scope (needed && a = 0) fuel rest
        return (if a ≠ 0 then yes else no, rest)
      | _ => scope.fail "expecting ':'"
    | _ => return (a, rest)

/-- Reads an assignment or an expression without one. -/
def assignment (scope : Scope m) (needed : Bool) : Nat → List Symbol → m (Int64 × List Symbol)
  | 0, _ => scope.fail "expecting primary"
  | fuel + 1, ss =>
    match ss with
    | .name name :: .sign s :: rest =>
      match assignOp? s with
      | some op => do
        let (b, rest) ← assignment scope needed fuel rest
        if needed then
          let n ← if op = "" then pure b else do scope.apply op (← scope.lookup name) b
          scope.assign name n
          return (n, rest)
        else return (b, rest)
      | none => choice scope needed fuel ss
    | _ => choice scope needed fuel ss

end

/-- The value of a whole expression. -/
def valueOf (scope : Scope m) (s : String) : m Int64 := do
  let ss := symbols (s.length + 1) s.toList
  let (n, rest) ← assignment scope true (6 * ss.length + 6) ss
  if rest.isEmpty then return n else scope.fail "expecting EOF"

end Looplet.Shell.Arithmetic
