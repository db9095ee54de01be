import Looplet.Shell.Arithmetic
import Looplet.Shell.Process

/-!
# Calculation

A shell that knows more than the standard evaluates an expression while it reads it, token by token.
A variable may hold an expression in its turn, which is evaluated where the variable is used. What
is wrong with an expression is told together with the rest of the text from the last token on.

The same shell computes the values of some variables when they are set, so the functions that set
variables are here too.
-/

namespace Looplet.Shell

namespace Calculation

/-- A token. A sign may also be an assignment with an operator, or change a variable by one before
or after its value is taken. -/
inductive Token where
  | ending
  | number
  | name
  | sign (text : String)
  | assign (op : String)
  | stepBefore (up : Bool)
  | stepAfter (up : Bool)
  deriving DecidableEq

/-- A variable or one of its values, whose key is kept once it has been computed. -/
structure Target where
  name : String
  subscript? : Option String
  key? : Option String

/-- How far an expression has been read. -/
structure State where
  /-- The whole expression. -/
  text : List Char
  /-- What is left of it. -/
  rest : List Char
  /-- What was left of it at the last token. -/
  start : List Char
  token : Token
  /-- The token before the last one. -/
  before : Token
  target : Target
  /-- The value of a number or of a variable that is the last token. -/
  value : Int64
  /-- Whether values do not count, so that no variable is looked at or set. -/
  idle : Bool

/-- Evaluates a part of an expression. -/
abbrev Calc := StateT State (ExceptT String Run)

/-- Evaluates the expression in a variable or a subscript. -/
abbrev Inner := String → ExceptT String Run Int64

/-- What is wrong with an expression. -/
def faultText (text start : List Char) (message : String) : String :=
  String.ofList (text.dropWhile fun c => c = ' ' || c = '\t') ++ ": " ++ message
    ++ " (error token is \"" ++ String.ofList start ++ "\")"

/-- Gives up because of the last token. -/
def fail {α : Type} (message : String) : Calc α := do
  let s ← get
  throw (faultText s.text s.start message)

/-! ## Values -/

/-- The value of a digit in bases up to 64. -/
def digitValue (base : Nat) (c : Char) : Nat :=
  if c.isDigit then Text.digitValue c
  else if c.isLower then c.toNat - 'a'.toNat + 10
  else if c.isUpper then c.toNat - 'A'.toNat + (if base ≤ 36 then 10 else 36)
  else if c = '@' then 62
  else 63

/-- The value of digits in a base. -/
def digitsIn (base : Nat) (cs : List Char) : Calc Int64 := do
  if cs.any fun c => base ≤ digitValue base c then fail "value too great for base"
  else return Int64.ofInt (Int.ofNat (cs.foldl (fun n c => base * n + digitValue base c) 0))

/-- The value of a number. A leading zero means base eight or sixteen, and a base may stand before a
number sign. -/
def numberOf (cs : List Char) : Calc Int64 := do
  let plain := cs.takeWhile (· ≠ '#')
  match cs with
  | ['0'] => return 0
  | '0' :: x :: rest =>
    if cs.contains '#' then fail "invalid number"
    else if x = 'x' || x = 'X' then digitsIn 16 rest
    else digitsIn 8 (x :: rest)
  | _ =>
    match cs.drop plain.length with
    | [] => digitsIn 10 cs
    | _ :: digits =>
      let base := (← digitsIn 10 plain).toInt
      if base < 2 || 64 < base then fail "invalid arithmetic base"
      else if digits.isEmpty then fail "invalid integer constant"
      else if digits.contains '#' then fail "invalid number"
      else digitsIn base.toNat digits

/-- The key of one of the values of a variable. -/
def keyOf (inner : Inner) (name subscript : String) : ExceptT String Run String := do
  let t := (← getThe Process).table name
  if t.keys = .texts then return subscript
  else
    let n := (← inner subscript).toInt
    let n := if n < 0 then n + Int.ofNat t.nextNumber else n
    if n < 0 then throw (name ++ "[" ++ subscript ++ "]: bad array subscript")
    else return Nat.repr n.toNat

/-- A target with its key. -/
def withKey (inner : Inner) (t : Target) : Calc Target := do
  match t.subscript?, t.key? with
  | some s, none => return { t with key? := some (← keyOf inner t.name s) }
  | _, _ => return t

/-- The value of a variable or of one of its values, and its key. -/
def valueOf (inner : Inner) (t : Target) : Calc (Int64 × Target) := do
  if (← get).idle then return (0, t)
  else
    if t.name = "RANDOM" then modifyThe Process Process.withChance
    let t ← withKey inner t
    let p ← getThe Process
    let text? := match t.key? with
      | none => p.value? t.name
      | some key => (p.table t.name).get? key
    match text? with
    | some s => return (← inner s, t)
    | none =>
      if 'u' ∈ p.options then
        let stop : Run (Int64 × Target) := endWith (t.name ++ ": unbound variable")
        stop
      else return (0, t)

/-- Sets a variable or one of its values to a number. -/
def assign (inner : Inner) (t : Target) (n : Int64) : Calc Unit := do
  if !(← get).idle then
    let t ← withKey inner t
    let p ← getThe Process
    let target := p.target t.name
    if p.isReadOnly target then
      let warn : Run Unit := complainPlainly (target ++ ": readonly variable")
      warn
      throw ""
    else
      let put : Run Unit := putValue target t.key? (Text.ofWord n)
      put

/-! ## Tokens -/

/-- Whether a character is a sign of an expression. -/
def isSign (c : Char) : Bool := c ∈ "=><+-*/%!()&|^~?:,".toList

/-- Takes a token of a number of characters. -/
def takeToken (t : Token) (size : Nat) : Calc Unit :=
  modify fun s => { s with
    rest := s.start.drop size, before := s.token, token := t }

/-- Reads a sign. -/
def readSign (cs : List Char) : Calc Unit := do
  let s ← get
  let starts (text : String) : Bool := text.toList.isPrefixOf cs
  let doubled := starts "++" || starts "--"
  let up := starts "+"
  let wide := ["<<=", ">>=", "==", "!=", ">=", "<=", "<<", ">>", "&&", "||", "**"].find? starts
  match wide with
  | some "<<=" => takeToken (.assign "<<") 3
  | some ">>=" => takeToken (.assign ">>") 3
  | some text => takeToken (.sign text) 2
  | none =>
    if doubled && s.token = .name then takeToken (.stepAfter up) 2
    else if doubled && s.token = .number
        && (s.before = .stepBefore true || s.before = .stepBefore false) then
      fail ((if up then "++" else "--") ++ ": assignment requires lvalue")
    else if doubled && (((cs.drop 2).dropWhile isSpaceChar).head?.map isNameStart).getD false then
      takeToken (.stepBefore up) 2
    else
      match cs with
      | c :: '=' :: _ =>
        if c ∈ "*/%+-&^|".toList then takeToken (.assign c.toString) 2 else single c s.token
      | c :: _ => single c s.token
      | [] => takeToken .ending 0
where
  /-- Reads a sign of one character. -/
  single (c : Char) (token : Token) : Calc Unit := do
    if isSign c then takeToken (.sign c.toString) 1
    else
      match token with
      | .number | .name => fail "syntax error: invalid arithmetic operator"
      | _ => fail "syntax error: operand expected"

/-- Whether a character may belong to a number. -/
def isNumberChar (c : Char) : Bool := c.isAlphanum || c = '#' || c = '@' || c = '_'

/-- Reads the next token. After a name the token that follows is looked at first, since a variable
that is only set has no value yet. -/
def read (inner : Inner) : Nat → Calc Unit
  | 0 => fail "syntax error in expression"
  | fuel + 1 => do
    let s ← get
    match s.rest.dropWhile isSpaceChar with
    | [] => set { s with before := s.token, token := .ending, rest := [] }
    | c :: more =>
      let cs := c :: more
      set { s with start := cs }
      if isNameStart c then
        let name := cs.takeWhile isNameChar
        let after := cs.drop name.length
        let (subscript?, after) ← match after with
          | '[' :: inside =>
            match closeBracket 0 [] inside with
            | some (subscript, rest) => pure (some (String.ofList subscript), rest)
            | none => fail "bad array subscript"
          | _ => pure (none, after)
        set { s with start := cs, rest := after, token := .name, idle := true }
        read inner fuel
        let next := (← get).token
        let target : Target := ⟨String.ofList name, subscript?, none⟩
        set { s with start := cs, rest := after, target := target }
        let stepped := s.before = .stepBefore true || s.before = .stepBefore false
        let (n, target) ← if stepped || next ≠ .sign "=" then valueOf inner target
          else pure (0, target)
        modify fun t => { t with value := n, before := s.token, token := .name, target := target }
      else if c.isDigit then
        let digits := cs.takeWhile isNumberChar
        let n ← numberOf digits
        takeToken .number digits.length
        modify fun t => { t with value := n }
      else readSign cs

/-! ## Expressions -/

/-- How tightly the operators at hand bind. -/
inductive Level where
  | list
  | assign
  | choice
  | either
  | both
  | binary (n : Nat)
  | power
  | unary
  | operand

/-- The operators between two values that always need both, from the loosest on. -/
def binaryOps : List (List String) :=
  [["|"], ["^"], ["&"], ["==", "!="], ["<", ">", "<=", ">="], ["<<", ">>"], ["+", "-"],
    ["*", "/", "%"]]

/-- A power of a word. -/
def powerOf : Nat → Int64 → Nat → Int64
  | 0, _, _ => 1
  | fuel + 1, b, n =>
    if n = 0 then 1
    else (if n % 2 = 1 then b else 1) * powerOf fuel (b * b) (n / 2)

/-- Applies an operator to two words. A division by zero fails at the text after the operator. -/
def apply (op : String) (a b : Int64) (after : List Char) : Calc Int64 := do
  if (op = "/" || op = "%") && b = 0 then
    if (← get).idle then return a
    else
      modify fun s => { s with start := after.dropWhile fun c => c = ' ' || c = '\t' }
      fail "division by 0"
  else if Arithmetic.quotientOverflows a b && (op = "/" || op = "%") then
    return if op = "/" then a else 0
  else return (Arithmetic.applied? op a b).getD 0

/-- Evaluates a part whose value may not count. -/
def idling (idle : Bool) (body : Calc Int64) : Calc Int64 := do
  let was := (← get).idle
  modify fun s => { s with idle := was || idle }
  let n ← body
  modify fun s => { s with idle := was }
  return n

/-- Takes note that the value at hand is no longer that of a variable. -/
def asNumber (n : Int64) : Calc Int64 := do
  modify fun s => { s with before := .number }
  return n

/-- Evaluates what binds at least as tightly as a level. -/
def level (inner : Inner) : Nat → Level → Calc Int64
  | 0, _ => fail "expression recursion level exceeded"
  | fuel + 1, .list => do
    let mut n ← level inner fuel .assign
    for _ in [0:fuel] do
      if (← get).token ≠ .sign "," then break
      read inner fuel
      n ← level inner fuel .assign
    return n
  | fuel + 1, .assign => do
    let n ← level inner fuel .choice
    let s ← get
    let op? := match s.token with
      | .sign "=" => some ""
      | .assign op => some op
      | _ => none
    match op? with
    | none => return n
    | some op =>
      if s.before ≠ .name then fail "attempted assignment to non-variable"
      let after := s.rest
      read inner fuel
      let m ← level inner fuel .assign
      let r ← if op = "" then pure m else apply op n m after
      assign inner s.target r
      return r
  | fuel + 1, .choice => do
    let test ← level inner fuel .either
    if (← get).token ≠ .sign "?" then return test
    else
      let part (idle : Bool) (l : Level) (bad : Token → Bool) : Calc Int64 := idling idle do
        read inner fuel
        if bad (← get).token then fail "expression expected"
        level inner fuel l
      let yes ← part (test = 0) .list fun t => t = .ending || t = .sign ":"
      if (← get).token ≠ .sign ":" then
        fail ("\x60:' expected for conditional expression")
      let no ← part (test ≠ 0) .choice fun t => t = .ending
      asNumber (if test ≠ 0 then yes else no)
  | fuel + 1, .either => do
    let mut n ← level inner fuel .both
    for _ in [0:fuel] do
      if (← get).token ≠ .sign "||" then break
      let m ← idling (n ≠ 0) do
        read inner fuel
        level inner fuel .both
      n ← asNumber (Arithmetic.truth (n ≠ 0 || m ≠ 0))
    return n
  | fuel + 1, .both => do
    let mut n ← level inner fuel (.binary 0)
    for _ in [0:fuel] do
      if (← get).token ≠ .sign "&&" then break
      let m ← idling (n = 0) do
        read inner fuel
        level inner fuel (.binary 0)
      n ← asNumber (Arithmetic.truth (n ≠ 0 && m ≠ 0))
    return n
  | fuel + 1, .binary i => do
    match binaryOps[i]? with
    | none => level inner fuel .power
    | some ops =>
      let mut n ← level inner fuel (.binary (i + 1))
      for _ in [0:fuel] do
        match (← get).token with
        | .sign op =>
          if op ∉ ops then break
          let after := (← get).rest
          read inner fuel
          let m ← level inner fuel (.binary (i + 1))
          n ← asNumber (← apply op n m after)
        | _ => break
      return n
  | fuel + 1, .power => do
    let n ← level inner fuel .unary
    if (← get).token ≠ .sign "**" then return n
    else
      read inner fuel
      let m ← level inner fuel .power
      let _ ← asNumber m
      if m < 0 then fail "exponent less than 0"
      else return powerOf 64 n m.toInt.toNat
  | fuel + 1, .unary => do
    let after (f : Int64 → Int64) : Calc Int64 := do
      read inner fuel
      asNumber (f (← level inner fuel .unary))
    match (← get).token with
    | .sign "!" => after fun n => Arithmetic.truth (n = 0)
    | .sign "~" => after fun n => ~~~n
    | .sign "-" => after fun n => -n
    | .sign "+" => after id
    | _ => level inner fuel .operand
  | fuel + 1, .operand => do
    let s ← get
    match s.token with
    | .stepBefore up =>
      modify fun t => { t with before := .stepBefore up }
      read inner fuel
      let t ← get
      if t.token ≠ .name then
        fail "identifier expected after pre-increment or pre-decrement"
      let n := t.value + (if up then 1 else -1)
      assign inner t.target n
      modify fun t => { t with token := .number }
      read inner fuel
      return n
    | .sign "(" =>
      read inner fuel
      let n ← level inner fuel .list
      if (← get).token ≠ .sign ")" then fail "missing \x60)'"
      read inner fuel
      return n
    | .number =>
      read inner fuel
      return s.value
    | .name =>
      set { s with idle := true }
      read inner fuel
      match (← get).token with
      | .stepAfter up =>
        modify fun t => { t with idle := s.idle, target := s.target }
        assign inner s.target (s.value + (if up then 1 else -1))
        modify fun t => { t with token := .number, before := .name }
      | _ => set s
      read inner fuel
      return s.value
    | _ => fail "syntax error: operand expected"

/-- Evaluates an expression in which variables with expressions may be nested up to a depth. -/
def evaluateAt : Nat → Inner
  | 0 => fun text =>
    throw (faultText text.toList text.toList "expression recursion level exceeded")
  | depth + 1 => fun text => do
    let cs := text.toList
    if cs.all isSpaceChar then return 0
    else
      let inner := evaluateAt depth
      let fuel := 20 * (cs.length + 2)
      let whole : Calc Int64 := do
        read inner fuel
        let n ← level inner fuel .list
        if (← get).token ≠ .ending then fail "syntax error in expression"
        return n
      let (n, _) ← whole.run ⟨cs, cs, [], .ending, .ending, ⟨"", none, none⟩, 0, false⟩
      return n

/-- How deep variables with expressions may be nested. -/
def depthLimit : Nat := 1024

end Calculation

/-- The value of an expression, or what is wrong with it. There are no words for a fault that has
been reported already. -/
def calculate (text : String) : Run (Except String Int64) :=
  (Calculation.evaluateAt Calculation.depthLimit text).run

/-- Says what is wrong with an expression, after what it belongs to. -/
def complainFault (start message : String) : Run Unit := do
  if message ≠ "" then complain (start ++ message)
  setStatus 1

/-- The value of an expression that must have one. Without it, all commands that were read together
with the one at hand are given up, after a message that begins with what the expression belongs
to. -/
def calculated (start text : String) : Run Int64 := do
  match ← calculate text with
  | .ok n => return n
  | .error message =>
    complainFault start message
    throw .discard

/-! ## Setting variables -/

/-- A name and the subscript after it. -/
def splitSubscript (s : String) : String × Option String :=
  let name := s.toList.takeWhile (· ≠ '[')
  match s.toList.drop name.length with
  | _ :: rest =>
    if rest.getLast? = some ']' then (String.ofList name, some (String.ofList rest.dropLast))
    else (s, none)
  | [] => (s, none)

/-- The key of one of the values of a variable, or what is wrong with it. -/
def keyFor (name subscript : String) : Run (Except String String) :=
  (Calculation.keyOf (Calculation.evaluateAt Calculation.depthLimit) name subscript).run

/-- A value for a variable that may compute it or add it to the old one. -/
def newValue (v? : Option Variable) (old : String) (adds : Bool) (value : String) :
    Run String := do
  if (v?.map Variable.integer).getD false then
    let n ← calculated "" value
    let m ← if adds then calculated "" old else pure 0
    return Text.ofWord (m + n)
  else return if adds then old ++ value else value

/-- Sets a variable or one of its values, or adds to it. -/
def setValue (name : String) (subscript? : Option String) (adds : Bool) (value : String) :
    Run Unit := do
  let p ← get
  if !p.extended then putValue name none value
  else
    let (target, inner?) := splitSubscript (p.target name)
    if target = "RANDOM" then
      modify fun q => { q with
        extras := { q.extras with seed := ((Text.natural? value.toList).getD 0) % 4294967296 } }
    let v? := p.binding? target
    match subscript?.orElse fun _ => inner? with
    | none =>
      let old := (v?.bind Variable.value?).getD ""
      putValue target none (← newValue v? old adds value)
    | some subscript =>
      match ← keyFor target subscript with
      | .error message => giveUp message
      | .ok key =>
        if subscript = "" then giveUp (name ++ "[]: bad array subscript")
        else
          let old := ((p.table target).get? key).getD ""
          putValue target (some key) (← newValue v? old adds value)

/-- Sets the value of a variable. -/
def setVariable (name value : String) : Run Unit := setValue name none false value

/-- Puts values with keys and values without into a table by texts. Without keys, every second value
is one for the key before it. -/
def textItems : List Given → List Given
  | ⟨none, adds, key⟩ :: ⟨none, _, value⟩ :: rest =>
    ⟨some key, adds, value⟩ :: textItems rest
  | [⟨none, adds, key⟩] => [⟨some key, adds, ""⟩]
  | item :: rest => item :: textItems rest
  | [] => []

/-- Sets a variable to several values, or adds them to those it has. -/
def setItems (name : String) (adds : Bool) (items : List Given) : Run Unit := do
  let p ← get
  let name := p.target name
  if p.isReadOnly name then readOnlyError name
  let v := (p.binding? name).getD { name := name, text? := none }
  let keys := (v.table?.map Table.keys).getD .numbers
  let first := if adds then v.table else .empty keys
  changeVariable name fun v =>
    { v with text? := none, table? := some first, declaredOnly := false }
  let mut next := first.nextNumber
  for item in if keys = .texts then textItems items else items do
    let t := (← get).table name
    let key ← match item.key?, keys with
      | some key, .texts => pure key
      | some subscript, .numbers => do
        match ← keyFor name subscript with
        | .ok key => pure key
        | .error message => giveUp message
      | none, _ => pure (Nat.repr next)
    next := Table.orderOf .numbers key + 1
    let value ← newValue (some v) ((t.get? key).getD "") item.adds item.value
    changeVariable name fun v => { v with table? := some (v.table.put key (v.lettered value)) }

end Looplet.Shell
